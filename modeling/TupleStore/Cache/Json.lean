import TupleStore.Cache.Configuration
import TupleStore.Cache.Statistics
import TupleStore.Json.Class

/-!
# JSON forms of caches

The configuration of a cache, in which everything may be left out, and its counts.
-/

namespace TupleStore.Cache

open ToJson (toJson)
open OfJson (ofJson?)

def ofMilliseconds? (milliseconds : Nat) : Option Duration :=
  Duration.of? (milliseconds / 1000) (milliseconds % 1000 * 1000000)

instance : ToJson Configuration :=
  ⟨fun config => .object [("ttl_ms", toJson (config.ttl.totalNanos / 1000000)),
    ("cache_null_values", toJson config.cachesNil), ("prefix", toJson config.namePrefix)]⟩

instance : OfJson Configuration where
  ofJson? json := do
    return {
      ttl := ← ofMilliseconds? (← json.fieldOr? "ttl_ms" 0)
      cachesNil := ← json.fieldOr? "cache_null_values" true
      namePrefix := ← match json.given? "prefix" with
        | none => some none
        | some text => some <$> ofJson? text }

def Counters.description (counters : Counters) (cache : String) (now : Nat) : Json :=
  .object [("cache_name", toJson cache), ("puts", toJson counters.puts),
    ("gets", toJson counters.gets), ("hits", toJson counters.hits),
    ("misses", toJson counters.misses), ("deletes", toJson counters.deletes),
    ("pending", toJson counters.pending),
    ("ordered", .bool (counters.since ≤ counters.lastReset && counters.lastReset ≤ now))]

end TupleStore.Cache
