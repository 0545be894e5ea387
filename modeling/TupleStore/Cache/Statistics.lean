/-!
# Statistics of caches

A collector counts what happens to each cache.  A get is first counted as a get
and later as a hit or a miss; in between it is pending.
-/

namespace TupleStore.Cache

inductive Occurrence where
  | put
  | get
  | hit
  | miss
  | delete (count : Nat)
  deriving DecidableEq, Repr

/-- The counts of one cache since its last reset, with times in milliseconds. -/
structure Counters where
  puts : Nat := 0
  gets : Nat := 0
  hits : Nat := 0
  misses : Nat := 0
  deletes : Nat := 0
  /-- When the counting began. -/
  since : Nat
  lastReset : Nat
  deriving DecidableEq, Repr

namespace Counters

def start (now : Nat) : Counters := { since := now, lastReset := now }

def count (counters : Counters) : Occurrence → Counters
  | .put => { counters with puts := counters.puts + 1 }
  | .get => { counters with gets := counters.gets + 1 }
  | .hit => { counters with hits := counters.hits + 1 }
  | .miss => { counters with misses := counters.misses + 1 }
  | .delete count => { counters with deletes := counters.deletes + count }

def reset (counters : Counters) (now : Nat) : Counters :=
  { start now with since := counters.since }

def pending (counters : Counters) : Nat := counters.gets - (counters.hits + counters.misses)

end Counters

inductive Collector where
  | disabled
  | enabled (counters : List (String × Counters))
  deriving DecidableEq, Repr

namespace Collector

def create : Collector := .enabled []

def isEnabled : Collector → Bool
  | .disabled => false
  | .enabled _ => true

def counters (collector : Collector) (cache : String) (now : Nat) : Counters :=
  match collector with
  | .disabled => .start now
  | .enabled counters =>
      ((counters.find? fun entry => entry.1 == cache).map Prod.snd).getD (.start now)

def record (collector : Collector) (cache : String) (now : Nat)
    (change : Counters → Counters) : Collector :=
  match collector with
  | .disabled => .disabled
  | .enabled counters =>
      .enabled ((cache, change (collector.counters cache now)) ::
        counters.filter fun entry => entry.1 != cache)

def count (collector : Collector) (cache : String) (now : Nat) (occurrence : Occurrence) :
    Collector :=
  collector.record cache now fun counters => counters.count occurrence

def reset (collector : Collector) (cache : String) (now : Nat) : Collector :=
  collector.record cache now fun counters => counters.reset now

end Collector

end TupleStore.Cache
