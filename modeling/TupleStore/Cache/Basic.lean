import TupleStore.Cache.Configuration
import TupleStore.Cache.Entries
import TupleStore.Codec.Basic
import TupleStore.MessagePack.Writer

/-!
# Caches

A cache stores values of any type under keys of any type, written as MessagePack.
-/

namespace TupleStore

structure Cache where
  name : String
  config : Cache.Configuration := {}
  deriving DecidableEq, Repr

namespace Codec

variable {α : Type}

def toBytes (codec : Codec α) (value : α) : Bytes := MessagePack.encode (codec.write value)

def ofBytes (codec : Codec α) (bytes : Bytes) : Except ReadError α :=
  match MessagePack.decodeStrict? bytes with
  | some (value, _) => codec.load value
  | none => .error (.mismatch "a MessagePack value")

end Codec

namespace Cache

variable {κ α : Type}

def space (cache : Cache) : String := cache.config.spaceName cache.name

def readValue (codec : Codec α) (bytes : Bytes) : Action α :=
  .done ((codec.ofBytes bytes).mapError fun error => .cache (.unreadable error))

/-- The bytes of a value; nil is refused where it must not be stored. -/
def writeValue (cache : Cache) (codec : Codec α) (value : α) : Action Bytes := do
  let bytes := codec.toBytes value
  if bytes = MessagePack.encode .nil ∧ !cache.config.cachesNil then
    throw (.usage (.nilNotCached cache.name))
  return bytes

def get (cache : Cache) (keys : Codec κ) (values : Codec α) (key : κ) : Action (Option α) := do
  match ← Entries.get cache.space (keys.toBytes key) with
  | none => return none
  | some bytes => some <$> readValue values bytes

def put (cache : Cache) (keys : Codec κ) (values : Codec α) (key : κ) (value : α) :
    Action Unit := do
  let bytes ← cache.writeValue values value
  Entries.put cache.space (keys.toBytes key) bytes cache.config.ttl

/--
The value stored under the key, or else the loaded value, which is stored.  The
second part of the result tells whether the value was loaded.
-/
def getOrLoad (cache : Cache) (keys : Codec κ) (values : Codec α) (key : κ)
    (load : Action α) : Action (α × Bool) := do
  match ← cache.get keys values key with
  | some value => return (value, false)
  | none => do
      let value ← load
      cache.put keys values key value
      return (value, true)

def putIfAbsent (cache : Cache) (keys : Codec κ) (values : Codec α) (key : κ) (value : α) :
    Action (Option α) := do
  let bytes ← cache.writeValue values value
  match ← Entries.putIfAbsent cache.space (keys.toBytes key) bytes cache.config.ttl with
  | none => return none
  | some existing => some <$> readValue values existing

def evict (cache : Cache) (keys : Codec κ) (key : κ) : Action Unit :=
  Entries.remove cache.space (keys.toBytes key)

def clear (cache : Cache) : Action Unit := Entries.clear cache.space

end Cache

end TupleStore
