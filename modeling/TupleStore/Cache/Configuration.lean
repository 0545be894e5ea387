import TupleStore.Time

/-!
# Configuration of caches

Each cache keeps its entries in a space, whose name is made from the name of the
cache.
-/

namespace TupleStore.Cache

structure Configuration where
  /-- How long an entry lives; entries live forever when it is zero. -/
  ttl : Duration := .zero
  cachesNil : Bool := true
  /-- What stands before the name of a cache in the name of its space. -/
  namePrefix : Option String := none
  deriving DecidableEq, Repr

namespace Configuration

def isNameChar (c : Char) : Bool := c.isAlphanum

/-- The name of the space of a cache, in which all but ASCII letters and digits become `_`. -/
def spaceName (config : Configuration) (cache : String) : String :=
  String.ofList ((config.namePrefix.getD "" ++ cache).toList.map fun c =>
    if isNameChar c then c else '_')

end Configuration

end TupleStore.Cache
