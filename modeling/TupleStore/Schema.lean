import TupleStore.Value

/-!
# Spaces

A space holds tuples.  Its description names the fields of the tuples, in tuple
order, and the indexes on them.  The primary index is the index with number 0.
-/

namespace TupleStore

structure Field where
  name : String
  type : String := "any"
  nullable : Bool := false
  deriving DecidableEq, Repr

structure Index where
  id : UInt32
  name : String
  unique : Bool
  parts : List Nat
  deriving DecidableEq, Repr

structure Space where
  id : UInt32
  name : String
  format : List Field := []
  indexes : List Index := []
  deriving DecidableEq, Repr

/-- The value of a tuple at a position; nil past the end. -/
def fieldAt (tuple : Tuple) (position : Nat) : Value := tuple.getD position .nil

namespace Index

def keyOf (index : Index) (tuple : Tuple) : Key := index.parts.map (fieldAt tuple)

end Index

namespace Space

def fieldNames (space : Space) : List String := space.format.map Field.name

def fieldPosition? (space : Space) (name : String) : Option Nat :=
  space.format.findIdx? fun field => field.name == name

def primary? (space : Space) : Option Index :=
  space.indexes.find? fun index => index.id == 0

/--
The first index with this name.  The name `primary` stands for the primary
index where no index has that name.
-/
def index? (space : Space) (name : String) : Option Index :=
  (space.indexes.find? fun index => index.name == name).or
    (if name = "primary" then space.primary? else none)

end Space

end TupleStore
