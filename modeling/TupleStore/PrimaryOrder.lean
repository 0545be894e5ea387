import TupleStore.Schema
import TupleStore.Value.Order

/-!
# Primary key order

`sortBy` sorts items by an order of their keys.  Items with equal keys keep
their order.
-/

namespace TupleStore

variable {α κ : Type}

/-- Puts an item into sorted items, which are given from the last to the first. -/
def insertFromEnd (compare : κ → κ → Ordering) (key : α → κ) (item : α) : List α → List α
  | [] => [item]
  | last :: rest =>
      if compare (key item) (key last) == .lt then last :: insertFromEnd compare key item rest
      else item :: last :: rest

def sortBy (compare : κ → κ → Ordering) (key : α → κ) (items : List α) : List α :=
  (items.foldl (fun sorted item => insertFromEnd compare key item sorted) []).reverse

/-- The tuples in primary key order; as they are in a space without primary index. -/
def Space.inPrimaryOrder (space : Space) (tuples : List Tuple) : List Tuple :=
  match space.primary? with
  | none => tuples
  | some primary => sortBy Value.compareKeys primary.keyOf tuples

end TupleStore
