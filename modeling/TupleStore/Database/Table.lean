import TupleStore.Client

/-!
# Tables

A table is a space with its tuples, kept in primary key order.  Every operation
checks all its conditions before it changes anything, so a failing operation
leaves the table as it was.
-/

namespace TupleStore.Database

inductive Fault where
  | unknownSpace (space : String)
  | spaceExists (space : String)
  | noPrimary (space : String)
  | unknownName (name : UnknownName)
  | missingField (position : Nat) (name : String)
  | duplicateKey (index space : String)
  | keyModified (space : String)
  | operandType (operator : String) (position : Nat)
  | unknownOperator (operator : String)
  | malformedArguments (expectation : String)
  | undefinedProcedure (name : String)
  | unsupportedExpression (expression : String)
  | raised (kind : ErrorKind) (message : String)
  deriving DecidableEq, Repr

inductive Slot where
  | taken (position : Nat)
  | free (position : Nat)
  deriving DecidableEq, Repr

/--
Halves `size` positions from `base` on until one is left, keeping the upper half
where its first item does not exceed the probe.
-/
def narrow {α : Type} (probe : α → Ordering) (items : List α) : (fuel base size : Nat) → Nat
  | 0, base, _ => base
  | fuel + 1, base, size =>
      if size ≤ 1 then base
      else
        let half := size / 2
        let exceeds := (items[base + half]?.map probe).getD .gt == .gt
        narrow probe items fuel (if exceeds then base else base + half) (size - half)

/-- Binary search for the item on which `probe` is `.eq`. -/
def search {α : Type} (probe : α → Ordering) (items : List α) : Slot :=
  let base := narrow probe items items.length 0 items.length
  match items[base]?.map probe with
  | none => .free 0
  | some .eq => .taken base
  | some .lt => .free (base + 1)
  | some .gt => .free base

structure Table where
  space : Space
  tuples : List Tuple := []
  deriving DecidableEq, Repr

namespace Table

def primary (table : Table) : Except Fault Index :=
  match table.space.primary? with
  | none => .error (.noPrimary table.space.name)
  | some index => .ok index

def find (table : Table) (primary : Index) (key : Key) : Slot :=
  search (fun tuple => Value.compareKeys (primary.keyOf tuple) key) table.tuples

/-! ## Checks -/

def mayBeNil (field : Field) : Bool := field.nullable || field.type == "any"

def checkFields (tuple : Tuple) : (position : Nat) → List Field → Except Fault Unit
  | _, [] => .ok ()
  | position, field :: fields =>
      if (fieldAt tuple position).isNil && !mayBeNil field then
        .error (.missingField (position + 1) field.name)
      else checkFields tuple (position + 1) fields

def checkFormat (table : Table) (tuple : Tuple) : Except Fault Unit :=
  checkFields tuple 0 table.space.format

def conflicts (index : Index) (tuple : Tuple) (tuples : List Tuple) : Bool :=
  tuples.any fun other =>
    Value.compareKeys (index.keyOf other) (index.keyOf tuple) == .eq

def checkUnique (table : Table) (tuple : Tuple) (others : List Tuple) : Except Fault Unit :=
  match table.space.indexes.find? fun index =>
      index.unique && conflicts index tuple others with
  | none => .ok ()
  | some index => .error (.duplicateKey index.name table.space.name)

/-! ## Operations -/

def insert (table : Table) (tuple : Tuple) : Except Fault Table := do
  table.checkFormat tuple
  let primary ← table.primary
  match table.find primary (primary.keyOf tuple) with
  | .taken _ => throw (.duplicateKey primary.name table.space.name)
  | .free position =>
      table.checkUnique tuple table.tuples
      return { table with tuples := table.tuples.insertIdx position tuple }

def replace (table : Table) (tuple : Tuple) : Except Fault Table := do
  table.checkFormat tuple
  let primary ← table.primary
  match table.find primary (primary.keyOf tuple) with
  | .taken position =>
      table.checkUnique tuple (table.tuples.eraseIdx position)
      return { table with tuples := table.tuples.set position tuple }
  | .free position =>
      table.checkUnique tuple table.tuples
      return { table with tuples := table.tuples.insertIdx position tuple }

/-- A sum or difference in the signed 64-bit range, which wraps. -/
def wrap (number : Int) : Int := number.bmod 0x10000000000000000

def operand (operation : UpdateOperation) (old : Value) : Except Fault Value :=
  match operation.operator with
  | "=" => .ok operation.value
  | "+" | "-" =>
      match old.signed?, operation.value.signed? with
      | some l, some r =>
          .ok (.int (wrap (if operation.operator = "+" then l + r else l - r)))
      | _, _ => .error (.operandType operation.operator (operation.position + 1))
  | operator => .error (.unknownOperator operator)

/-- The tuple with the operation applied; a short tuple is filled up with nil. -/
def applyOperation (tuple : Tuple) (operation : UpdateOperation) : Except Fault Tuple := do
  let value ← operand operation (fieldAt tuple operation.position)
  let padding := List.replicate (operation.position + 1 - tuple.length) Value.nil
  return (tuple ++ padding).set operation.position value

def applyOperations (tuple : Tuple) : List UpdateOperation → Except Fault Tuple
  | [] => .ok tuple
  | operation :: operations => do
      applyOperations (← applyOperation tuple operation) operations

def update (table : Table) (key : Key) (operations : List UpdateOperation) :
    Except Fault (Table × Option Tuple) := do
  let primary ← table.primary
  match table.find primary key with
  | .free _ => return (table, none)
  | .taken position =>
      let tuple ← applyOperations (table.tuples.getD position []) operations
      if Value.compareKeys (primary.keyOf tuple) key != .eq then
        throw (.keyModified table.space.name)
      table.checkFormat tuple
      table.checkUnique tuple (table.tuples.eraseIdx position)
      return ({ table with tuples := table.tuples.set position tuple }, some tuple)

/-- Updates the tuple with the key of `tuple`, or inserts `tuple` where there is none. -/
def upsert (table : Table) (tuple : Tuple) (operations : List UpdateOperation) :
    Except Fault Table := do
  let primary ← table.primary
  match ← table.update (primary.keyOf tuple) operations with
  | (table, some _) => return table
  | (table, none) => table.insert tuple

def delete (table : Table) (key : Key) : Except Fault (Table × Option Tuple) := do
  let primary ← table.primary
  match table.find primary key with
  | .free _ => return (table, none)
  | .taken position =>
      return ({ table with tuples := table.tuples.eraseIdx position }, table.tuples[position]?)

def select (table : Table) (conditions : Conditions) : Except Fault (List Tuple) :=
  (conditions.filter table.space table.tuples).mapError .unknownName

end Table

end TupleStore.Database
