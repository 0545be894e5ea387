import TupleStore.Proofs.Reachable

/-!
# Requests on one table

A request on a space reads and writes the table with its name, and leaves the
table there when it fails.
-/

namespace TupleStore.Database

variable {database : Database} {table after : Table} {space : String}

theorem table_of_table? (h : database.table? space = some table) :
    database.table space = .ok table := by
  rw [Database.table, h]

section

variable {α β : Type} {change : Table → Except Fault α} {next : α → β × Table}

theorem onTable_ok {result : α} (h : database.table? space = some table)
    (hchange : change table = .ok result) :
    database.onTable space change next =
      (.ok (next result).1, database.putTable (next result).2) := by
  rw [onTable, table_of_table? h]
  change database.commit (change table) _ = _
  rw [hchange]
  rfl

theorem onTable_error {fault : Fault} (h : database.table? space = some table)
    (hchange : change table = .error fault) :
    database.onTable space change next = (.error fault.toClientError, database) := by
  rw [onTable, table_of_table? h]
  change database.commit (change table) _ = _
  rw [hchange]
  rfl

end

theorem table?_putTable (h : database.table? space = some table)
    (hspace : after.space.name = table.space.name) :
    (database.putTable after).table? space = some after := by
  have hname : after.space.name = space := by
    rw [hspace]
    exact table?_name h
  have hsame : (fun other : Table => other.space.name == space) ∘
      (fun other => if other.space.name = after.space.name then after else other) =
      fun other => other.space.name == space := by
    funext other
    rw [Function.comp_apply]
    split
    next heq => rw [heq]
    next => rfl
  rw [Database.table?, putTable, List.find?_map, hsame, ← Database.table?, h, Option.map_some,
    if_pos hspace.symm]

end TupleStore.Database
