/-!
# Functions of a cluster

A cluster answers data requests by stored functions, whose names can be set.
-/

namespace TupleStore.Cluster

structure Functions where
  /-- Describes the spaces of the cluster. -/
  schema : String := "ddl.get_schema"
  select : String := "crud.select"
  insert : String := "crud.insert"
  replace : String := "crud.replace"
  update : String := "crud.update"
  upsert : String := "crud.upsert"
  delete : String := "crud.delete"
  truncate : String := "crud.truncate"
  deriving DecidableEq, Repr

end TupleStore.Cluster
