import TupleStore.Json.Exact

/-!
# Requests as JSON

A request is read from its name and an object with its arguments, and its answer
is written in exact form.
-/

namespace TupleStore.Request

open ToJson (toJson)

def ofJson? (name : String) (json : Json) : Option Request := do
  match name with
  | "space" => return .space (← json.field? "space")
  | "refresh_metadata" => return .refreshMetadata
  | "select" => return .select (← json.field? "space") (← json.field? "conditions")
  | "insert" => return .insert (← json.field? "space") (← json.field? "tuple")
  | "replace" => return .replace (← json.field? "space") (← json.field? "tuple")
  | "update" =>
      return .update (← json.field? "space") (← json.field? "key") (← json.field? "ops")
  | "upsert" =>
      return .upsert (← json.field? "space") (← json.field? "tuple") (← json.field? "ops")
  | "delete" => return .delete (← json.field? "space") (← json.field? "key")
  | "truncate" => return .truncate (← json.field? "space")
  | "call" => return .call (← json.field? "function") (← json.fieldOr? "args" [])
  | "eval" => return .eval (← json.field? "expression") (← json.fieldOr? "args" [])
  | _ => none

def answerToJson : (request : Request) → request.Answer → Json
  | .space _, answer => toJson answer
  | .select .., answer | .insert .., answer | .replace .., answer | .update .., answer
  | .delete .., answer => toJson answer
  | .refreshMetadata, answer | .upsert .., answer | .truncate _, answer => toJson answer
  | .call .., answer | .eval .., answer => toJson answer

end TupleStore.Request
