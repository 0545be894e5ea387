import TupleStore.Event
import TupleStore.Sample.Kind

/-!
# Sample callbacks

Callbacks for users and notes, by name.
-/

namespace TupleStore.Sample

instance : Auditable Note where
  markCreated _ note := { note with created := some true }
  markModified _ note := { note with modified := some true }

def addUserCallback (callbacks : Callbacks User) (name : String) : Callbacks User :=
  let convert (change : String → User → User) : Callbacks User :=
    { callbacks with beforeConvert := callbacks.beforeConvert ++ [change] }
  let save (change : String → Tuple → User → User) : Callbacks User :=
    { callbacks with beforeSave := callbacks.beforeSave ++ [change] }
  match name with
  | "user_space" => convert fun space user => { user with name := user.name ++ "@" ++ space }
  | "user_bang" => convert fun _ user => { user with name := user.name ++ "!" }
  | "user_next_id" => convert fun _ user => { user with id := user.id + 1 }
  | "user_saved" => save fun space tuple user =>
      { user with email := some (toString tuple.length ++ " fields in " ++ space) }
  | "user_saved_bang" => save fun _ _ user => { user with email := user.email.map (· ++ "!") }
  | _ => callbacks

def addNoteCallback (now : Instant) (callbacks : Callbacks Note) (name : String) :
    Callbacks Note :=
  match name with
  | "note_audit" => { callbacks with beforeConvert := callbacks.beforeConvert ++ [auditing now] }
  | _ => callbacks

def Kind.callbacks (now : Instant) (names : List String) : (kind : Kind) → Callbacks kind.Carrier
  | .user => names.foldl addUserCallback {}
  | .note => names.foldl (addNoteCallback now) {}
  | .book | .translation | .comment | .rating | .post | .schedule | .counter | .gauge | .bag
  | .loose | .any | .orphan => {}

end TupleStore.Sample
