import TupleStore.Cache.Basic
import TupleStore.Proofs.Cut
import TupleStore.Proofs.EmbeddedEntries

/-!
# Names of the spaces of caches

The name of a space holds letters, digits and underscores only, whatever the name of
the cache and the prefix are.  It therefore stands in expressions and in the names of
methods as it is.
-/

namespace TupleStore

namespace Text

variable {first last : Char} {inner rest : List Char}

theorem trim_of_ends (hfirst : isBlank first = false) (hlast : isBlank last = false) :
    trim (first :: inner ++ [last]) = first :: inner ++ [last] := by
  have hfront : (first :: inner ++ [last]).dropWhile isBlank = first :: inner ++ [last] :=
    List.dropWhile_cons_of_neg (by simp [hfirst])
  unfold trim
  rw [hfront, List.reverse_append, List.reverse_singleton, List.singleton_append,
    List.dropWhile_cons_of_neg (by simp [hlast])]
  simp

theorem dropRepeated_of_ne {head : List Char} {c : Char} (h : c ≠ first) (fuel : Nat) :
    dropRepeated (c :: head) fuel (first :: rest) = first :: rest := by
  cases fuel with
  | zero => rfl
  | succ fuel => rw [dropRepeated, dropPrefix?_cons_of_ne h]

theorem dropSuffix?_append (before tail : List Char) :
    dropSuffix? tail (before ++ tail) = some before := by
  rw [dropSuffix?, List.reverse_append, dropPrefix?_append, Option.map_some, List.reverse_reverse]

end Text

namespace Database

variable {space method : String}

theorem strip_of_ends {expression : String} {inner : List Char}
    (h : expression.toList = 'b' :: inner ++ [')']) : strip expression = expression.toList := by
  have htrim : Text.trim ('b' :: inner ++ [')']) = 'b' :: inner ++ [')'] :=
    Text.trim_of_ends (by decide) (by decide)
  rw [strip, h, htrim]
  change Text.trim (Text.dropRepeated ('r' :: "eturn ".toList) _ ('b' :: (inner ++ [')']))) = _
  rw [Text.dropRepeated_of_ne (by decide)]
  exact htrim

theorem spaceMethod?_append (h : ':' ∉ space.toList) (method : String) :
    spaceMethod? ("box.space." ++ space ++ ":" ++ method).toList = some (space, method) := by
  have hname : ("box.space." ++ space ++ ":" ++ method).toList =
      "box.space.".toList ++ (space.toList ++ ':' :: method.toList) := by simp
  rw [spaceMethod?, hname, Text.dropPrefix?_append]
  change (Text.splitOnce? ':' (space.toList ++ ':' :: method.toList)).bind _ = _
  rw [Text.splitOnce?_append h]
  simp

theorem createdSpace?_append (space : String) :
    createdSpace? (strip ("box.schema.space.create('" ++ space ++ "')")) = some space := by
  have hexpression : ("box.schema.space.create('" ++ space ++ "')").toList =
      "box.schema.space.create('".toList ++ (space.toList ++ "')".toList) := by simp
  have hends : ("box.schema.space.create('" ++ space ++ "')").toList =
      'b' :: ("ox.schema.space.create('".toList ++ space.toList ++ ['\'']) ++ [')'] := by simp
  rw [strip_of_ends hends, hexpression, createdSpace?, Text.dropPrefix?_append]
  change (Text.dropSuffix? "')".toList (space.toList ++ "')".toList)).bind _ = _
  rw [Text.dropSuffix?_append]
  simp

theorem strip_drop (space : String) :
    strip ("box.space." ++ space ++ ":drop()") =
      ("box.space." ++ space ++ ":" ++ "drop").toList ++ "()".toList := by
  have hends : ("box.space." ++ space ++ ":drop()").toList =
      'b' :: ("ox.space.".toList ++ space.toList ++ ":drop(".toList) ++ [')'] := by simp
  rw [strip_of_ends hends]
  simp

theorem evaluate_drop (h : ':' ∉ space.toList) :
    createdSpace? (strip ("box.space." ++ space ++ ":drop()")) = none ∧
      (Text.dropSuffix? "()".toList (strip ("box.space." ++ space ++ ":drop()"))).bind
        spaceMethod? = some (space, "drop") := by
  rw [strip_drop]
  constructor
  · rw [createdSpace?]
    simp [Text.dropPrefix?]
  · rw [Text.dropSuffix?_append]
    exact spaceMethod?_append h "drop"

end Database

namespace Cache

open Database

theorem isPlain_of_not_mem {space : String} (h : ':' ∉ space.toList) : IsPlain space where
  created := createdSpace?_append space
  format := spaceMethod?_append h "format"
  createIndex := spaceMethod?_append h "create_index"

theorem not_mem_spaceName (config : Configuration) (name : String) :
    ':' ∉ (config.spaceName name).toList := by
  unfold Configuration.spaceName
  rw [String.toList_ofList]
  intro h
  obtain ⟨c, -, hc⟩ := List.mem_map.mp h
  split at hc
  next hchar =>
    rw [hc] at hchar
    contradiction
  next => contradiction

theorem isPlain_spaceName (config : Configuration) (name : String) :
    IsPlain (config.spaceName name) := isPlain_of_not_mem (not_mem_spaceName config name)

end Cache

end TupleStore
