import TupleStore.MethodQuery.Basic
import TupleStore.Text.Words
import TupleStore.Text.Cut

/-!
# Parsing method names

A method name is a verb, a subject, `By` and a predicate.  The subject may hold
`First` or `Top` with a number; the predicate is a list of parts joined by
`And`.  A part is a property, which is the name of a field in Pascal case, and a
comparison.
-/

namespace TupleStore

namespace MethodQuery

/-! ## Vocabulary -/

def verbs : List (String × Execution) :=
  [("find", .collection), ("read", .collection), ("get", .collection),
    ("query", .collection), ("search", .collection), ("stream", .collection),
    ("count", .count), ("exists", .exists), ("delete", .delete), ("remove", .delete)]

def keywords : List (String × Keyword) :=
  [("", .equals), ("Equals", .equals), ("GreaterThan", .greaterThan), ("After", .greaterThan),
    ("GreaterThanEqual", .greaterThanEqual), ("LessThan", .lessThan), ("Before", .lessThan),
    ("LessThanEqual", .lessThanEqual), ("Between", .between), ("True", .isTrue),
    ("False", .isFalse)]

def unsupportedKeywords : List String :=
  ["Not", "In", "NotIn", "Null", "NotNull", "Empty", "NotEmpty", "Like", "NotLike",
    "StartingWith", "StartsWith", "EndingWith", "EndsWith", "Containing", "Contains",
    "NotContaining", "Matches", "MatchesRegex", "Regex", "Near", "Within", "Exists",
    "IgnoreCase", "IgnoringCase"]

def isCapital (c : Char) : Bool := 'A' ≤ c && c ≤ 'Z'

def isSmall (c : Char) : Bool := 'a' ≤ c && c ≤ 'z'

/-! ## Verb and limit -/

/-- The verb of a method and the rest, which is empty or begins with a capital. -/
def splitVerb? (method : List Char) : Option (Execution × List Char) :=
  verbs.findSome? fun (verb, execution) =>
    match Text.dropPrefix? verb.toList method with
    | some rest => if rest.head?.all isCapital then some (execution, rest) else none
    | none => none

def maxLimit : Nat := 0xffffffffffffffff

/--
The number after the first occurrence of `word`: one when there are no digits or
too many, and none when the word goes on with a small letter.
-/
def limitAfter? (word subject : List Char) : Option Nat := do
  let (_, rest) ← Text.findWord? word subject
  if ((rest.dropWhile Char.isDigit).head?.any isSmall) then none
  else
    match Text.digits? (rest.takeWhile Char.isDigit) with
    | some number => if number ≤ maxLimit then some number else some 1
    | none => some 1

def limit? (subject : List Char) : Option Nat :=
  (limitAfter? "First".toList subject).or (limitAfter? "Top".toList subject)

/-! ## Pieces -/

theorem length_of_dropPrefix? {head text rest : List Char}
    (found : Text.dropPrefix? head text = some rest) : rest.length ≤ text.length := by
  rw [Text.dropPrefix?_eq_some_iff.mp found]
  simp

/--
Cuts the text at each occurrence of the keyword `first :: others` which a capital
follows and which is not at the start of its piece.  `piece` holds the characters
of the current piece so far, in reverse.
-/
def splitFrom (first : Char) (others piece : List Char) : List Char → List (List Char)
  | [] => [piece.reverse]
  | c :: rest =>
      if c = first then
        match found : Text.dropPrefix? others rest with
        | some after =>
            have := length_of_dropPrefix? found
            if piece ≠ [] ∧ after.head?.any isCapital then
              piece.reverse :: splitFrom first others [] after
            else splitFrom first others (others.reverse ++ c :: piece) after
        | none => splitFrom first others (c :: piece) rest
      else splitFrom first others (c :: piece) rest
termination_by text => text.length

def splitKeyword (keyword text : List Char) : List (List Char) :=
  match keyword with
  | [] => [text]
  | first :: others => splitFrom first others [] text

/-! ## Parts -/

/-- The fields with their properties, longer properties first. -/
def properties (fields : List String) : List (List Char × String) :=
  (fields.map fun field => (Text.pascalCase field.toList, field)).mergeSort
    fun l r => (String.ofList r.1).utf8ByteSize ≤ (String.ofList l.1).utf8ByteSize

/-- The part for the first property which begins the text. -/
def parsePart (fields : List String) (text : List Char) : Except UsageError Part :=
  let unknown := UsageError.unknownProperty (String.ofList text)
  let found := (properties fields).findSome? fun (property, field) =>
    (Text.dropPrefix? property text).map fun rest => (rest, field)
  match found with
  | none => .error unknown
  | some (rest, field) =>
      let spelled := String.ofList ((Text.dropPrefix? "Is".toList rest).getD rest)
      match keywords.find? fun entry => entry.1 == spelled with
      | some (_, keyword) => .ok ⟨field, keyword⟩
      | none =>
          if spelled ∈ unsupportedKeywords then
            .error (.unsupportedKeyword spelled (String.ofList text))
          else .error unknown

def parseParts (fields : List String) (predicate : List Char) :
    Except UsageError (List Part) :=
  if predicate.isEmpty then .ok []
  else (splitKeyword "And".toList predicate).mapM (parsePart fields)

def parse (method : String) (fields : List String) : Except UsageError MethodQuery :=
  match splitVerb? method.toList with
  | none => .error (.notAQuery method)
  | some (execution, rest) => do
      let (subject, predicate) := (Text.findWord? "By".toList rest).getD (rest, [])
      let limit := limit? subject
      if 1 < (splitKeyword "Or".toList predicate).length then throw .disjunction
      let parts ← parseParts fields predicate
      let execution :=
        if execution = .collection ∧ limit = some 1 then .single else execution
      return ⟨method, execution, limit, parts⟩

end MethodQuery

end TupleStore
