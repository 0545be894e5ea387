import TupleStore.Text.CaseTable

/-!
# Letter case

Upper and lower case of any text.  A capital sigma at the end of a word becomes
a final sigma.
-/

namespace TupleStore.Text

def mapCase (ranges : Array (Nat × Nat × Nat × Int)) (sequences : List (Nat × List Nat))
    (c : Char) : List Char :=
  let n := c.toNat
  match sequences.find? fun entry => entry.1 == n with
  | some entry => entry.2.map Char.ofNat
  | none =>
      match ranges.find? fun (first, last, step, _) =>
          first ≤ n && n ≤ last && (n - first) % step == 0 with
      | some (_, _, _, shift) => [Char.ofNat ((n : Int) + shift).toNat]
      | none => [c]

def upperOf (c : Char) : List Char :=
  if c.toNat < 0x80 then [c.toUpper] else mapCase upperRanges upperSequences c

def lowerOf (c : Char) : List Char :=
  if c.toNat < 0x80 then [c.toLower] else mapCase lowerRanges lowerSequences c

def isCased (c : Char) : Bool := casedRanges.has c

def isCaseIgnorable (c : Char) : Bool := caseIgnorableRanges.has c

def toUpper (text : List Char) : List Char := text.flatMap upperOf

/-! ## Lower case -/

def beginsCased (text : List Char) : Bool := (text.dropWhile isCaseIgnorable).head?.any isCased

/-- Whether a word ends between `before`, which is given in reverse, and `rest`. -/
def endsWord (before rest : List Char) : Bool := beginsCased before && !beginsCased rest

/-- Lower case of the text after the characters `before`, which are given in reverse. -/
def toLowerAfter (before : List Char) : List Char → List Char
  | [] => []
  | c :: rest =>
      let lower := if c = 'Σ' ∧ endsWord before rest then ['ς'] else lowerOf c
      lower ++ toLowerAfter (c :: before) rest

def toLower (text : List Char) : List Char := toLowerAfter [] text

end TupleStore.Text
