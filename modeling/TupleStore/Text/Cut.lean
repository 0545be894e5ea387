/-!
# Cutting text

Text is cut as a list of characters.  A blank is a character of the Unicode
property `White_Space`.
-/

namespace TupleStore.Text

def isBlank (c : Char) : Bool :=
  let n := c.toNat
  (0x09 ≤ n && n ≤ 0x0d) || n == 0x20 || n == 0x85 || n == 0xa0 || n == 0x1680 ||
    (0x2000 ≤ n && n ≤ 0x200a) || n == 0x2028 || n == 0x2029 || n == 0x202f ||
    n == 0x205f || n == 0x3000

def trim (text : List Char) : List Char :=
  ((text.dropWhile isBlank).reverse.dropWhile isBlank).reverse

def dropPrefix? : (head text : List Char) → Option (List Char)
  | [], text => some text
  | _ :: _, [] => none
  | h :: head, c :: text => if h = c then dropPrefix? head text else none

theorem dropPrefix?_eq_some_iff {head text rest : List Char} :
    dropPrefix? head text = some rest ↔ text = head ++ rest := by
  induction head generalizing text with
  | nil => simp [dropPrefix?, eq_comm]
  | cons h head ih =>
      cases text with
      | nil => simp [dropPrefix?]
      | cons c text =>
          by_cases same : h = c
          · simp [dropPrefix?, same, ih]
          · simp [dropPrefix?, same, Ne.symm same]

def dropSuffix? (tail text : List Char) : Option (List Char) :=
  (dropPrefix? tail.reverse text.reverse).map List.reverse

def dropRepeated (head : List Char) : (fuel : Nat) → List Char → List Char
  | 0, text => text
  | fuel + 1, text =>
      match dropPrefix? head text with
      | none => text
      | some rest => dropRepeated head fuel rest

def splitOnce? (separator : Char) : List Char → Option (List Char × List Char)
  | [] => none
  | c :: rest =>
      if c = separator then some ([], rest)
      else (splitOnce? separator rest).map fun (before, after) => (c :: before, after)

def splitLast? (separator : Char) (text : List Char) : Option (List Char × List Char) :=
  (splitOnce? separator text.reverse).map fun (after, before) =>
    (before.reverse, after.reverse)

def splitAll (separator : Char) : List Char → List (List Char)
  | [] => [[]]
  | c :: rest =>
      match splitAll separator rest with
      | [] => [[c]]
      | first :: others =>
          if c = separator then [] :: first :: others else (c :: first) :: others

/-- What follows the first occurrence of `word`, and what precedes it. -/
def findWord? (word : List Char) : List Char → Option (List Char × List Char)
  | [] => if word.isEmpty then some ([], []) else none
  | c :: rest =>
      match dropPrefix? word (c :: rest) with
      | some after => some ([], after)
      | none => (findWord? word rest).map fun (before, after) => (c :: before, after)

/-! ## Numbers -/

def digitValue? (c : Char) : Option Nat :=
  if '0' ≤ c ∧ c ≤ '9' then some (c.toNat - 0x30) else none

def digits? (text : List Char) : Option Nat :=
  if text.isEmpty then none
  else text.foldlM (fun number c => (digitValue? c).map (number * 10 + ·)) 0

/-- Decimal digits with an optional plus sign, for a number below `bound`. -/
def unsigned? (bound : Nat) (text : List Char) : Option Nat := do
  let number ← digits? (match text with
    | '+' :: rest => rest
    | _ => text)
  if number < bound then some number else none

end TupleStore.Text
