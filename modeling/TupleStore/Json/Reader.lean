import TupleStore.Json.Number
import TupleStore.Text.Cut

/-!
# Reading JSON

`Json.parse?` reads a text which is one JSON value with blanks around it.  Arrays
and objects may nest in 127 levels.
-/

namespace TupleStore.Json

abbrev Reader := StateT (List Char) Option

namespace Reader

def isBlank (c : Char) : Bool := c == ' ' || c == '\n' || c == '\t' || c == '\r'

def skipBlanks : Reader Unit := modify (List.dropWhile isBlank)

def peek : Reader (Option Char) := return (← get).head?

def next : Reader Char := do
  match ← get with
  | [] => failure
  | c :: rest =>
      set rest
      return c

def accept (c : Char) : Reader Bool := do
  match ← get with
  | [] => return false
  | first :: rest =>
      if first = c then
        set rest
        return true
      else return false

def expect (c : Char) : Reader Unit := do
  if !(← accept c) then failure

def word (text : String) : Reader Unit := do
  match Text.dropPrefix? text.toList (← get) with
  | some rest => set rest
  | none => failure

/-! ## Numbers -/

def digits : Reader (List Nat) := do
  let text ← get
  set (text.dropWhile Char.isDigit)
  return (text.takeWhile Char.isDigit).filterMap Text.digitValue?

def someDigits : Reader (List Nat) := do
  let digits ← digits
  if digits.isEmpty then failure else return digits

/-- Digits which do not start with a zero, or a zero alone. -/
def wholeDigits : Reader (List Nat) := do
  match ← someDigits with
  | 0 :: _ :: _ => failure
  | digits => return digits

def exponent : Reader Int := do
  let negative ← accept '-'
  if !negative then
    let _ ← accept '+'
  let number : Nat := (← someDigits).foldl (fun number digit => number * 10 + digit) 0
  return if negative then -(number : Int) else number

def number : Reader Json := do
  let negative ← accept '-'
  let whole := Parts.ofDigits (← wholeDigits)
  let pointed ← accept '.'
  let parts ← if pointed then whole.withFraction <$> someDigits else pure whole
  let scaled ← if ← accept 'e' then pure true else accept 'E'
  if scaled then
    let parts := { parts with exponent := parts.exponent + (← exponent) }
    ofParts? negative parts
  else if pointed then ofParts? negative parts
  else ofWhole? negative parts

/-! ## Text -/

def hex4 : Reader Nat := do
  let digit : Reader Nat := do Bytes.hexValue? (← next)
  let a ← digit
  let b ← digit
  let c ← digit
  let d ← digit
  return ((a * 16 + b) * 16 + c) * 16 + d

/-- The character of one or two units of 16 bits. -/
def unicode : Reader Char := do
  let unit ← hex4
  if 0xdc00 ≤ unit ∧ unit ≤ 0xdfff then failure
  else if 0xd800 ≤ unit ∧ unit ≤ 0xdbff then
    expect '\\'
    expect 'u'
    let low ← hex4
    if 0xdc00 ≤ low ∧ low ≤ 0xdfff then
      return Char.ofNat (0x10000 + (unit - 0xd800) * 0x400 + (low - 0xdc00))
    else failure
  else return Char.ofNat unit

def escaped : Reader Char := do
  match ← next with
  | '"' => return '"'
  | '\\' => return '\\'
  | '/' => return '/'
  | 'b' => return '\x08'
  | 'f' => return '\x0c'
  | 'n' => return '\n'
  | 'r' => return '\r'
  | 't' => return '\t'
  | 'u' => unicode
  | _ => failure

def charsToQuote : (fuel : Nat) → Reader (List Char)
  | 0 => failure
  | fuel + 1 => do
      match ← next with
      | '"' => return []
      | '\\' => return (← escaped) :: (← charsToQuote fuel)
      | c => if c.toNat < 0x20 then failure else return c :: (← charsToQuote fuel)

def str : Reader String := do
  return String.ofList (← charsToQuote (← get).length)

/-! ## Arrays and objects -/

def goesOn (close : Char) : Reader Bool := do
  skipBlanks
  if ← accept close then return false
  expect ','
  return true

def itemsFrom {α : Type} (item : Reader α) (close : Char) : (fuel : Nat) → Reader (List α)
  | 0 => failure
  | fuel + 1 => do
      let first ← item
      if ← goesOn close then return first :: (← itemsFrom item close fuel)
      else return [first]

def items {α : Type} (item : Reader α) (close : Char) : Reader (List α) := do
  skipBlanks
  if ← accept close then return []
  itemsFrom item close (← get).length

def entry (value : Reader Json) : Reader (String × Json) := do
  skipBlanks
  expect '"'
  let name ← str
  skipBlanks
  expect ':'
  return (name, ← value)

def value : (levels : Nat) → Reader Json
  | 0 => leaf
  | levels + 1 => do
      skipBlanks
      if ← accept '[' then return .array (← items (value levels) ']')
      else if ← accept '\x7b' then return .object (← items (entry (value levels)) '\x7d')
      else leaf
where
  leaf : Reader Json := do
    skipBlanks
    match ← peek with
    | some 'n' => do
        word "null"
        return .null
    | some 't' => do
        word "true"
        return .bool true
    | some 'f' => do
        word "false"
        return .bool false
    | some '"' => do
        let _ ← next
        return .str (← str)
    | _ => number

end Reader

def parseWithin? (levels : Nat) (text : String) : Option Json := do
  let (json, rest) ← (Reader.value levels).run text.toList
  if rest.all Reader.isBlank then some json else none

def maxLevels : Nat := 127

def parse? (text : String) : Option Json := parseWithin? maxLevels text

end TupleStore.Json
