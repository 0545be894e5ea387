import TupleStore.Floating.Shortest
import TupleStore.Json.Basic

/-!
# Writing JSON

JSON text without blanks.  Text beyond ASCII is written as it is.  A number which
is not an integer has the fewest digits that read back, and a point or an
exponent.
-/

namespace TupleStore.Json

/-! ## Numbers -/

def leadingExponent (decimal : Floating.Decimal) : Int :=
  (decimal.digitText.length : Int) + decimal.exponent - 1

def scientific (decimal : Floating.Decimal) : List Char :=
  let exponent := leadingExponent decimal
  let mantissa := match decimal.digitText with
    | first :: [] => [first]
    | first :: rest => first :: '.' :: rest
    | [] => []
  mantissa ++ 'e' :: (if exponent < 0 then '-' else '+') :: Nat.toDigits 10 exponent.natAbs

/-- Without an exponent from `1e-5` to below `1e16`. -/
def decimalText (decimal : Floating.Decimal) : List Char :=
  if leadingExponent decimal < -5 ∨ 15 < leadingExponent decimal then scientific decimal
  else decimal.positional ++ (if decimal.exponent < 0 then [] else ['.', '0'])

/-- The text of a double; of two decimals equally near, the even one. -/
def floatText (bits : UInt64) : List Char :=
  match Floating.double.decode bits.toNat with
  | .nan .. | .infinite _ => "null".toList
  | .finite negative significand exponent =>
      let digits :=
        if significand = 0 then "0.0".toList
        else decimalText
          (Floating.double.shortest (fun below => below % 2 == 1) significand exponent)
      if negative then '-' :: digits else digits

/-! ## Text -/

def escape (c : Char) : List Char :=
  match c with
  | '"' => ['\\', '"']
  | '\\' => ['\\', '\\']
  | '\n' => ['\\', 'n']
  | '\r' => ['\\', 'r']
  | '\t' => ['\\', 't']
  | '\x08' => ['\\', 'b']
  | '\x0c' => ['\\', 'f']
  | c =>
      if c.toNat < 0x20 then
        ['\\', 'u', '0', '0', Bytes.hexDigit (c.toNat / 16), Bytes.hexDigit (c.toNat % 16)]
      else [c]

def quote (text : String) : List Char := '"' :: text.toList.flatMap escape ++ ['"']

/-! ## Values -/

mutual

def chars : Json → List Char
  | .null => "null".toList
  | .bool truth => (if truth then "true" else "false").toList
  | .int number => (toString number).toList
  | .float bits => floatText bits
  | .str text => quote text
  | .array items => '[' :: itemChars items ++ [']']
  | .object entries => '\x7b' :: entryChars entries ++ ['\x7d']

def itemChars : List Json → List Char
  | [] => []
  | [item] => item.chars
  | item :: items => item.chars ++ ',' :: itemChars items

def entryChars : List (String × Json) → List Char
  | [] => []
  | [(name, item)] => quote name ++ ':' :: item.chars
  | (name, item) :: entries => quote name ++ ':' :: item.chars ++ ',' :: entryChars entries

end

def text (json : Json) : String := String.ofList json.chars

end TupleStore.Json
