import TupleStore.Floating.Format
import TupleStore.Json.Basic

/-!
# Numbers of JSON text

A number of up to 64 bits without fraction and exponent is an integer.  Any other
is a double, computed in double precision: the digits that fit 64 bits, scaled by
a power of ten.
-/

namespace TupleStore.Json

open Floating (double)

/-- The decimal parts of a number: `significand * 10 ^ exponent`. -/
structure Parts where
  significand : Nat
  exponent : Int := 0

/-- Appends digits while the significand fits 64 bits; the rest is counted. -/
def appendDigits : (significand : Nat) → (digits : List Nat) → Nat × Nat
  | significand, [] => (significand, 0)
  | significand, digit :: digits =>
      if significand * 10 + digit < 0x10000000000000000 then
        appendDigits (significand * 10 + digit) digits
      else (significand, digits.length + 1)

/-- Digits before the point: those which do not fit raise the exponent. -/
def Parts.ofDigits (digits : List Nat) : Parts :=
  let (significand, dropped) := appendDigits 0 digits
  ⟨significand, dropped⟩

/-- Digits after the point: each that fits lowers the exponent. -/
def Parts.withFraction (parts : Parts) (digits : List Nat) : Parts :=
  let (significand, dropped) := appendDigits parts.significand digits
  ⟨significand, parts.exponent - ((digits.length : Int) - dropped)⟩

/-! ## Scaling -/

/-- A magnitude in double precision. -/
abbrev Magnitude := Nat

def powerOfTen (exponent : Nat) : Magnitude := double.roundMagnitude (Nat.pow 10 exponent) 1

def ofFinite (magnitude : Magnitude) (use : Nat → Int → Magnitude) : Magnitude :=
  match double.decode magnitude with
  | .finite _ significand exponent => use significand exponent
  | _ => double.infinity

def times (l r : Magnitude) : Magnitude :=
  ofFinite l fun lm le => ofFinite r fun rm re =>
    let (num, den) := Floating.Datum.ratio (lm * rm) (le + re)
    double.roundMagnitude num den

def dividedBy (l r : Magnitude) : Magnitude :=
  ofFinite l fun lm le => ofFinite r fun rm re =>
    let (num, den) := Floating.Datum.ratio lm (le - re)
    double.roundMagnitude num (den * rm)

def largestPower : Nat := 308

/-- Divides by a power of ten, the largest ones first. -/
def scaleDown : (fuel : Nat) → (exponent : Nat) → Magnitude → Magnitude
  | 0, _, _ => 0
  | fuel + 1, exponent, magnitude =>
      if magnitude = 0 then 0
      else if exponent ≤ largestPower then dividedBy magnitude (powerOfTen exponent)
      else scaleDown fuel (exponent - largestPower) (dividedBy magnitude (powerOfTen largestPower))

def Parts.magnitude? (parts : Parts) : Option Magnitude :=
  let magnitude := double.roundMagnitude parts.significand 1
  if magnitude = 0 then some 0
  else
    match parts.exponent with
    | .negSucc below => some (scaleDown 4 (below + 1) magnitude)
    | .ofNat exponent =>
        if largestPower < exponent then none
        else
          let scaled := times magnitude (powerOfTen exponent)
          if scaled < double.infinity then some scaled else none

def ofMagnitude (negative : Bool) (magnitude : Magnitude) : Json :=
  .float (UInt64.ofNat ((if negative then double.signBit else 0) + magnitude))

def ofParts? (negative : Bool) (parts : Parts) : Option Json :=
  parts.magnitude?.map (ofMagnitude negative)

/-- A number without point and exponent; negative zero is not an integer. -/
def ofWhole? (negative : Bool) (parts : Parts) : Option Json :=
  if parts.exponent ≠ 0 then ofParts? negative parts
  else if !negative then some (.int parts.significand)
  else if 0 < parts.significand ∧ parts.significand ≤ 0x8000000000000000 then
    some (.int (-parts.significand))
  else ofParts? true parts

end TupleStore.Json
