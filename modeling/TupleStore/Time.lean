import TupleStore.Floating.Reading

/-!
# Times

Instants, dates, times of day and durations, with the calendar between days and
dates.  A leap second is the 59th second of a minute with a nanosecond count of
a second or more.
-/

namespace TupleStore

def nanosPerSecond : Nat := 1000000000

def secondsPerDay : Nat := 86400

/-- A nanosecond count past the second only in the 59th second of a minute. -/
def IsNanos (second : Int) (nanos : Nat) : Prop :=
  nanos < nanosPerSecond ∨ (nanos < 2 * nanosPerSecond ∧ second % 60 = 59)

instance (second : Int) (nanos : Nat) : Decidable (IsNanos second nanos) :=
  inferInstanceAs (Decidable (_ ∨ _))

/-! ## Dates -/

/-- The first day of the calendar, -262143-01-01, counted from 1970-01-01. -/
def firstDay : Int := -96465292

/-- The last day of the calendar, +262142-12-31, counted from 1970-01-01. -/
def lastDay : Int := 95026236

/-- A date of the proleptic Gregorian calendar, as days since 1970-01-01. -/
structure Date where
  day : Int
  firstDay_le : firstDay ≤ day
  le_lastDay : day ≤ lastDay
  deriving DecidableEq, Repr

namespace Date

def ofDay? (day : Int) : Option Date :=
  if h : firstDay ≤ day ∧ day ≤ lastDay then some ⟨day, h.1, h.2⟩ else none

/--
Days since 1970-01-01 of a date.  Years count from March, so that the leap day is
the last of its year, and in eras of 400 years.
-/
def dayOfCivil (year : Int) (month day : Nat) : Int :=
  let year := if month ≤ 2 then year - 1 else year
  let era := year.fdiv 400
  let yearOfEra := year - era * 400
  let monthFromMarch : Int := if month ≤ 2 then month + 9 else (month : Int) - 3
  let dayOfYear := (153 * monthFromMarch + 2) / 5 + day - 1
  era * 146097 + (yearOfEra * 365 + yearOfEra / 4 - yearOfEra / 100 + dayOfYear) - 719468

def civilOfDay (day : Int) : Int × Nat × Nat :=
  let shifted := day + 719468
  let era := shifted.fdiv 146097
  let dayOfEra := shifted - era * 146097
  let yearOfEra :=
    (dayOfEra - dayOfEra / 1460 + dayOfEra / 36524 - dayOfEra / 146096) / 365
  let dayOfYear := dayOfEra - (365 * yearOfEra + yearOfEra / 4 - yearOfEra / 100)
  let monthFromMarch := (5 * dayOfYear + 2) / 153
  let dayOfMonth := dayOfYear - (153 * monthFromMarch + 2) / 5 + 1
  let month := if monthFromMarch < 10 then monthFromMarch + 3 else monthFromMarch - 9
  let year := yearOfEra + era * 400
  (if month ≤ 2 then year + 1 else year, month.toNat, dayOfMonth.toNat)

def ofCivil? (year : Int) (month day : Nat) : Option Date := do
  let date ← ofDay? (dayOfCivil year month day)
  if civilOfDay date.day = (year, month, day) then some date else none

end Date

/-! ## Instants and times of day -/

/-- Seconds and nanoseconds since 1970-01-01T00:00:00Z. -/
structure Instant where
  seconds : Int
  nanos : Nat
  first_le : firstDay * secondsPerDay ≤ seconds
  lt_last : seconds < (lastDay + 1) * secondsPerDay
  isNanos : IsNanos seconds nanos
  deriving DecidableEq, Repr

def Instant.of? (seconds : Int) (nanos : Nat) : Option Instant :=
  if h : firstDay * secondsPerDay ≤ seconds ∧ seconds < (lastDay + 1) * secondsPerDay ∧
      IsNanos seconds nanos then
    some ⟨seconds, nanos, h.1, h.2.1, h.2.2⟩
  else none

structure TimeOfDay where
  seconds : Nat
  nanos : Nat
  seconds_lt : seconds < secondsPerDay
  isNanos : IsNanos seconds nanos
  deriving DecidableEq, Repr

def TimeOfDay.of? (seconds nanos : Nat) : Option TimeOfDay :=
  if h : seconds < secondsPerDay ∧ IsNanos seconds nanos then
    some ⟨seconds, nanos, h.1, h.2⟩
  else none

/-! ## Durations -/

structure Duration where
  seconds : Nat
  nanos : Nat
  seconds_lt : seconds < 0x10000000000000000
  nanos_lt : nanos < nanosPerSecond
  deriving DecidableEq, Repr

namespace Duration

def of? (seconds nanos : Nat) : Option Duration :=
  if h : seconds < 0x10000000000000000 ∧ nanos < nanosPerSecond then
    some ⟨seconds, nanos, h.1, h.2⟩
  else none

def zero : Duration := ⟨0, 0, by decide, by decide⟩

def totalNanos (duration : Duration) : Nat :=
  duration.seconds * nanosPerSecond + duration.nanos

def ofNanos? (nanos : Nat) : Option Duration :=
  of? (nanos / nanosPerSecond) (nanos % nanosPerSecond)

def add? (l r : Duration) : Option Duration := ofNanos? (l.totalNanos + r.totalNanos)

/-- The duration of a number of seconds, to the nearest nanosecond, ties to even. -/
def ofSeconds? : Floating.Datum → Option Duration
  | .finite negative significand exponent =>
      if negative ∧ significand ≠ 0 then none
      else
        let (num, den) := Floating.Datum.ratio significand exponent
        ofNanos? (Floating.roundHalfEven (num * nanosPerSecond) den)
  | _ => none

/-! ### Text -/

def fractionText (nanos : Nat) : List Char :=
  let digits := Nat.toDigits 10 nanos
  let padded := List.replicate (9 - digits.length) '0' ++ digits
  (padded.reverse.dropWhile (· = '0')).reverse

/-- The text of a duration: `PT`, then hours, minutes and seconds which are not zero. -/
def format (duration : Duration) : List Char :=
  let hours := duration.seconds / 3600
  let minutes := duration.seconds / 60 % 60
  let seconds := duration.seconds % 60
  let part (number : Nat) (unit : Char) :=
    if number = 0 then [] else Nat.toDigits 10 number ++ [unit]
  let front := part hours 'H' ++ part minutes 'M'
  let back :=
    if duration.nanos ≠ 0 then
      Nat.toDigits 10 seconds ++ '.' :: fractionText duration.nanos ++ ['S']
    else if seconds ≠ 0 ∨ front = [] then Nat.toDigits 10 seconds ++ ['S']
    else []
  'P' :: 'T' :: front ++ back

inductive ParseError where
  | invalid
  /-- The sum of the parts is longer than any duration. -/
  | overflow
  deriving DecidableEq, Repr

def isLetter (c : Char) : Bool := ('A' ≤ c && c ≤ 'Z') || ('a' ≤ c && c ≤ 'z')

def parsePart (number : List Char) (unit : Char) : Except ParseError Duration :=
  let whole (seconds : Nat) : Except ParseError Duration :=
    match Text.unsigned? 0x10000000000000000 number with
    | none => .error .invalid
    | some count => ((of? (count * seconds) 0).map .ok).getD (.error .overflow)
  match unit with
  | 'H' => whole 3600
  | 'M' => whole 60
  | 'S' =>
      match (Floating.readDouble? number).bind ofSeconds? with
      | none => .error .invalid
      | some duration => .ok duration
  | _ => .error .invalid

def addPart (total part : Duration) : Except ParseError Duration :=
  ((total.add? part).map .ok).getD (.error .overflow)

def parseParts (total : Duration) (number : List Char) : List Char →
    Except ParseError Duration
  | [] => if number = [] then .ok total else .error .invalid
  | c :: rest =>
      if isLetter c then do
        let total ← addPart total (← parsePart number.reverse c)
        parseParts total [] rest
      else parseParts total (c :: number) rest

def parse (text : List Char) : Except ParseError Duration :=
  match text with
  | 'P' :: 'T' :: c :: rest => parseParts zero [] (c :: rest)
  | _ => .error .invalid

end Duration

end TupleStore
