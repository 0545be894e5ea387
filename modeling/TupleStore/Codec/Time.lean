import TupleStore.Codec.Basic
import TupleStore.Time

/-!
# Codecs of times

Instants and dates are stored as milliseconds since 1970-01-01T00:00:00Z, times
of day as nanoseconds since midnight and durations as text.
-/

namespace TupleStore.Codec

def millisPerDay : Nat := 86400000

/-- Fractions of a millisecond are dropped. -/
def epochMillis : Codec Instant where
  write instant := .int (instant.seconds * 1000 + instant.nanos / 1000000)
  read stored := do
    let millis := (← int64.read stored).toInt
    match Instant.of? (millis.fdiv 1000) (millis.fmod 1000 * 1000000).toNat with
    | none => throw (.timestampRange millis)
    | some instant => return instant

/-- A date is stored as its midnight and read from any time of the day. -/
def dateMillis : Codec Date where
  write date := .int (date.day * millisPerDay)
  read stored := do
    let millis := (← int64.read stored).toInt
    match Date.ofDay? (millis.fdiv millisPerDay) with
    | none => throw (.timestampRange millis)
    | some date => return date

def timeNanos : Codec TimeOfDay where
  write time := .nat (time.seconds * nanosPerSecond + time.nanos)
  read stored := do
    let nanos := (← uint64.read stored).toNat
    match TimeOfDay.of? (nanos / nanosPerSecond) (nanos % nanosPerSecond) with
    | none => throw (.notTimeOfDay nanos)
    | some time => return time

def durationText : Codec Duration where
  write duration := .text (String.ofList duration.format)
  read stored := do
    let text ← text.read stored
    match Duration.parse text.toList with
    | .ok duration => return duration
    | .error .invalid => throw (.invalidDuration text)
    | .error .overflow => throw (.durationOverflow text)

end TupleStore.Codec
