import TupleStore.Proofs.RoundTrips

/-!
# Leap seconds

A time of day is written as its nanoseconds since midnight, and those of a leap
second count past the second.  The reader splits a number at the seconds and so never
gives a leap second back: most are read as a time of the next second, and the one
at the end of the day is not read at all.
-/

namespace TupleStore

/-- Nanoseconds since midnight, where a leap second counts into the second after it. -/
def TimeOfDay.sinceMidnight (time : TimeOfDay) : Nat :=
  time.seconds * nanosPerSecond + time.nanos

def nanosPerDay : Nat := secondsPerDay * nanosPerSecond

namespace Codec

variable {time : TimeOfDay} {number : Int}

theorem timeNanos_write_eq_iff :
    timeNanos.write time = .int number ↔ time.sinceMidnight = number := by
  change Value.int time.sinceMidnight = .int number ↔ _
  rw [Value.int.injEq]

theorem uint64_read_outside (h : ¬(0 ≤ number ∧ number < 0x10000000000000000)) :
    uint64.read (.int number) = .error (.mismatch "an integer in range") :=
  if_neg h

theorem timeNanos_read_eq_ok_iff :
    timeNanos.read (.int number) = .ok time ↔
      time.nanos < nanosPerSecond ∧ time.sinceMidnight = number := by
  constructor
  · intro h
    have hrange : 0 ≤ number ∧ number < 0x10000000000000000 := by
      by_contra houtside
      rw [timeNanos] at h
      dsimp only at h
      rw [uint64_read_outside houtside] at h
      contradiction
    obtain ⟨nanos, rfl⟩ := Int.eq_ofNat_of_zero_le hrange.1
    have hread := timeNanos_read (Int.ofNat_lt.mp hrange.2)
    rw [Value.nat, h, TimeOfDay.of?] at hread
    split_ifs at hread with htime
    · cases hread
      exact ⟨Nat.mod_lt _ (by decide), congrArg Int.ofNat (Nat.div_add_mod' _ _)⟩
  · rintro ⟨hnanos, rfl⟩
    exact timeNanos_restores hnanos

/-! ## Numbers of times -/

theorem exists_timeNanos_read_iff :
    (∃ time, timeNanos.read (.int number) = .ok time) ↔ 0 ≤ number ∧ number < nanosPerDay := by
  constructor
  · rintro ⟨time, h⟩
    obtain ⟨hnanos, rfl⟩ := timeNanos_read_eq_ok_iff.mp h
    have hseconds := time.seconds_lt
    simp only [TimeOfDay.sinceMidnight, nanosPerDay, secondsPerDay, nanosPerSecond] at *
    omega
  · rintro ⟨hpos, hday⟩
    obtain ⟨nanos, rfl⟩ := Int.eq_ofNat_of_zero_le hpos
    have hnanos : nanos % nanosPerSecond < nanosPerSecond := Nat.mod_lt _ (by decide)
    have hseconds : nanos / nanosPerSecond < secondsPerDay :=
      Nat.div_lt_of_lt_mul (by rw [Nat.mul_comm]; exact Int.ofNat_lt.mp hday)
    exact ⟨⟨_, _, hseconds, .inl hnanos⟩, timeNanos_read_eq_ok_iff.mpr
      ⟨hnanos, congrArg Int.ofNat (Nat.div_add_mod' _ _)⟩⟩

/-- The leap second at the end of the day has numbers past those of the day. -/
theorem exists_timeNanos_write_iff :
    (∃ time, timeNanos.write time = .int number) ↔
      0 ≤ number ∧ number < nanosPerDay + nanosPerSecond := by
  simp only [timeNanos_write_eq_iff]
  constructor
  · rintro ⟨time, rfl⟩
    have hseconds := time.seconds_lt
    have hnanos := time.isNanos
    simp only [IsNanos, TimeOfDay.sinceMidnight, nanosPerDay, secondsPerDay, nanosPerSecond] at *
    omega
  · rintro ⟨hpos, hend⟩
    by_cases hday : number < nanosPerDay
    · obtain ⟨time, h⟩ := exists_timeNanos_read_iff.mpr ⟨hpos, hday⟩
      exact ⟨time, (timeNanos_read_eq_ok_iff.mp h).2⟩
    · obtain ⟨past, rfl⟩ := Int.le.dest (not_lt.mp hday)
      have hpast : past < nanosPerSecond := by omega
      have hleap : IsNanos (86399 : Nat) (nanosPerSecond + past) := .inr ⟨by omega, by decide⟩
      refine ⟨⟨86399, nanosPerSecond + past, by decide, hleap⟩, ?_⟩
      simp only [TimeOfDay.sinceMidnight, nanosPerDay, secondsPerDay, nanosPerSecond]
      omega

/-! ## Round trips -/

theorem timeNanos_restores_iff : timeNanos.Restores time ↔ time.nanos < nanosPerSecond := by
  change timeNanos.read (.int time.sinceMidnight) = .ok time ↔ _
  rw [timeNanos_read_eq_ok_iff, and_iff_left rfl]

theorem timeNanos_read_leap (h : nanosPerSecond ≤ time.nanos) :
    timeNanos.read (timeNanos.write time) =
      match TimeOfDay.of? (time.seconds + 1) (time.nanos - nanosPerSecond) with
      | none => .error (.notTimeOfDay time.sinceMidnight)
      | some next => .ok next := by
  have hseconds := time.seconds_lt
  have hnanos := time.isNanos
  have hsize : time.sinceMidnight < 0x10000000000000000 := by
    simp only [IsNanos, TimeOfDay.sinceMidnight, secondsPerDay, nanosPerSecond] at *
    omega
  have hdiv : time.sinceMidnight / nanosPerSecond = time.seconds + 1 := by
    simp only [IsNanos, TimeOfDay.sinceMidnight, nanosPerSecond] at *
    omega
  have hmod : time.sinceMidnight % nanosPerSecond = time.nanos - nanosPerSecond := by
    simp only [IsNanos, TimeOfDay.sinceMidnight, nanosPerSecond] at *
    omega
  have hread := timeNanos_read hsize
  rw [hdiv, hmod] at hread
  exact hread

/-- The number is read just if a time is written so, and then as a time written so. -/
def ReadAsWritten (number : Int) : Prop :=
  ((∃ time, timeNanos.read (.int number) = .ok time) ↔
      ∃ time, timeNanos.write time = .int number) ∧
    ∀ time, timeNanos.read (.int number) = .ok time → timeNanos.write time = .int number

theorem readAsWritten_iff :
    ReadAsWritten number ↔ ¬(nanosPerDay ≤ number ∧ number < nanosPerDay + nanosPerSecond) := by
  have hwritten : ∀ time, timeNanos.read (.int number) = .ok time →
      timeNanos.write time = .int number := fun time h =>
    timeNanos_write_eq_iff.mpr (timeNanos_read_eq_ok_iff.mp h).2
  rw [ReadAsWritten, and_iff_left hwritten, exists_timeNanos_read_iff, exists_timeNanos_write_iff]
  simp only [nanosPerDay, secondsPerDay, nanosPerSecond]
  omega

/--
Just the times outside of leap seconds are read as they were written, and just the
numbers of the leap second at the end of the day are written and not read.
-/
theorem timeNanos_roundTrips (time : TimeOfDay) (number : Int) :
    (timeNanos.Restores time ↔ time.nanos < nanosPerSecond) ∧
      (ReadAsWritten number ↔
        ¬(nanosPerDay ≤ number ∧ number < nanosPerDay + nanosPerSecond)) :=
  ⟨timeNanos_restores_iff, readAsWritten_iff⟩

/-- The middle of the leap second at the end of the day, 23:59:60.5. -/
theorem not_timeNanos_roundTrips_leap :
    ∃ time : TimeOfDay, (time.seconds, time.nanos) = (86399, 1500000000) ∧
      timeNanos.write time = .int 86400500000000 ∧
      timeNanos.read (.int 86400500000000) = .error (.notTimeOfDay 86400500000000) ∧
      ¬timeNanos.Restores time ∧ ¬ReadAsWritten 86400500000000 := by
  refine ⟨⟨86399, 1500000000, by decide, by decide⟩, rfl,
    timeNanos_write_eq_iff.mpr (by decide), rfl, ?_, ?_⟩
  · rw [timeNanos_restores_iff]
    decide
  · rw [readAsWritten_iff]
    decide

end Codec

end TupleStore
