import TupleStore.Proofs.DurationText

/-!
# Sums of durations

The numbers met while the text of a duration is read, in natural numbers without a
bound.  Reading overflows exactly when one of them is longer than any duration, and
none of them is in the text which a duration is written as.
-/

namespace TupleStore.Duration

/-- The first number of nanoseconds which is longer than any duration. -/
def tooLong : Nat := 0x10000000000000000 * nanosPerSecond

def bounded (nanos : Nat) : Except ParseError Duration :=
  ((ofNanos? nanos).map .ok).getD (.error .overflow)

def partNanos? (number : List Char) (unit : Char) : Option Nat :=
  let whole (seconds : Nat) :=
    (Text.unsigned? 0x10000000000000000 number).map (· * seconds * nanosPerSecond)
  match unit with
  | 'H' => whole 3600
  | 'M' => whole 60
  | 'S' => ((Floating.readDouble? number).bind ofSeconds?).map totalNanos
  | _ => none

/-- The nanoseconds of each part and of the sum up to it, until a part cannot be read. -/
def sums (total : Nat) (number : List Char) : List Char → List Nat
  | [] => []
  | c :: rest =>
      if isLetter c then
        match partNanos? number.reverse c with
        | none => []
        | some nanos => nanos :: (total + nanos) :: sums (total + nanos) [] rest
      else sums total (c :: number) rest

def readSums (text : List Char) : List Nat := sums 0 [] (text.drop 2)

/-! ## Bounds -/

theorem bounded_totalNanos (duration : Duration) : bounded duration.totalNanos = .ok duration := by
  obtain ⟨same, hsame, htotal⟩ := exists_ofNanos? duration.totalNanos_lt
  rw [bounded, hsame, totalNanos_injective htotal]
  rfl

theorem bounded_tooLong {nanos : Nat} (h : tooLong ≤ nanos) :
    bounded nanos = .error .overflow := by
  have hlarge : ¬ nanos / nanosPerSecond < 0x10000000000000000 := by
    rw [Nat.not_lt, Nat.le_div_iff_mul_le (by decide)]
    exact h
  rw [bounded, ofNanos?, of?, dif_neg fun bounds => hlarge bounds.1]
  rfl

theorem bounded_bind_overflow {α : Type} {nanos : Nat} {next : Duration → Except ParseError α} :
    (bounded nanos >>= next) = .error .overflow ↔
      tooLong ≤ nanos ∨
        ∃ duration : Duration, duration.totalNanos = nanos ∧ next duration = .error .overflow := by
  rcases Nat.lt_or_ge nanos tooLong with h | h
  · obtain ⟨duration, -, rfl⟩ := exists_ofNanos? h
    rw [bounded_totalNanos, ok_bind]
    constructor
    · exact fun hnext => .inr ⟨duration, rfl, hnext⟩
    · rintro (hlong | ⟨same, hsame, hnext⟩)
      · exact absurd h (Nat.not_lt.mpr hlong)
      · rwa [← totalNanos_injective hsame]
  · rw [bounded_tooLong h]
    exact ⟨fun _ => .inl h, fun _ => rfl⟩

theorem totalNanos_of_bounded {nanos : Nat} {duration : Duration}
    (h : bounded nanos = .ok duration) : duration.totalNanos = nanos := by
  rcases Nat.lt_or_ge nanos tooLong with hlt | hle
  · obtain ⟨same, -, rfl⟩ := exists_ofNanos? hlt
    rw [bounded_totalNanos] at h
    cases h
    rfl
  · rw [bounded_tooLong hle] at h
    cases h

/-! ## Parts -/

theorem of?_seconds (seconds : Nat) : of? seconds 0 = ofNanos? (seconds * nanosPerSecond) := by
  rw [ofNanos?, Nat.mul_div_cancel _ (by decide), Nat.mul_mod_left]

theorem parsePart_eq (number : List Char) (unit : Char) :
    parsePart number unit =
      match partNanos? number unit with
      | none => .error .invalid
      | some nanos => bounded nanos := by
  unfold parsePart partNanos?
  dsimp only
  split
  case h_1 | h_2 =>
    cases Text.unsigned? 0x10000000000000000 number with
    | none => rfl
    | some count =>
        dsimp only [Option.map_some]
        rw [of?_seconds]
        rfl
  case h_3 =>
    cases (Floating.readDouble? number).bind ofSeconds? with
    | none => rfl
    | some duration => exact (bounded_totalNanos duration).symm
  case h_4 =>
    simp_all

theorem addPart_eq (total part : Duration) :
    addPart total part = bounded (total.totalNanos + part.totalNanos) := rfl

/-! ## Texts -/

theorem parseParts_overflow_iff (total : Duration) (number text : List Char) :
    parseParts total number text = .error .overflow ↔
      ∃ nanos ∈ sums total.totalNanos number text, tooLong ≤ nanos := by
  induction text generalizing total number with
  | nil =>
      rw [parseParts, sums]
      split <;> simp
  | cons c rest ih =>
      rw [parseParts, sums]
      split
      case isFalse => exact ih total (c :: number)
      rw [parsePart_eq]
      cases partNanos? number.reverse c with
      | none => simp [bind, Except.bind]
      | some nanos =>
          simp only [addPart_eq, bounded_bind_overflow, ih, List.mem_cons, exists_eq_or_imp]
          constructor
          · rintro (hpart | ⟨part, rfl, hsum | ⟨sum, hsum, hrest⟩⟩)
            · exact .inl hpart
            · exact .inr (.inl hsum)
            · rw [hsum] at hrest
              exact .inr (.inr hrest)
          · intro h
            rcases Nat.lt_or_ge nanos tooLong with hpart | hpart
            · obtain ⟨part, -, rfl⟩ := exists_ofNanos? hpart
              refine .inr ⟨part, rfl, ?_⟩
              rcases Nat.lt_or_ge (total.totalNanos + part.totalNanos) tooLong with hsum | hsum
              · obtain ⟨sum, -, hsame⟩ := exists_ofNanos? hsum
                have hrest := (h.resolve_left (Nat.not_le.mpr hpart)).resolve_left
                  (Nat.not_le.mpr hsum)
                exact .inr ⟨sum, hsame, hsame ▸ hrest⟩
              · exact .inl hsum
            · exact .inl hpart

theorem sums_of_parseParts {total duration : Duration} {number text : List Char}
    (h : parseParts total number text = .ok duration) :
    (sums total.totalNanos number text).getLastD total.totalNanos = duration.totalNanos := by
  induction text generalizing total number with
  | nil =>
      rw [parseParts] at h
      split at h <;> cases h
      rfl
  | cons c rest ih =>
      rw [parseParts] at h
      rw [sums]
      split at h
      case isFalse hc =>
        rw [if_neg hc]
        exact ih h
      case isTrue hc =>
        obtain ⟨part, hpart, h⟩ := bind_eq_ok.mp h
        obtain ⟨sum, hsum, hrest⟩ := bind_eq_ok.mp h
        rw [if_pos hc]
        rw [parsePart_eq] at hpart
        cases hnanos : partNanos? number.reverse c with
        | none =>
            rw [hnanos] at hpart
            cases hpart
        | some nanos =>
            rw [hnanos] at hpart
            obtain rfl := totalNanos_of_bounded hpart
            rw [addPart_eq] at hsum
            have hlast := ih hrest
            rw [totalNanos_of_bounded hsum] at hlast
            dsimp only
            rw [List.getLastD_cons, List.getLastD_cons]
            exact hlast

/-! ## Durations -/

theorem parse_overflow_iff (text : List Char) :
    parse ('P' :: 'T' :: text) = .error .overflow ↔
      ∃ nanos ∈ sums 0 [] text, tooLong ≤ nanos := by
  cases text with
  | nil => simp [parse, sums]
  | cons c rest => exact parseParts_overflow_iff zero [] (c :: rest)

/--
A duration is written as a text which is read as that duration.  No number met on the
way is longer than any duration, and the last one is the duration itself.
-/
theorem parse_format_bounded (duration : Duration) :
    parse duration.format = .ok duration ∧
      (∀ nanos ∈ readSums duration.format, nanos < tooLong) ∧
      (readSums duration.format).getLastD 0 = duration.totalNanos := by
  have hparse := parse_format duration
  obtain ⟨text, htext⟩ : ∃ text, duration.format = 'P' :: 'T' :: text := ⟨_, rfl⟩
  rw [htext] at hparse ⊢
  refine ⟨hparse, fun nanos hnanos => ?_, ?_⟩
  · by_contra hlong
    have hoverflow := (parse_overflow_iff text).mpr ⟨nanos, hnanos, Nat.not_lt.mp hlong⟩
    rw [hparse] at hoverflow
    contradiction
  · cases text with
    | nil => cases hparse
    | cons c rest => exact @sums_of_parseParts zero duration [] (c :: rest) hparse

end TupleStore.Duration
