import TupleStore.Proofs.DurationSums

/-!
# Durations which are too long

A stored text is read as a duration, or refused as none, unless its parts come to more
than any duration has.  Parts which are durations each may do so together, and then
reading fails in their sum.
-/

namespace TupleStore.Duration

/-- The nanoseconds of each part, until a part cannot be read. -/
def parts (number : List Char) : List Char → List Nat
  | [] => []
  | c :: rest =>
      if isLetter c then
        match partNanos? number.reverse c with
        | none => []
        | some nanos => nanos :: parts [] rest
      else parts (c :: number) rest

def readParts : List Char → List Nat
  | 'P' :: 'T' :: text => parts [] text
  | _ => []

/-! ## Sums of parts -/

theorem exists_sums_iff {total : Nat} (h : total < tooLong) (number text : List Char) :
    (∃ nanos ∈ sums total number text, tooLong ≤ nanos) ↔
      tooLong ≤ total + (parts number text).sum := by
  induction text generalizing total number with
  | nil =>
      rw [sums, parts, List.sum_nil]
      exact iff_of_false (by simp) (Nat.not_le.mpr h)
  | cons c rest ih =>
      rw [sums, parts]
      split
      case isFalse => exact ih h (c :: number)
      cases partNanos? number.reverse c with
      | none => exact iff_of_false (by simp) (Nat.not_le.mpr h)
      | some nanos =>
          simp only [List.mem_cons, exists_eq_or_imp, List.sum_cons]
          rw [← Nat.add_assoc]
          -- parts are never negative: a number on the way which is too long stays so
          rcases Nat.lt_or_ge (total + nanos) tooLong with hsum | hsum
          · rw [ih hsum]
            omega
          · exact iff_of_true (.inr (.inl hsum)) (by omega)

theorem getLastD_sums (total : Nat) (number text : List Char) :
    (sums total number text).getLastD total = total + (parts number text).sum := by
  induction text generalizing total number with
  | nil => rfl
  | cons c rest ih =>
      rw [sums, parts]
      split
      case isFalse => exact ih total (c :: number)
      cases partNanos? number.reverse c with
      | none => rfl
      | some nanos =>
          dsimp only
          rw [List.getLastD_cons, List.getLastD_cons, ih, List.sum_cons, Nat.add_assoc]

/-! ## Reading -/

variable {text : List Char} {duration : Duration}

theorem parse_overflow_iff_parts :
    parse text = .error .overflow ↔ tooLong ≤ (readParts text).sum := by
  unfold readParts
  split
  next text =>
    rw [parse_overflow_iff, exists_sums_iff (by decide), Nat.zero_add]
  next hshape =>
    refine iff_of_false (fun h => ?_) (by decide)
    unfold parse at h
    split at h
    next c rest => exact hshape (c :: rest) rfl
    next => cases h

theorem totalNanos_of_parse (h : parse text = .ok duration) :
    duration.totalNanos = (readParts text).sum := by
  unfold parse at h
  split at h
  next c rest =>
    rw [← sums_of_parseParts h, getLastD_sums]
    exact Nat.zero_add _
  next => cases h

/-! ## Stored texts -/

theorem read_text (text : String) :
    Codec.durationText.read (.text text) =
      match parse text.toList with
      | .ok duration => .ok duration
      | .error .invalid => .error (.invalidDuration text)
      | .error .overflow => .error (.durationOverflow text) := by
  change (do
    let text ← Codec.text.read (.text text)
    _) = _
  rw [Codec.text_read, ok_bind]
  rfl

def ReadOrRefused (text : String) : Prop :=
  (∃ duration, Codec.durationText.read (.text text) = .ok duration) ∨
    Codec.durationText.read (.text text) = .error (.invalidDuration text)

/--
A stored text is read or refused just when its parts, up to one which cannot be read, do
not come to more than any duration has; a duration which is read is their sum.  Otherwise
reading breaks off.
-/
theorem readOrRefused_iff (text : String) :
    (ReadOrRefused text ↔ (readParts text.toList).sum < tooLong) ∧
      (Codec.durationText.read (.text text) = .error (.durationOverflow text) ↔
        tooLong ≤ (readParts text.toList).sum) ∧
      ∀ duration, Codec.durationText.read (.text text) = .ok duration →
        duration.totalNanos = (readParts text.toList).sum := by
  rw [ReadOrRefused, ← Nat.not_le, ← parse_overflow_iff_parts, read_text]
  cases hparse : parse text.toList with
  | ok duration =>
      refine ⟨iff_of_true (.inl ⟨duration, rfl⟩) nofun, iff_of_false nofun nofun, ?_⟩
      rintro _ ⟨⟩
      exact totalNanos_of_parse hparse
  | error error =>
      cases error with
      | invalid => exact ⟨iff_of_true (.inr rfl) nofun, iff_of_false nofun nofun, nofun⟩
      | overflow => exact ⟨iff_of_false (by simp) (by simp), iff_of_true rfl rfl, nofun⟩

/-- The hours are the most of which there is a duration; a minute is too much beside them. -/
def minuteTooLong : String := "PT5124095576030431H1M"

theorem not_readOrRefused_minuteTooLong :
    (∀ nanos ∈ readParts minuteTooLong.toList, nanos < tooLong) ∧
      ¬ReadOrRefused minuteTooLong := by
  have hread : Codec.durationText.read (.text minuteTooLong) =
      .error (.durationOverflow minuteTooLong) := by decide +kernel
  refine ⟨by decide +kernel, ?_⟩
  rintro (⟨duration, hok⟩ | hrefused)
  · cases hread.symm.trans hok
  · cases hread.symm.trans hrefused

end TupleStore.Duration
