import TupleStore.Text.Cut

/-!
# Words and numbers in text

A word is found behind text which does not hold its first character, text is split
at its first separator, and the decimal digits of a number read as that number.
-/

namespace TupleStore.Text

variable {c : Char} {word before after text rest : List Char}

/-! ## Words -/

theorem dropPrefix?_append (head rest : List Char) : dropPrefix? head (head ++ rest) = some rest :=
  dropPrefix?_eq_some_iff.mpr rfl

theorem dropPrefix?_cons_of_ne {d : Char} (h : c ≠ d) :
    dropPrefix? (c :: word) (d :: text) = none := if_neg h

theorem dropPrefix?_eq_none (h : ¬word <+: text) : dropPrefix? word text = none := by
  cases hfound : dropPrefix? word text with
  | none => rfl
  | some rest => exact absurd ⟨rest, (dropPrefix?_eq_some_iff.mp hfound).symm⟩ h

theorem findWord?_self (c : Char) (word rest : List Char) :
    findWord? (c :: word) (c :: word ++ rest) = some ([], rest) := by
  rw [List.cons_append, findWord?, ← List.cons_append, dropPrefix?_append]

theorem findWord?_pass (h : c ∉ text) :
    findWord? (c :: word) (text ++ rest) =
      (findWord? (c :: word) rest).map fun found => (text ++ found.1, found.2) := by
  induction text with
  | nil => simp
  | cons d text ih =>
      obtain ⟨hne, htext⟩ := List.ne_and_not_mem_of_not_mem_cons h
      rw [List.cons_append, findWord?, dropPrefix?_cons_of_ne hne, ih htext]
      simp [Function.comp_def]

theorem findWord?_append (h : c ∉ before) :
    findWord? (c :: word) (before ++ c :: word ++ after) = some (before, after) := by
  rw [List.append_assoc, findWord?_pass h, findWord?_self, Option.map_some, List.append_nil]

theorem findWord?_eq_none (h : c ∉ text) : findWord? (c :: word) text = none := by
  have hpass : findWord? (c :: word) (text ++ []) = _ := findWord?_pass h
  rwa [List.append_nil] at hpass

theorem splitOnce?_append {c : Char} (h : c ∉ before) :
    splitOnce? c (before ++ c :: after) = some (before, after) := by
  induction before with
  | nil => exact if_pos rfl
  | cons d before ih =>
      obtain ⟨hne, hbefore⟩ := List.ne_and_not_mem_of_not_mem_cons h
      rw [List.cons_append, splitOnce?, if_neg (Ne.symm hne), ih hbefore]
      rfl

theorem splitOnce?_eq_none {c : Char} (h : c ∉ text) : splitOnce? c text = none := by
  induction text with
  | nil => rfl
  | cons d text ih =>
      obtain ⟨hne, htext⟩ := List.ne_and_not_mem_of_not_mem_cons h
      rw [splitOnce?, if_neg (Ne.symm hne), ih htext]
      rfl

/-! ## Numbers -/

theorem digitValue?_of_isDigit (h : c.isDigit = true) :
    digitValue? c = some (c.toNat - 0x30) := by
  have hbounds : '0' ≤ c ∧ c ≤ '9' := by
    simpa [Char.isDigit, Char.le_def, UInt32.le_iff_toNat_le] using h
  rw [digitValue?, if_pos hbounds]

theorem foldlM_digitValue? (h : ∀ c ∈ text, c.isDigit = true) (number : Nat) :
    text.foldlM (fun number c => (digitValue? c).map (number * 10 + ·)) number =
      some (Nat.ofDigitChars 10 text number) := by
  induction text generalizing number with
  | nil => rfl
  | cons c text ih =>
      obtain ⟨hc, htext⟩ := List.forall_mem_cons.mp h
      rw [List.foldlM_cons, digitValue?_of_isDigit hc, Nat.ofDigitChars_cons, Nat.mul_comm 10]
      exact ih htext _

theorem digits?_of_isDigit {text : List Char} (h : ∀ c ∈ text, c.isDigit = true)
    (hne : text ≠ []) : digits? text = some (Nat.ofDigitChars 10 text 0) := by
  rw [digits?, if_neg (by simpa using hne), foldlM_digitValue? h]

theorem isDigit_toDigits (number : Nat) : ∀ c ∈ Nat.toDigits 10 number, c.isDigit = true :=
  fun _ => Nat.isDigit_of_mem_toDigits (by decide) (by decide)

theorem digits?_toDigits (number : Nat) : digits? (Nat.toDigits 10 number) = some number := by
  rw [digits?_of_isDigit (isDigit_toDigits number) Nat.toDigits_ne_nil,
    Nat.ofDigitChars_ten_toDigits]

end TupleStore.Text
