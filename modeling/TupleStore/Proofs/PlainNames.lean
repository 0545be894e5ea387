import Mathlib.Data.List.Basic
import TupleStore.Text.Words

/-!
# Words of plain names

A plain name has letters, digits and underscores, as fields of a structure have them.
Its characters stand alone and its letter case is simple, so that it can be told
from two characters and the one after them where a word of it ends.
-/

namespace TupleStore

namespace Text

/-! ## Plain names -/

def IsPlainChar (c : Char) : Prop := c.isAlphanum = true ∨ c = '_'

/-- A name of letters and digits of the English alphabet and of underscores. -/
structure IsPlain (name : List Char) : Prop where
  nonempty : name ≠ []
  plain : ∀ c ∈ name, IsPlainChar c

instance (name : List Char) : Decidable (IsPlain name) :=
  decidable_of_iff ((!name.isEmpty && name.all fun c => c.isAlphanum || c = '_') = true) (by
    simp only [Bool.and_eq_true, Bool.not_eq_true', List.isEmpty_eq_false_iff, List.all_eq_true,
      Bool.or_eq_true, decide_eq_true_eq]
    exact ⟨fun h => ⟨h.1, h.2⟩, fun h => ⟨h.nonempty, h.plain⟩⟩)

theorem forall_ascii {p : Char → Prop} (h : ∀ n : Fin 128, p (Char.ofNat n)) (c : Char)
    (hc : c.toNat < 128) : p c := by
  rw [← Char.ofNat_toNat c]
  exact h ⟨c.toNat, hc⟩

theorem IsPlainChar.toNat_lt {c : Char} (h : IsPlainChar c) : c.toNat < 128 := by
  rcases h with h | rfl
  · unfold Char.isAlphanum Char.isAlpha Char.isUpper Char.isLower Char.isDigit at h
    simp only [Bool.or_eq_true, decide_eq_true_eq, UInt32.le_iff_toNat_le] at h
    have hvalue : c.toNat = c.val.toNat := rfl
    simp at h
    omega
  · decide

theorem toNat_lt_of_isAlphanum {c : Char} (h : c.isAlphanum = true) : c.toNat < 128 :=
  IsPlainChar.toNat_lt (.inl h)

theorem isAlpha_eq (c : Char) : c.isAlpha = (c.isUpper || c.isLower) := rfl

theorem upperOf_ascii {c : Char} (hc : c.toNat < 128) : upperOf c = [c.toUpper] := if_pos hc

theorem lowerOf_ascii {c : Char} (hc : c.toNat < 128) : lowerOf c = [c.toLower] := if_pos hc

theorem toUpper_ascii {text : List Char} (h : ∀ c ∈ text, c.toNat < 128) :
    toUpper text = text.map Char.toUpper := by
  rw [toUpper, List.map_eq_flatMap]
  exact List.flatMap_congr fun c hc => upperOf_ascii (h c hc)

theorem toLowerAfter_ascii {before text : List Char} (h : ∀ c ∈ text, c.toNat < 128) :
    toLowerAfter before text = text.map Char.toLower := by
  induction text generalizing before with
  | nil => rfl
  | cons c rest ih =>
      obtain ⟨hc, hrest⟩ := List.forall_mem_cons.mp h
      have hsigma : c ≠ 'Σ' := by
        rintro rfl
        exact absurd hc (by decide)
      rw [toLowerAfter, if_neg fun both => hsigma both.1, lowerOf_ascii hc, ih hrest]
      rfl

theorem toLower_ascii {text : List Char} (h : ∀ c ∈ text, c.toNat < 128) :
    toLower text = text.map Char.toLower := toLowerAfter_ascii h

/-! ## Clusters of plain names -/

theorem isUpper_singleton {c : Char} (hc : c.toNat < 128) : isUpper [c] = c.isUpper :=
  forall_ascii (p := fun c => isUpper [c] = c.isUpper) (by decide +kernel) c hc

theorem isLower_singleton {c : Char} (hc : c.toNat < 128) : isLower [c] = c.isLower :=
  forall_ascii (p := fun c => isLower [c] = c.isLower) (by decide +kernel) c hc

theorem isDigit_singleton (c : Char) : isDigit [c] = c.isDigit := by
  rw [isDigit, List.all_cons, List.all_nil, Bool.and_true]

theorem stands_alone {c : Char} (hc : c.toNat < 128) :
    isMark c = false ∧ (c == joiner) = false ∧ isSpacingMark c = false ∧ isPrepended c = false :=
  forall_ascii (p := fun c => isMark c = false ∧ (c == joiner) = false ∧
    isSpacingMark c = false ∧ isPrepended c = false) (by decide +kernel) c hc

theorem goesOn_ascii {last c : Char} (before : List Char) (hlast : last.toNat < 128)
    (hc : c.toNat < 128) : goesOn (last :: before) c = false := by
  obtain ⟨_, hjoiner, _, hprepended⟩ := stands_alone hlast
  obtain ⟨hmark, hjoins, hspacing, _⟩ := stands_alone hc
  simp [goesOn, hjoiner, hprepended, hmark, hjoins, hspacing]

theorem clustersFrom_ascii {c : Char} {text : List Char} (hc : c.toNat < 128)
    (h : ∀ d ∈ text, d.toNat < 128) :
    clustersFrom [c] text = (c :: text).map fun d => [d] := by
  induction text generalizing c with
  | nil => rfl
  | cons d rest ih =>
      obtain ⟨hd, hrest⟩ := List.forall_mem_cons.mp h
      rw [clustersFrom, goesOn_ascii [] hc hd, if_neg Bool.false_ne_true, ih hd hrest]
      rfl

theorem clusters_ascii {text : List Char} (h : ∀ c ∈ text, c.toNat < 128) :
    clusters text = text.map fun c => [c] := by
  cases text with
  | nil => rfl
  | cons c rest =>
      obtain ⟨hc, hrest⟩ := List.forall_mem_cons.mp h
      exact clustersFrom_ascii hc hrest

/-! ## Words of plain names -/

def endsBetween (c d : Char) (next : Option Char) : Bool :=
  (c.isLower && d.isUpper) || (c.isDigit && d.isAlpha) || (c.isAlpha && d.isDigit) ||
    (c.isUpper && d.isUpper && next.any Char.isLower)

def endsBefore (c : Char) : List Char → Bool
  | [] => false
  | d :: next => endsBetween c d next.head?

/-- The words of a name after the characters `word` of the first. -/
def plainWords (word name : List Char) : List (List Char) := wordsFrom word (name.map fun c => [c])

variable {c : Char} {word name rest : List Char}

theorem isBoundary_singleton {d : Char} {next : Option Char} (hc : c.toNat < 128)
    (hd : d.toNat < 128) (hnext : ∀ e ∈ next, e.toNat < 128) :
    isBoundary [c] [d] (next.map fun e => [e]) = endsBetween c d next := by
  have hlower : (next.map fun e => [e]).any isLower = next.any Char.isLower := by
    cases next with
    | none => rfl
    | some e => exact isLower_singleton (hnext e rfl)
  rw [isBoundary, endsBetween, hlower, isUpper_singleton hc, isUpper_singleton hd,
    isLower_singleton hc, isLower_singleton hd, isDigit_singleton, isDigit_singleton]
  rfl

theorem ne_underscore (hc : c.isAlphanum = true) : c ≠ '_' := by
  rintro rfl
  exact absurd hc (by decide)

theorem isAlphanum_concat (hword : ∀ d ∈ word, d.isAlphanum = true) (hc : c.isAlphanum = true) :
    ∀ d ∈ word ++ [c], d.isAlphanum = true :=
  List.forall_mem_append.mpr ⟨hword, List.forall_mem_singleton.mpr hc⟩

theorem isSeparator_of_isAlphanum (h : c.isAlphanum = true) : isSeparator [c] = false :=
  forall_ascii (p := fun c => c.isAlphanum = true → isSeparator [c] = false) (by decide +kernel) c
    (toNat_lt_of_isAlphanum h) h

theorem words_plain (h : ∀ c ∈ name, IsPlainChar c) : words name = plainWords [] name := by
  rw [words, clusters_ascii fun c hc => (h c hc).toNat_lt, plainWords]

theorem plainWords_nil : plainWords word [] = if word.isEmpty then [] else [word] := rfl

theorem plainWords_underscore : plainWords word ('_' :: rest) =
    if word.isEmpty then plainWords [] rest else word :: plainWords [] rest := by
  cases rest <;> rfl

theorem plainWords_alphanum (hc : c.isAlphanum = true) (hrest : ∀ d ∈ rest, IsPlainChar d) :
    plainWords word (c :: rest) =
      if endsBefore c rest then (word ++ [c]) :: plainWords [] rest
      else plainWords (word ++ [c]) rest := by
  have hseparator := isSeparator_of_isAlphanum hc
  cases rest with
  | nil => simp [plainWords, wordsFrom, hseparator, endsBefore]
  | cons d next =>
      obtain ⟨hd, hnext⟩ := List.forall_mem_cons.mp hrest
      have hhead : ∀ e ∈ next.head?, e.toNat < 128 :=
        fun e he => (hnext e (List.mem_of_head? he)).toNat_lt
      have hboundary := isBoundary_singleton (toNat_lt_of_isAlphanum hc) hd.toNat_lt hhead
      rw [← List.head?_map] at hboundary
      rw [plainWords, List.map_cons, List.map_cons, wordsFrom, hseparator,
        if_neg Bool.false_ne_true, hboundary]
      rfl

theorem mem_plainWords {w : List Char} (hword : ∀ c ∈ word, c.isAlphanum = true)
    (hname : ∀ c ∈ name, IsPlainChar c) (h : w ∈ plainWords word name) :
    w ≠ [] ∧ ∀ c ∈ w, c.isAlphanum = true := by
  have hkept : ∀ {word : List Char}, (∀ c ∈ word, c.isAlphanum = true) → ¬word.isEmpty →
      word ≠ [] ∧ ∀ c ∈ word, c.isAlphanum = true :=
    fun hword hempty => ⟨fun hnil => hempty (List.isEmpty_iff.mpr hnil), hword⟩
  induction name generalizing word with
  | nil =>
      rw [plainWords_nil] at h
      split at h
      · contradiction
      · next hempty => exact List.mem_singleton.mp h ▸ hkept hword hempty
  | cons c rest ih =>
      obtain ⟨hc, hrest⟩ := List.forall_mem_cons.mp hname
      rcases hc with hc | rfl
      · have hlonger := isAlphanum_concat hword hc
        rw [plainWords_alphanum hc hrest] at h
        split at h
        · rcases List.mem_cons.mp h with rfl | h
          · exact ⟨List.append_ne_nil_of_right_ne_nil _ (List.cons_ne_nil _ _), hlonger⟩
          · exact ih (List.forall_mem_nil _) hrest h
        · exact ih hlonger hrest h
      · rw [plainWords_underscore] at h
        split at h
        · exact ih (List.forall_mem_nil _) hrest h
        · next hempty =>
            rcases List.mem_cons.mp h with rfl | h
            · exact hkept hword hempty
            · exact ih (List.forall_mem_nil _) hrest h

end Text

end TupleStore
