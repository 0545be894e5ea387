import TupleStore.Proofs.MethodNames

/-!
# The pieces between keywords

A text is cut at the occurrences of a keyword which a capital follows, unless the piece
would be empty.  The pieces joined by the keyword are the text again, and none of them
could be cut once more.
-/

namespace TupleStore.MethodQuery

variable {first c : Char} {others keyword piece text front rest before after : List Char}

/-! ## Occurrences of a word -/

/--
A search for the word from the left, which goes on behind each place where it finds the word,
finds it between `before` and `after`.
-/
inductive Found (word : List Char) : (text before after : List Char) → Prop
  | here (after : List Char) : Found word (word ++ after) [] after
  | behind {rest before after : List Char} :
      Found word rest before after → Found word (word ++ rest) (word ++ before) after
  | pass {c : Char} {rest before after : List Char} : ¬word <+: c :: rest →
      Found word rest before after → Found word (c :: rest) (c :: before) after

theorem Found.text_eq (found : Found keyword text before after) :
    text = before ++ keyword ++ after := by
  induction found with
  | here => rfl
  | behind _ ih => rw [ih, List.append_assoc, List.append_assoc, List.append_assoc]
  | pass _ _ ih => rw [ih, List.cons_append, List.cons_append]

theorem not_found_nil : ¬Found (first :: others) [] before after := by
  intro found
  simpa using found.text_eq

theorem Found.of_pass (found : Found keyword (c :: rest) before after)
    (hno : ¬keyword <+: c :: rest) :
    ∃ before', before = c :: before' ∧ Found keyword rest before' after := by
  generalize htext : c :: rest = text at found
  cases found with
  | here | behind => exact absurd (htext ▸ List.prefix_append _ _) hno
  | pass _ found =>
      cases htext
      exact ⟨_, rfl, found⟩

theorem Found.of_word (found : Found keyword (keyword ++ rest) before after) :
    before = [] ∧ after = rest ∨
      ∃ before', before = keyword ++ before' ∧ Found keyword rest before' after := by
  generalize htext : keyword ++ rest = text at found
  cases found with
  | here => exact .inl ⟨rfl, (List.append_cancel_left htext).symm⟩
  | behind found => exact .inr ⟨_, rfl, List.append_cancel_left htext ▸ found⟩
  | pass hno => exact absurd (htext ▸ List.prefix_append _ _) hno

/-! ## One piece -/

theorem Capitalized.of_append (h : Capitalized (text ++ rest)) (hne : text ≠ []) :
    Capitalized text := by
  obtain ⟨c, hc, hcapital⟩ := h
  rw [List.head?_append_of_ne_nil _ hne] at hc
  exact ⟨c, hc, hcapital⟩

/--
What a piece, of which `piece` is there already, takes of the text: all of it, or what is in
front of a keyword which a capital follows.
-/
inductive Takes (first : Char) (others piece text : List Char) : (front : List Char) → Prop
  | all : splitFrom first others piece text = [piece.reverse ++ text] →
      Takes first others piece text text
  | upTo {front rest : List Char} : text = front ++ (first :: others) ++ rest →
      piece.reverse ++ front ≠ [] → Capitalized rest →
      splitFrom first others piece text =
        (piece.reverse ++ front) :: splitFrom first others [] rest →
      Takes first others piece text front

theorem Takes.isPrefix (takes : Takes first others piece text front) : front <+: text := by
  cases takes with
  | all => exact List.prefix_refl _
  | upTo htext => exact ⟨_, by rw [htext, List.append_assoc]⟩

theorem Takes.prepend {step : List Char}
    (takes : Takes first others (step.reverse ++ piece) text front)
    (hstep : splitFrom first others piece (step ++ text) =
      splitFrom first others (step.reverse ++ piece) text) :
    Takes first others piece (step ++ text) (step ++ front) := by
  have hpiece : ∀ front : List Char,
      (step.reverse ++ piece).reverse ++ front = piece.reverse ++ (step ++ front) := by
    simp
  cases takes with
  | all hsplit => exact .all (by rw [hstep, hsplit, hpiece])
  | upTo htext hne capital hsplit =>
      rw [hpiece] at hne hsplit
      exact .upTo (by rw [htext]; simp only [List.append_assoc]) hne capital (hstep.trans hsplit)

/-- No keyword in the piece, unless at its start, has a capital behind it. -/
theorem exists_takes (first : Char) (others piece text : List Char) : ∃ front,
    Takes first others piece text front ∧
      ∀ before after, Found (first :: others) front before after → piece ≠ [] ∨ before ≠ [] →
        ¬Capitalized after := by
  induction hlength : text.length using Nat.strong_induction_on generalizing text piece with
  | h length ih =>
  by_cases hword : first :: others <+: text
  · obtain ⟨rest, rfl⟩ := hword
    by_cases hcut : piece ≠ [] ∧ Capitalized rest
    · refine ⟨[], .upTo rfl ?_ hcut.2 ?_, fun _ _ found => absurd found not_found_nil⟩
      · simpa using hcut.1
      · rw [splitFrom_word hcut.1 hcut.2, List.append_nil]
    · have hshorter : rest.length < length := by
        rw [← hlength, List.length_append, List.length_cons]
        omega
      obtain ⟨front, takes, uncut⟩ :=
        ih _ hshorter ((first :: others).reverse ++ piece) rest rfl
      refine ⟨_, takes.prepend (splitFrom_skip hcut), fun before after found hne capital => ?_⟩
      rcases found.of_word with ⟨rfl, rfl⟩ | ⟨before, rfl, later⟩
      · obtain ⟨behind, rfl⟩ := takes.isPrefix
        exact hcut ⟨hne.resolve_right (by simp), capital.append behind⟩
      · exact uncut before after later (.inl (by simp)) capital
  · cases text with
    | nil =>
        refine ⟨[], .all ?_, fun _ _ found => absurd found not_found_nil⟩
        rw [splitFrom, List.append_nil]
    | cons c rest =>
        obtain ⟨front, takes, uncut⟩ :=
          ih rest.length (by rw [← hlength]; simp) ([c].reverse ++ piece) rest rfl
        refine ⟨c :: front, takes.prepend (splitFrom_pass hword), ?_⟩
        intro before after found _ capital
        -- the keyword does not begin here in the piece, since it does not in the text
        have hno : ¬first :: others <+: c :: front := fun h =>
          hword (h.trans (List.cons_prefix_cons.mpr ⟨rfl, takes.isPrefix⟩))
        obtain ⟨before, rfl, later⟩ := found.of_pass hno
        exact uncut before after later (.inl (List.cons_ne_nil _ _)) capital

/-! ## All pieces -/

/--
Pieces of a text between occurrences of a keyword: nothing is lost, no piece is empty unless
the text is, all but the first begin with a capital, and in no piece a capital follows a
keyword which is not at its start.
-/
structure Pieces (keyword text : List Char) (pieces : List (List Char)) : Prop where
  joined : keyword.intercalate pieces = text
  nonempty : text ≠ [] → ∀ piece ∈ pieces, piece ≠ []
  capital : ∀ piece ∈ pieces.tail, Capitalized piece
  uncut : ∀ piece ∈ pieces, ∀ before after, Found keyword piece before after → before ≠ [] →
    ¬Capitalized after

theorem Pieces.cons {pieces : List (List Char)} (behind : Pieces keyword rest pieces)
    (capital : Capitalized rest) (hne : piece ≠ [])
    (uncut : ∀ before after, Found keyword piece before after → before ≠ [] →
      ¬Capitalized after) :
    Pieces keyword (piece ++ keyword ++ rest) (piece :: pieces) := by
  have hrest : rest ≠ [] := by
    rintro rfl
    obtain ⟨_, hnone, _⟩ := capital
    cases hnone
  obtain ⟨joined, nonempty, capitals, uncuts⟩ := behind
  cases pieces with
  | nil => exact absurd joined.symm hrest
  | cons next pieces =>
      refine ⟨?_, fun _ => List.forall_mem_cons.mpr ⟨hne, nonempty hrest⟩,
        List.forall_mem_cons.mpr ⟨?_, capitals⟩, List.forall_mem_cons.mpr ⟨uncut, uncuts⟩⟩
      · rw [List.intercalate_cons_cons, joined]
      · obtain ⟨tail, htail⟩ := prefix_intercalate keyword next pieces
        rw [← joined, ← htail] at capital
        exact capital.of_append (nonempty hrest next List.mem_cons_self)

/-- Whatever the keyword and the text, the text is split into such pieces. -/
theorem splitKeyword_pieces (first : Char) (others text : List Char) :
    Pieces (first :: others) text (splitKeyword (first :: others) text) := by
  rw [splitKeyword]
  induction hlength : text.length using Nat.strong_induction_on generalizing text with
  | h length ih =>
  obtain ⟨front, takes, uncut⟩ := exists_takes first others [] text
  have huncut : ∀ before after, Found (first :: others) front before after → before ≠ [] →
      ¬Capitalized after := fun before after found hne => uncut before after found (.inr hne)
  cases takes with
  | all hsplit =>
      rw [hsplit]
      exact ⟨List.intercalate_singleton .., fun hne => List.forall_mem_singleton.mpr hne,
        List.forall_mem_nil _, List.forall_mem_singleton.mpr huncut⟩
  | @upTo _ rest htext hne capital hsplit =>
      have hshorter : rest.length < length := by
        rw [← hlength, htext, List.length_append, List.length_append, List.length_cons]
        omega
      rw [hsplit, htext]
      exact (ih _ hshorter rest rfl).cons capital hne huncut

example : splitKeyword "And".toList "AndAndroidAndAndAndAge".toList =
    ["AndAndroid".toList, "And".toList, "Age".toList] := by decide +kernel

end TupleStore.MethodQuery
