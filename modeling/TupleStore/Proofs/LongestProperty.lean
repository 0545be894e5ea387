import TupleStore.Proofs.MethodNames

/-!
# The longest property of a part

A part of a method name is a property and a comparison.  The parser takes the longest
property which begins the part, and no other one: where a comparison is spelled behind it,
the part is read, and where none is, the part is refused, even if there is one behind a
shorter property.
-/

namespace TupleStore.MethodQuery

variable {fields : List String} {text rest : List Char} {part : Part}

namespace Phrase

variable {phrase : Phrase}

/-- No longer property begins the text of the phrase. -/
def Longest (fields : List String) (phrase : Phrase) : Prop :=
  ∀ field ∈ fields, property field <+: phrase.text → property field <+: property phrase.field

end Phrase

/-! ## Comparisons behind a property -/

theorem exists_spelling {entry : String × Keyword}
    (hentry : keywords.find? (fun entry =>
      entry.1 == String.ofList ((Text.dropPrefix? "Is".toList rest).getD rest)) = some entry) :
    entry ∈ keywords ∧ ∃ is : Bool, rest = (if is then "Is".toList else []) ++ entry.1.toList := by
  have hword : entry.1.toList = (Text.dropPrefix? "Is".toList rest).getD rest := by
    have hsame := List.find?_some hentry
    rw [eq_of_beq hsame, String.toList_ofList]
  refine ⟨List.mem_of_find?_eq_some hentry, ?_⟩
  cases hdrop : Text.dropPrefix? "Is".toList rest with
  | none =>
      rw [hdrop, Option.getD_none] at hword
      exact ⟨false, hword.symm⟩
  | some word =>
      rw [hdrop, Option.getD_some] at hword
      exact ⟨true, by rw [Text.dropPrefix?_eq_some_iff.mp hdrop, ← hword]; rfl⟩

/-! ## Parts -/

theorem exists_phrase_of_parsePart (hpart : parsePart fields text = .ok part) :
    ∃ phrase : Phrase, phrase.Fits fields ∧ phrase.text = text ∧ phrase.part = part ∧
      phrase.Longest fields := by
  rw [parsePart_eq] at hpart
  cases hfirst : firstProperty? fields text with
  | none =>
      rw [hfirst] at hpart
      cases hpart
  | some first =>
      obtain ⟨rest, field⟩ := first
      obtain ⟨hfield, htext, hlongest⟩ := firstProperty?_longest hfirst
      rw [hfirst] at hpart
      dsimp only at hpart
      split at hpart
      next word keyword hentry =>
        obtain ⟨hmem, is, hrest⟩ := exists_spelling hentry
        cases hpart
        have hphrase : (Phrase.mk field is word keyword).text = text := by
          rw [htext, hrest]
          rfl
        refine ⟨⟨field, is, word, keyword⟩, ⟨hfield, hmem⟩, hphrase, rfl, ?_⟩
        rw [Phrase.Longest, hphrase]
        exact hlongest
      next =>
        split at hpart <;> cases hpart

theorem exists_parsePart {phrase : Phrase} (fits : phrase.Fits fields)
    (longest : phrase.Longest fields) : ∃ part, parsePart fields phrase.text = .ok part := by
  have hbegins : property phrase.field <+: phrase.text := List.prefix_append _ phrase.spelling
  obtain ⟨rest, field, hfirst⟩ := exists_firstProperty? fits.field hbegins
  obtain ⟨hfield, htext, hlongest⟩ := firstProperty?_longest hfirst
  have hsame : property field = property phrase.field :=
    (longest field hfield ⟨rest, htext.symm⟩).eq_of_length_le
      (hlongest _ fits.field hbegins).length_le
  have hrest : rest = phrase.spelling := by
    rw [hsame] at htext
    exact (List.append_cancel_left htext).symm
  rw [parsePart_eq, hfirst, hrest]
  dsimp only
  rw [fits.word_eq, String.ofList_toList, find?_keywords fits.word]
  exact ⟨_, rfl⟩

/--
A text is read as a part if and only if it is a property of one of the fields with a comparison,
and it is read as such a field and comparison.
-/
def ReadsPart (fields : List String) (text : List Char) : Prop :=
  ((∃ part, parsePart fields text = .ok part) ↔
      ∃ phrase : Phrase, phrase.Fits fields ∧ phrase.text = text) ∧
    ∀ part, parsePart fields text = .ok part →
      ∃ phrase : Phrase, phrase.Fits fields ∧ phrase.text = text ∧ phrase.part = part

/--
This is so just if the longest property which begins the text has a comparison behind it, in
case that any has one.
-/
theorem readsPart_iff (fields : List String) (text : List Char) :
    ReadsPart fields text ↔
      ∀ phrase : Phrase, phrase.Fits fields → phrase.text = text →
        ∃ longest : Phrase, longest.Fits fields ∧ longest.text = text ∧
          longest.Longest fields := by
  constructor
  · rintro ⟨hread, _⟩ phrase fits htext
    obtain ⟨part, hpart⟩ := hread.mpr ⟨phrase, fits, htext⟩
    obtain ⟨longest, fits, htext, _, hlongest⟩ := exists_phrase_of_parsePart hpart
    exact ⟨longest, fits, htext, hlongest⟩
  · intro hlongest
    have sound : ∀ part, parsePart fields text = .ok part →
        ∃ phrase : Phrase, phrase.Fits fields ∧ phrase.text = text ∧ phrase.part = part := by
      intro part hpart
      obtain ⟨phrase, fits, htext, hphrase, _⟩ := exists_phrase_of_parsePart hpart
      exact ⟨phrase, fits, htext, hphrase⟩
    refine ⟨⟨?_, ?_⟩, sound⟩
    · rintro ⟨part, hpart⟩
      obtain ⟨phrase, fits, htext, _⟩ := sound part hpart
      exact ⟨phrase, fits, htext⟩
    · rintro ⟨phrase, fits, htext⟩
      obtain ⟨longest, fits, rfl, hphrase⟩ := hlongest phrase fits htext
      exact exists_parsePart fits hphrase

def bets : List String := ["total", "total_bet"]

theorem firstProperty?_totalBetween :
    firstProperty? bets "TotalBetween".toList = some ("ween".toList, "total_bet") := by
  have hmem : "total_bet" ∈ bets := by decide
  have hbegins : property "total_bet" <+: "TotalBetween".toList := by decide +kernel
  obtain ⟨rest, field, hfirst⟩ := exists_firstProperty? hmem hbegins
  obtain ⟨hfield, htext, hlongest⟩ := firstProperty?_longest hfirst
  have hbet := hlongest _ hmem hbegins
  rcases List.mem_pair.mp hfield with rfl | rfl
  · exact absurd hbet (by decide +kernel)
  · have hween : "TotalBetween".toList = property "total_bet" ++ "ween".toList := by decide +kernel
    rw [hfirst, List.append_cancel_left (htext.symm.trans hween)]

/-- The total is to be between two numbers, but the bet is what the parser finds in the text. -/
theorem not_readsPart_totalBetween :
    let between : Phrase := ⟨"total", false, "Between", .between⟩
    between.Fits bets ∧ between.text = "TotalBetween".toList ∧
      parsePart bets "TotalBetween".toList = .error (.unknownProperty "TotalBetween") ∧
      ¬ReadsPart bets "TotalBetween".toList := by
  intro between
  have fits : between.Fits bets := ⟨by decide, by decide⟩
  have htext : between.text = "TotalBetween".toList := by decide +kernel
  have hrefused : parsePart bets "TotalBetween".toList =
      .error (.unknownProperty "TotalBetween") := by
    rw [parsePart_eq, firstProperty?_totalBetween]
    decide +kernel
  refine ⟨fits, htext, hrefused, fun reads => ?_⟩
  obtain ⟨part, hpart⟩ := reads.1.mpr ⟨between, fits, htext⟩
  cases hrefused.symm.trans hpart

end TupleStore.MethodQuery
