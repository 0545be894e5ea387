import Mathlib.Data.List.Infix
import Mathlib.Data.List.Nodup
import Mathlib.Data.List.TakeWhile
import TupleStore.MethodQuery.Parser
import TupleStore.Proofs.Cut
import TupleStore.Proofs.Outcomes

/-!
# Reading method names back

A method name put together from a verb, a limit and comparisons of fields is
parsed into just these.  The properties of the fields have to be told apart: the
parser looks for `And` and `Or` without knowing the properties, and takes the
longest property which begins a part.
-/

namespace TupleStore.MethodQuery

/-! ## Method names -/

/-- What stands between the verb and `By`. -/
inductive Subject where
  | unlimited
  | first (count : Option Nat)
  | top (count : Option Nat)
  deriving DecidableEq, Repr

namespace Subject

def countText : Option Nat → List Char
  | none => []
  | some count => Nat.toDigits 10 count

def text : Subject → List Char
  | .unlimited => []
  | .first count => "First".toList ++ countText count
  | .top count => "Top".toList ++ countText count

def limit : Subject → Option Nat
  | .unlimited => none
  | .first count | .top count => some (count.getD 1)

end Subject

/-- A comparison of a field as it is written: with or without `Is`, and in one of the words. -/
structure Phrase where
  field : String
  is : Bool := false
  word : String := ""
  keyword : Keyword := .equals
  deriving DecidableEq, Repr

def property (field : String) : List Char := Text.pascalCase field.toList

namespace Phrase

def spelling (phrase : Phrase) : List Char :=
  (if phrase.is then "Is".toList else []) ++ phrase.word.toList

def text (phrase : Phrase) : List Char := property phrase.field ++ phrase.spelling

def part (phrase : Phrase) : Part := ⟨phrase.field, phrase.keyword⟩

end Phrase

def predicate (phrases : List Phrase) : List Char :=
  "And".toList.intercalate (phrases.map Phrase.text)

def methodName (verb : String) (subject : Subject) (phrases : List Phrase) : String :=
  String.ofList (verb.toList ++ (subject.text ++ "By".toList ++
    predicate phrases))

/-! ## Properties which can be told apart -/

/-- Behind each occurrence of the word the text goes on, and not with a capital. -/
def Whole (word text : List Char) : Prop :=
  ∀ before after, text = before ++ word ++ after → ∃ c ∈ after.head?, isCapital c = false

def Capitalized (text : List Char) : Prop := ∃ c ∈ text.head?, isCapital c = true

def spellings : List (List Char) :=
  keywords.flatMap fun entry => [entry.1.toList, "Is".toList ++ entry.1.toList]

/--
The properties of the fields differ, no place in them can be taken for a joint,
and none of them is a longer one with the beginning of a comparison.
-/
structure Unambiguous (fields : List String) : Prop where
  capital : ∀ field ∈ fields, Capitalized (property field)
  distinct : (fields.map property).Nodup
  whole : ∀ field ∈ fields, Whole "And".toList (property field) ∧ Whole "Or".toList (property field)
  longest : ∀ l ∈ fields, ∀ r ∈ fields, ∀ spelling ∈ spellings,
    property l <+: property r → property r <+: property l ++ spelling → property r = property l

theorem whole_iff {word text : List Char} : Whole word text ↔
    ∀ tail ∈ text.tails, ∀ after ∈ Text.dropPrefix? word tail,
      after.head?.any (fun c => !isCapital c) = true := by
  simp only [Whole, List.mem_tails, Option.mem_def, Text.dropPrefix?_eq_some_iff,
    Option.any_eq_true, Bool.not_eq_true']
  constructor
  · rintro whole tail ⟨before, rfl⟩ after rfl
    exact whole before after (List.append_assoc ..).symm
  · rintro whole before after rfl
    exact whole _ ⟨before, (List.append_assoc ..).symm⟩ after rfl

-- Not by the instance which goes through all characters there are.
attribute [instance (high)] List.decidableBAll Option.decidableForallMem

instance (word text : List Char) : Decidable (Whole word text) := decidable_of_iff' _ whole_iff

instance (text : List Char) : Decidable (Capitalized text) :=
  decidable_of_iff (text.head?.any isCapital = true) (Option.any_eq_true _ _)

/-! ## Verb and limit -/

theorem Capitalized.append {l : List Char} (h : Capitalized l) (r : List Char) :
    Capitalized (l ++ r) := by
  obtain ⟨c, hc, hcapital⟩ := h
  exact ⟨c, by rw [Option.mem_def] at hc ⊢; rw [List.head?_append, hc, Option.some_or], hcapital⟩

theorem splitVerb?_append {verb : String} {execution : Execution} {rest : List Char}
    (hverb : (verb, execution) ∈ verbs) (hrest : Capitalized rest) :
    splitVerb? (verb.toList ++ rest) = some (execution, rest) := by
  obtain ⟨c, hc, hcapital⟩ := hrest
  obtain ⟨rest, rfl⟩ := List.head?_eq_some_iff.mp hc
  simp only [verbs, List.mem_cons, List.not_mem_nil, or_false, Prod.mk.injEq] at hverb
  -- no verb begins another one, so each case comes down to comparing two literals
  rcases hverb with ⟨rfl, rfl⟩ | ⟨rfl, rfl⟩ | ⟨rfl, rfl⟩ | ⟨rfl, rfl⟩ | ⟨rfl, rfl⟩ | ⟨rfl, rfl⟩ |
    ⟨rfl, rfl⟩ | ⟨rfl, rfl⟩ | ⟨rfl, rfl⟩ | ⟨rfl, rfl⟩ <;>
    simp [splitVerb?, verbs, Text.dropPrefix?, hcapital]

theorem isDigit_of_mem_countText {count : Option Nat} {c : Char}
    (h : c ∈ Subject.countText count) : c.isDigit = true := by
  cases count with
  | none => contradiction
  | some count => exact Nat.isDigit_of_mem_toDigits (by decide) (by decide) h

theorem limitAfter?_countText {c : Char} {word : List Char} {count : Option Nat}
    (hcount : ∀ n ∈ count, n ≤ maxLimit) :
    limitAfter? (c :: word) (c :: word ++ Subject.countText count) = some (count.getD 1) := by
  have hfind : Text.findWord? (c :: word) ([] ++ c :: word ++ Subject.countText count) =
      some ([], Subject.countText count) := Text.findWord?_append List.not_mem_nil
  rw [List.nil_append] at hfind
  have hdigits : ∀ d ∈ Subject.countText count, d.isDigit = true :=
    fun _ => isDigit_of_mem_countText
  rw [limitAfter?, hfind, Option.bind_eq_bind, Option.bind_some]
  dsimp only
  rw [List.dropWhile_eq_nil_iff.mpr hdigits, List.takeWhile_eq_self_iff.mpr hdigits]
  cases count with
  | none => rfl
  | some count =>
      rw [Subject.countText, Text.digits?_toDigits]
      exact if_pos (hcount count rfl)

def Subject.Bounded : Subject → Prop
  | .unlimited => True
  | .first count | .top count => ∀ n ∈ count, n ≤ maxLimit

theorem limit?_text {subject : Subject} (bounded : subject.Bounded) :
    limit? subject.text = subject.limit := by
  cases subject with
  | unlimited => rfl
  | first count =>
      rw [limit?, Subject.text]
      change (limitAfter? ('F' :: _) ('F' :: _ ++ _)).or _ = _
      rw [limitAfter?_countText bounded]
      rfl
  | top count =>
      have hno : 'F' ∉ "Top".toList ++ Subject.countText count := by
        rw [List.mem_append, not_or]
        exact ⟨by decide, fun h => absurd (isDigit_of_mem_countText h) (by decide)⟩
      have hfirst :
          limitAfter? "First".toList ("Top".toList ++ Subject.countText count) = none := by
        rw [limitAfter?]
        change (Text.findWord? ('F' :: _) _ >>= _) = _
        rw [Text.findWord?_eq_none hno]
        rfl
      rw [limit?, Subject.text, hfirst]
      change limitAfter? ('T' :: _) ('T' :: _ ++ _) = _
      rw [limitAfter?_countText bounded]
      rfl

theorem findWord?_by {subject : Subject} (predicate : List Char) :
    Text.findWord? "By".toList (subject.text ++ "By".toList ++ predicate) =
      some (subject.text, predicate) := by
  have hno : 'B' ∉ subject.text := by
    have hcount : ∀ count, 'B' ∉ Subject.countText count :=
      fun count h => absurd (isDigit_of_mem_countText h) (by decide)
    cases subject with
    | unlimited => exact List.not_mem_nil
    | first count | top count =>
        rw [Subject.text, List.mem_append, not_or]
        exact ⟨by decide, hcount count⟩
  exact Text.findWord?_append hno

/-! ## Joints -/

theorem Whole.append {first : Char} {others l r : List Char}
    (small : ∀ c ∈ others, isCapital c = false) (hl : Whole (first :: others) l)
    (hr : Whole (first :: others) r) (capital : ∀ c ∈ r.head?, isCapital c = true) :
    Whole (first :: others) (l ++ r) := by
  intro before after h
  rw [List.append_assoc] at h
  rcases List.append_eq_append_iff.mp h with ⟨middle, _, rfl⟩ | ⟨middle, rfl, hword⟩
  · exact hr middle after (List.append_assoc ..).symm
  rcases List.append_eq_append_iff.mp hword with ⟨rest, rfl, rfl⟩ | ⟨rest, hcut, rfl⟩
  · obtain ⟨c, hc, hsmall⟩ := hl before rest (List.append_assoc ..).symm
    exact ⟨c, by rw [Option.mem_def] at hc ⊢; rw [List.head?_append, hc, Option.some_or], hsmall⟩
  -- the word is not cut in two: what is in `r` would begin with a capital
  cases middle with
  | nil => exact hr [] after (by rw [hcut]; rfl)
  | cons d middle =>
      cases rest with
      | nil =>
          rw [List.append_nil] at hcut
          obtain ⟨_, hnone, _⟩ := hl before [] (by rw [hcut, List.append_nil])
          contradiction
      | cons e rest =>
          obtain ⟨_, rfl⟩ := List.cons.inj hcut
          have hcapital := capital e rfl
          rw [small e (by simp)] at hcapital
          contradiction

theorem splitFrom_pass {first c : Char} {others rest piece : List Char}
    (hno : ¬first :: others <+: c :: rest) :
    splitFrom first others piece (c :: rest) = splitFrom first others (c :: piece) rest := by
  rw [splitFrom]
  split
  next hfirst =>
    split
    next found =>
      subst hfirst
      rw [Text.dropPrefix?_eq_some_iff.mp found] at hno
      exact absurd (List.prefix_append _ _) hno
    next => rfl
  next => rfl

theorem capitalized_iff {text : List Char} :
    Capitalized text ↔ text.head?.any isCapital = true := (Option.any_eq_true _ _).symm

theorem splitFrom_keyword (first : Char) (others piece rest : List Char) :
    splitFrom first others piece (first :: others ++ rest) =
      if piece ≠ [] ∧ rest.head?.any isCapital then
        piece.reverse :: splitFrom first others [] rest
      else splitFrom first others ((first :: others).reverse ++ piece) rest := by
  rw [List.cons_append, splitFrom, if_pos rfl, List.reverse_cons, List.append_assoc,
    List.singleton_append]
  split
  next after hfound =>
    rw [Text.dropPrefix?_append] at hfound
    cases hfound
    rfl
  next hnone =>
    rw [Text.dropPrefix?_append] at hnone
    contradiction

theorem splitFrom_skip {first : Char} {others rest piece : List Char}
    (hno : ¬(piece ≠ [] ∧ Capitalized rest)) :
    splitFrom first others piece (first :: others ++ rest) =
      splitFrom first others ((first :: others).reverse ++ piece) rest := by
  rw [splitFrom_keyword, if_neg (by rwa [← capitalized_iff])]

theorem splitFrom_word {first : Char} {others rest piece : List Char} (hpiece : piece ≠ [])
    (capital : Capitalized rest) :
    splitFrom first others piece (first :: others ++ rest) =
      piece.reverse :: splitFrom first others [] rest := by
  rw [splitFrom_keyword, if_pos ⟨hpiece, capitalized_iff.mp capital⟩]

theorem splitFrom_append {first : Char} {others text rest piece : List Char}
    (small : ∀ c ∈ others, isCapital c = false) (whole : Whole (first :: others) text)
    (capital : ∀ c ∈ rest.head?, isCapital c = true) :
    splitFrom first others piece (text ++ rest) =
      splitFrom first others (text.reverse ++ piece) rest := by
  induction hlength : text.length using Nat.strong_induction_on generalizing text piece with
  | h length ih =>
  have hsuffix : ∀ {l r}, text = l ++ r → Whole (first :: others) r := by
    rintro l r rfl before after rfl
    exact whole (l ++ before) after (by simp only [List.append_assoc])
  cases text with
  | nil => rfl
  | cons c text =>
      by_cases hword : first :: others <+: c :: (text ++ rest)
      · obtain ⟨after, hafter⟩ := hword
        rw [← List.cons_append] at hafter
        rcases List.append_eq_append_iff.mp hafter with ⟨tail, htext, rfl⟩ | ⟨tail, hcut, rfl⟩
        · obtain ⟨d, hd, hsmall⟩ := whole [] tail htext
          obtain ⟨tail, rfl⟩ := List.head?_eq_some_iff.mp hd
          have hshorter : (d :: tail).length < length := by
            rw [← hlength, htext]
            simp only [List.length_append, List.length_cons]
            omega
          rw [htext, List.append_assoc, splitFrom_skip, ih _ hshorter (hsuffix htext) rfl]
          · simp
          · rintro ⟨-, e, he, hcapital⟩
            cases he
            rw [hsmall] at hcapital
            contradiction
        · -- The word would end inside of the rest, whose first character is a capital.
          cases tail with
          | nil =>
              rw [List.append_nil] at hcut
              obtain ⟨_, hnone, _⟩ := whole [] [] (by rw [hcut]; simp)
              contradiction
          | cons d tail =>
              obtain ⟨rfl, rfl⟩ := List.cons.inj hcut
              have hcapital := capital d rfl
              rw [small d (by simp)] at hcapital
              contradiction
      · rw [List.cons_append, splitFrom_pass hword,
          ih text.length (by rw [← hlength]; exact Nat.lt_succ_self _)
            (hsuffix (List.singleton_append ..).symm) rfl]
        simp

theorem splitKeyword_whole {first : Char} {others text : List Char}
    (small : ∀ c ∈ others, isCapital c = false) (whole : Whole (first :: others) text) :
    splitKeyword (first :: others) text = [text] := by
  have h : splitFrom first others [] (text ++ []) =
      splitFrom first others (text.reverse ++ []) [] :=
    splitFrom_append small whole nofun
  rwa [List.append_nil, List.append_nil, splitFrom, List.reverse_reverse] at h

theorem prefix_intercalate (joint piece : List Char) (pieces : List (List Char)) :
    piece <+: joint.intercalate (piece :: pieces) := by
  cases pieces with
  | nil => rw [List.intercalate_singleton]
  | cons =>
      rw [List.intercalate_cons_cons, List.append_assoc]
      exact List.prefix_append _ _

theorem capitalized_intercalate (joint : List Char) {piece : List Char}
    (pieces : List (List Char)) (h : Capitalized piece) :
    Capitalized (joint.intercalate (piece :: pieces)) := by
  obtain ⟨tail, htail⟩ := prefix_intercalate joint piece pieces
  rw [← htail]
  exact h.append tail

theorem splitKeyword_intercalate {first : Char} {others : List Char} {pieces : List (List Char)}
    (small : ∀ c ∈ others, isCapital c = false) (capital : isCapital first = true)
    (hpieces : pieces ≠ [])
    (whole : ∀ piece ∈ pieces, Whole (first :: others) piece ∧ Capitalized piece) :
    splitKeyword (first :: others) ((first :: others).intercalate pieces) = pieces := by
  rw [splitKeyword]
  induction pieces with
  | nil => contradiction
  | cons piece pieces ih =>
      obtain ⟨⟨hwhole, hpiece⟩, hrest⟩ := List.forall_mem_cons.mp whole
      cases pieces with
      | nil =>
          rw [List.intercalate_singleton]
          exact splitKeyword_whole small hwhole
      | cons next pieces =>
          have hne : piece.reverse ++ [] ≠ [] := by
            rintro h
            obtain ⟨_, hnone, _⟩ := hpiece
            rw [List.reverse_eq_nil_iff.mp (List.append_eq_nil_iff.mp h).1] at hnone
            contradiction
          rw [List.intercalate_cons_cons, List.append_assoc, splitFrom_append small hwhole,
            splitFrom_word hne (capitalized_intercalate _ pieces (hrest next (by simp)).2),
            ih (List.cons_ne_nil _ _) hrest, List.append_nil, List.reverse_reverse]
          intro c hc
          cases hc
          exact capital

theorem whole_intercalate {first : Char} {others joint : List Char} {pieces : List (List Char)}
    (small : ∀ c ∈ others, isCapital c = false)
    (hjoint : Whole (first :: others) joint ∧ Capitalized joint)
    (whole : ∀ piece ∈ pieces, Whole (first :: others) piece ∧ Capitalized piece) :
    Whole (first :: others) (joint.intercalate pieces) := by
  have hhead : ∀ {text}, Capitalized text → ∀ c ∈ text.head?, isCapital c = true := by
    rintro text ⟨d, hd, hcapital⟩ c hc
    rwa [← Option.mem_unique hd hc]
  induction pieces with
  | nil =>
      intro before after h
      simp [List.intercalate] at h
  | cons piece pieces ih =>
      obtain ⟨⟨hwhole, _⟩, hrest⟩ := List.forall_mem_cons.mp whole
      cases pieces with
      | nil => rwa [List.intercalate_singleton]
      | cons next pieces =>
          have hnext := capitalized_intercalate joint pieces (hrest next (by simp)).2
          rw [List.intercalate_cons_cons, List.append_assoc]
          refine hwhole.append small (hjoint.1.append small (ih hrest) (hhead hnext)) ?_
          exact hhead (hjoint.2.append _)

/-! ## Parts -/

theorem whole_spelling {spelling : List Char} (h : spelling ∈ spellings) :
    Whole "And".toList spelling ∧ Whole "Or".toList spelling ∧
      ∀ c ∈ spelling.head?, isCapital c = true := by
  have hall : ∀ spelling ∈ spellings, Whole "And".toList spelling ∧
      Whole "Or".toList spelling ∧ ∀ c ∈ spelling.head?, isCapital c = true := by
    decide +kernel
  exact hall spelling h

theorem find?_keywords {entry : String × Keyword} (h : entry ∈ keywords) :
    keywords.find? (fun other => other.1 == entry.1) = some entry := by
  have hall : ∀ entry ∈ keywords,
      keywords.find? (fun other => other.1 == entry.1) = some entry := by
    decide +kernel
  exact hall entry h

namespace Phrase

variable {phrase : Phrase} {fields : List String}

structure Fits (fields : List String) (phrase : Phrase) : Prop where
  field : phrase.field ∈ fields
  word : (phrase.word, phrase.keyword) ∈ keywords

theorem Fits.spelling_mem (fits : phrase.Fits fields) : phrase.spelling ∈ spellings := by
  refine List.mem_flatMap.mpr ⟨_, fits.word, ?_⟩
  rw [spelling]
  cases phrase.is <;> simp

theorem Fits.word_eq (fits : phrase.Fits fields) :
    (Text.dropPrefix? "Is".toList phrase.spelling).getD phrase.spelling = phrase.word.toList := by
  have hno : ∀ entry ∈ keywords, Text.dropPrefix? "Is".toList entry.1.toList = none := by
    decide +kernel
  rw [spelling]
  split
  · rw [Text.dropPrefix?_append, Option.getD_some]
  · rw [List.nil_append, hno _ fits.word, Option.getD_none]

end Phrase

variable {fields : List String} {phrase : Phrase}

theorem utf8ByteSize_lt {l r : List Char} (h : l <+: r) (hne : l ≠ r) :
    (String.ofList l).utf8ByteSize < (String.ofList r).utf8ByteSize := by
  obtain ⟨rest, rfl⟩ := h
  have hrest : String.ofList rest ≠ "" := by
    rintro hnil
    rw [String.ofList_eq_empty_iff.mp hnil, List.append_nil] at hne
    exact hne rfl
  rw [String.ofList_append, String.utf8ByteSize_append]
  have := mt String.utf8ByteSize_eq_zero_iff.mp hrest
  omega

theorem mem_properties {entry : List Char × String} :
    entry ∈ properties fields ↔ ∃ field ∈ fields, (property field, field) = entry := by
  rw [properties, List.mem_mergeSort, List.mem_map]
  rfl

theorem properties_sorted (fields : List String) : (properties fields).Pairwise fun l r =>
    (String.ofList r.1).utf8ByteSize ≤ (String.ofList l.1).utf8ByteSize := by
  refine (List.pairwise_mergeSort ?_ ?_ _).imp fun h => of_decide_eq_true h
  · intro l m r hlm hmr
    exact decide_eq_true (Nat.le_trans (of_decide_eq_true hmr) (of_decide_eq_true hlm))
  · intro l r
    simp [Nat.le_total]

def firstProperty? (fields : List String) (text : List Char) : Option (List Char × String) :=
  (properties fields).findSome? fun (property, field) =>
    (Text.dropPrefix? property text).map fun rest => (rest, field)

theorem exists_firstProperty? {text : List Char} {field : String} (hfield : field ∈ fields)
    (hbegins : property field <+: text) :
    ∃ rest other, firstProperty? fields text = some (rest, other) := by
  obtain ⟨rest, rfl⟩ := hbegins
  cases hfirst : firstProperty? fields (property field ++ rest) with
  | some found => exact ⟨found.1, found.2, rfl⟩
  | none =>
      have hnone := List.findSome?_eq_none_iff.mp hfirst _ (mem_properties.mpr ⟨_, hfield, rfl⟩)
      simp [Text.dropPrefix?_append] at hnone

/-- The first property which begins the text is the longest one, as longer ones come first. -/
theorem firstProperty?_longest {text rest : List Char} {field : String}
    (hfirst : firstProperty? fields text = some (rest, field)) :
    field ∈ fields ∧ text = property field ++ rest ∧
      ∀ other ∈ fields, property other <+: text → property other <+: property field := by
  obtain ⟨before, entry, behind, hsplit, hentry, hbefore⟩ := List.findSome?_eq_some_iff.mp hfirst
  obtain ⟨own, hown, rfl⟩ := mem_properties.mp
    (show entry ∈ properties fields by rw [hsplit]; simp)
  obtain ⟨_, hrest, hpair⟩ := Option.map_eq_some_iff.mp hentry
  cases hpair
  have htext := Text.dropPrefix?_eq_some_iff.mp hrest
  refine ⟨hown, htext, fun other hother hbegins => ?_⟩
  have hle : (String.ofList (property other)).utf8ByteSize ≤
      (String.ofList (property field)).utf8ByteSize := by
    obtain ⟨tail, htail⟩ := hbegins
    have hmem : (property other, other) ∈ properties fields := mem_properties.mpr ⟨_, hother, rfl⟩
    have hsorted := properties_sorted fields
    rw [hsplit] at hsorted hmem
    rcases List.mem_append.mp hmem with h | h
    · have hnone := hbefore _ h
      simp [← htail, Text.dropPrefix?_append] at hnone
    rcases List.mem_cons.mp h with h | h
    · rw [(Prod.mk.inj h).1]
    · have hbehind := (List.pairwise_append.mp hsorted).2.1
      rw [List.pairwise_cons] at hbehind
      exact hbehind.1 (property other, other) h
  rcases List.prefix_or_prefix_of_prefix hbegins ⟨rest, htext.symm⟩ with h | h
  · exact h
  · by_cases hsame : property field = property other
    · rw [hsame]
    · exact absurd (utf8ByteSize_lt h hsame) (Nat.not_lt.mpr hle)

theorem firstProperty?_text (names : Unambiguous fields) (fits : phrase.Fits fields) :
    firstProperty? fields phrase.text = some (phrase.spelling, phrase.field) := by
  have hbegins : property phrase.field <+: phrase.text := List.prefix_append _ phrase.spelling
  obtain ⟨rest, field, hfirst⟩ := exists_firstProperty? fits.field hbegins
  obtain ⟨hfield, htext, hlongest⟩ := firstProperty?_longest hfirst
  have hsame : property field = property phrase.field :=
    names.longest _ fits.field _ hfield _ fits.spelling_mem (hlongest _ fits.field hbegins)
      ⟨rest, htext.symm⟩
  obtain rfl := List.inj_on_of_nodup_map names.distinct hfield fits.field hsame
  rw [hfirst, List.append_cancel_left htext]

theorem parsePart_eq (fields : List String) (text : List Char) :
    parsePart fields text =
      match firstProperty? fields text with
      | none => .error (.unknownProperty (String.ofList text))
      | some (rest, field) =>
          let spelled := String.ofList ((Text.dropPrefix? "Is".toList rest).getD rest)
          match keywords.find? fun entry => entry.1 == spelled with
          | some (_, keyword) => .ok ⟨field, keyword⟩
          | none =>
              if spelled ∈ unsupportedKeywords then
                .error (.unsupportedKeyword spelled (String.ofList text))
              else .error (.unknownProperty (String.ofList text)) := rfl

theorem parsePart_text (names : Unambiguous fields) (fits : phrase.Fits fields) :
    parsePart fields phrase.text = .ok phrase.part := by
  rw [parsePart_eq, firstProperty?_text names fits]
  dsimp only
  rw [fits.word_eq, String.ofList_toList, find?_keywords fits.word]
  rfl

/-! ## Names -/

theorem whole_text (names : Unambiguous fields) (fits : phrase.Fits fields) :
    Whole "And".toList phrase.text ∧ Whole "Or".toList phrase.text ∧
      Capitalized phrase.text := by
  obtain ⟨hand, hor⟩ := names.whole _ fits.field
  obtain ⟨hands, hors, hcapital⟩ := whole_spelling fits.spelling_mem
  exact ⟨hand.append (by decide) hands hcapital, hor.append (by decide) hors hcapital,
    (names.capital _ fits.field).append _⟩

theorem splitKeyword_or (names : Unambiguous fields) {phrases : List Phrase}
    (fits : ∀ phrase ∈ phrases, phrase.Fits fields) :
    splitKeyword "Or".toList (predicate phrases) = [predicate phrases] := by
  have hwhole : Whole "Or".toList (predicate phrases) := by
    refine whole_intercalate (by decide) (by decide +kernel) fun piece hpiece => ?_
    obtain ⟨phrase, hphrase, rfl⟩ := List.mem_map.mp hpiece
    exact (whole_text names (fits phrase hphrase)).2
  exact splitKeyword_whole (by decide) hwhole

theorem parseParts_predicate (names : Unambiguous fields) {phrases : List Phrase}
    (hphrases : phrases ≠ []) (fits : ∀ phrase ∈ phrases, phrase.Fits fields) :
    parseParts fields (predicate phrases) = .ok (phrases.map Phrase.part) := by
  have hpieces : ∀ piece ∈ phrases.map Phrase.text,
      Whole "And".toList piece ∧ Capitalized piece := by
    intro piece hpiece
    obtain ⟨phrase, hphrase, rfl⟩ := List.mem_map.mp hpiece
    obtain ⟨hwhole, _, hcapital⟩ := whole_text names (fits phrase hphrase)
    exact ⟨hwhole, hcapital⟩
  have hsplit : splitKeyword "And".toList (predicate phrases) = phrases.map Phrase.text :=
    splitKeyword_intercalate (by decide) (by decide) (by simpa using hphrases) hpieces
  have hne : (predicate phrases).isEmpty = false := by
    obtain ⟨phrase, rest, rfl⟩ := List.exists_cons_of_ne_nil hphrases
    obtain ⟨c, hc, _⟩ := capitalized_intercalate "And".toList (rest.map Phrase.text)
      (hpieces phrase.text (by simp)).2
    obtain ⟨tail, htail⟩ := List.head?_eq_some_iff.mp hc
    rw [predicate, List.map_cons, htail]
    rfl
  rw [parseParts, hne, if_neg Bool.false_ne_true, hsplit,
    mapM_map_ok fun phrase hphrase => parsePart_text names (fits phrase hphrase)]

theorem capitalized_subject (subject : Subject) (rest : List Char) :
    Capitalized (subject.text ++ "By".toList ++ rest) := by
  cases subject with
  | unlimited => exact ⟨'B', rfl, by decide⟩
  | first count => exact ⟨'F', rfl, by decide⟩
  | top count => exact ⟨'T', rfl, by decide⟩

/--
A method name is parsed into the fields and comparisons, the limit and the execution
it is put together from; a collection limited to one entity is a single entity.
-/
theorem parse_methodName (names : Unambiguous fields) {verb : String} {execution : Execution}
    {subject : Subject} {phrases : List Phrase} (hverb : (verb, execution) ∈ verbs)
    (bounded : subject.Bounded) (hphrases : phrases ≠ [])
    (fits : ∀ phrase ∈ phrases, phrase.Fits fields) :
    parse (methodName verb subject phrases) fields = .ok {
      method := methodName verb subject phrases
      execution :=
        if execution = .collection ∧ subject.limit = some 1 then .single else execution
      limit := subject.limit
      parts := phrases.map Phrase.part } := by
  have hname : (methodName verb subject phrases).toList =
      verb.toList ++ (subject.text ++ "By".toList ++ predicate phrases) := String.toList_ofList
  rw [parse, hname, splitVerb?_append hverb (capitalized_subject subject _)]
  dsimp only
  rw [findWord?_by, Option.getD_some]
  dsimp only
  rw [splitKeyword_or names fits, limit?_text bounded, parseParts_predicate names hphrases fits]
  rfl

/-- `name` begins `nameSuffix`, but a comparison does not go on like it. -/
def people : List String := ["id", "name", "nameSuffix", "age", "active", "created_at"]

def nameAgeActive : List Phrase :=
  [⟨"nameSuffix", false, "", .equals⟩, ⟨"age", true, "GreaterThanEqual", .greaterThanEqual⟩,
    ⟨"active", true, "True", .isTrue⟩]

theorem parse_methodName_people :
    parse "findTop3ByNameSuffixAndAgeIsGreaterThanEqualAndActiveIsTrue" people = .ok {
      method := "findTop3ByNameSuffixAndAgeIsGreaterThanEqualAndActiveIsTrue"
      execution := .collection
      limit := some 3
      parts := [⟨"nameSuffix", .equals⟩, ⟨"age", .greaterThanEqual⟩, ⟨"active", .isTrue⟩] } := by
  have names : Unambiguous people :=
    ⟨by decide +kernel, by decide +kernel, by decide +kernel, by decide +kernel⟩
  have hname : methodName "find" (.top (some 3)) nameAgeActive =
      "findTop3ByNameSuffixAndAgeIsGreaterThanEqualAndActiveIsTrue" := by decide +kernel
  have hverb : ("find", Execution.collection) ∈ verbs := by decide
  have bounded : (Subject.top (some 3)).Bounded := by
    rintro n ⟨⟩
    decide
  have fits : ∀ phrase ∈ nameAgeActive, phrase.Fits people := by
    have h : ∀ phrase ∈ nameAgeActive,
        phrase.field ∈ people ∧ (phrase.word, phrase.keyword) ∈ keywords := by decide
    exact fun phrase hphrase => ⟨(h phrase hphrase).1, (h phrase hphrase).2⟩
  rw [← hname]
  exact parse_methodName names hverb bounded (by decide) fits

end TupleStore.MethodQuery
