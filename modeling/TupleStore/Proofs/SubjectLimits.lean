import TupleStore.Proofs.MethodNames

/-!
# Limits in subjects

The subject of a method name is a run of words, one of which may be `First` or `Top` with a
number behind it.  The parser looks for the characters of these words, and only at the first
place where they stand: a word which goes on behind them there hides the limit further on.
-/

namespace TupleStore

namespace MethodQuery

/-! ## Words -/

/-- A capital with small letters behind it. -/
def IsWord : List Char → Prop
  | [] => False
  | c :: rest => isCapital c = true ∧ ∀ d ∈ rest, isSmall d = true

instance (word : List Char) : Decidable (IsWord word) := by
  unfold IsWord
  split <;> infer_instance

def Opens (text : List Char) : Prop := ∀ c ∈ text.head?, isCapital c = true

theorem not_small_of_capital {c : Char} (h : isCapital c = true) :
    isSmall c = false ∧ c.isDigit = false := by
  simp only [isCapital, isSmall, Char.isDigit, Bool.and_eq_true, decide_eq_true_eq,
    Bool.and_eq_false_iff, decide_eq_false_iff_not, Char.le_def, UInt32.le_iff_toNat_le,
    Char.reduceVal, UInt32.reduceToNat, ge_iff_le] at h ⊢
  omega

theorem not_small_of_digit {c : Char} (h : c.isDigit = true) :
    isSmall c = false ∧ isCapital c = false := by
  simp only [isCapital, isSmall, Char.isDigit, Bool.and_eq_true, decide_eq_true_eq,
    Bool.and_eq_false_iff, decide_eq_false_iff_not, Char.le_def, UInt32.le_iff_toNat_le,
    Char.reduceVal, UInt32.reduceToNat, ge_iff_le] at h ⊢
  omega

theorem Capitalized.opens {text : List Char} (h : Capitalized text) : Opens text := by
  obtain ⟨c, hc, hcapital⟩ := h
  intro d hd
  rwa [Option.mem_unique hd hc]

theorem IsWord.capitalized {word : List Char} (h : IsWord word) : Capitalized word := by
  cases word with
  | nil => exact h.elim
  | cons c rest => exact ⟨c, rfl, h.1⟩

variable {word piece rest : List Char}

theorem prefix_append_iff (hword : IsWord word) (hpiece : IsWord piece)
    (apart : ∀ c ∈ rest.head?, isSmall c = false) : word <+: piece ++ rest ↔ word <+: piece := by
  refine ⟨fun h => ?_, fun h => h.trans (List.prefix_append ..)⟩
  rcases List.prefix_or_prefix_of_prefix h (List.prefix_append piece rest) with h' | ⟨tail, rfl⟩
  · exact h'
  cases tail with
  | nil => rw [List.append_nil]
  | cons d tail =>
      -- the word would go on with a small letter
      obtain ⟨last, rfl⟩ := (List.prefix_append_right_inj piece).mp h
      have hhead : isSmall d = false := apart d rfl
      cases piece with
      | nil => exact hpiece.elim
      | cons c piece =>
          rw [hword.2 d (by simp)] at hhead
          cases hhead

theorem findWord?_skip (hword : IsWord word) (hpiece : IsWord piece)
    (apart : ∀ c ∈ rest.head?, isSmall c = false) (h : ¬word <+: piece) :
    Text.findWord? word (piece ++ rest) =
      (Text.findWord? word rest).map fun found => (piece ++ found.1, found.2) := by
  cases word with
  | nil => exact hword.elim
  | cons c word =>
      cases piece with
      | nil => exact hpiece.elim
      | cons d piece =>
          have hnone : Text.dropPrefix? (c :: word) (d :: (piece ++ rest)) = none :=
            Text.dropPrefix?_eq_none fun hprefix =>
              h ((prefix_append_iff hword hpiece apart).mp hprefix)
          have hfirst : c ∉ piece := by
            intro hmem
            have hsmall := hpiece.2 c hmem
            rw [(not_small_of_capital hword.1).1] at hsmall
            cases hsmall
          rw [List.cons_append, Text.findWord?, hnone, Text.findWord?_pass hfirst]
          simp [Function.comp_def]

/-! ## The number behind a word -/

def stated (digits : List Char) : Nat :=
  if digits = [] then 1 else Nat.ofDigitChars 10 digits 0

/-- The number which is read: one also where the number is too large for a limit. -/
def granted (digits : List Char) : Nat :=
  if stated digits ≤ maxLimit then stated digits else 1

def limitFrom (text : List Char) : Option Nat :=
  if (text.dropWhile Char.isDigit).head?.any isSmall then none
  else
    match Text.digits? (text.takeWhile Char.isDigit) with
    | some number => if number ≤ maxLimit then some number else some 1
    | none => some 1

theorem limitAfter?_eq (word subject : List Char) :
    limitAfter? word subject =
      (Text.findWord? word subject).bind fun found => limitFrom found.2 := rfl

theorem limitFrom_digits {digits : List Char} (hdigits : ∀ c ∈ digits, c.isDigit = true)
    (opens : Opens rest) : limitFrom (digits ++ rest) = some (granted digits) := by
  have hrest : rest.dropWhile Char.isDigit = rest ∧ rest.takeWhile Char.isDigit = [] ∧
      rest.head?.any isSmall = false := by
    cases rest with
    | nil => exact ⟨rfl, rfl, rfl⟩
    | cons c rest =>
        obtain ⟨hsmall, hdigit⟩ := not_small_of_capital (opens c rfl)
        rw [List.dropWhile_cons_of_neg (by simp [hdigit]),
          List.takeWhile_cons_of_neg (by simp [hdigit])]
        exact ⟨rfl, rfl, hsmall⟩
  obtain ⟨hdrop, htake, hsmall⟩ := hrest
  rw [limitFrom, List.dropWhile_append_of_pos hdigits, hdrop, hsmall, if_neg Bool.false_ne_true,
    List.takeWhile_append_of_pos hdigits, htake, List.append_nil, granted, stated]
  by_cases hempty : digits = []
  · rw [hempty]
    rfl
  · rw [Text.digits?_of_isDigit hdigits hempty, if_neg hempty]
    dsimp only
    split <;> rfl

theorem limitFrom_small {c : Char} (h : isSmall c = true) : limitFrom (c :: rest) = none := by
  have hdigit : c.isDigit = false := by
    cases hdigit : c.isDigit with
    | false => rfl
    | true =>
        rw [(not_small_of_digit hdigit).1] at h
        cases h
  rw [limitFrom, List.dropWhile_cons_of_neg (by simp [hdigit])]
  exact if_pos h

/-! ## Runs of words -/

/-- A word with digits behind it. -/
structure Segment where
  word : List Char
  digits : List Char := []

namespace Segment

def text (segment : Segment) : List Char := segment.word ++ segment.digits

structure IsPlain (segment : Segment) : Prop where
  word : IsWord segment.word
  digits : ∀ c ∈ segment.digits, c.isDigit = true

variable {segment : Segment} {segments : List Segment}

theorem opens_flatMap (plain : ∀ segment ∈ segments, segment.IsPlain) :
    Opens (segments.flatMap text) := by
  cases segments with
  | nil => exact nofun
  | cons segment segments =>
      rw [List.flatMap_cons, text, List.append_assoc]
      exact ((plain segment List.mem_cons_self).word.capitalized.append _).opens

theorem capitalized_flatMap (plain : ∀ segment ∈ segments, segment.IsPlain)
    (hrest : Capitalized rest) : Capitalized (segments.flatMap text ++ rest) := by
  cases segments with
  | nil => exact hrest
  | cons segment segments =>
      rw [List.flatMap_cons, text, List.append_assoc, List.append_assoc]
      exact (plain segment List.mem_cons_self).word.capitalized.append _

theorem findWord?_append (hword : IsWord word) (plain : segment.IsPlain) (opens : Opens rest)
    (h : ¬word <+: segment.word) :
    Text.findWord? word (segment.text ++ rest) =
      (Text.findWord? word rest).map fun found => (segment.text ++ found.1, found.2) := by
  have hdigits : Text.findWord? word (segment.digits ++ rest) =
      (Text.findWord? word rest).map fun found => (segment.digits ++ found.1, found.2) := by
    cases word with
    | nil => exact hword.elim
    | cons c word =>
        refine Text.findWord?_pass fun hmem => ?_
        have hcapital := hword.1
        rw [(not_small_of_digit (plain.digits c hmem)).2] at hcapital
        cases hcapital
  have apart : ∀ c ∈ (segment.digits ++ rest).head?, isSmall c = false := by
    cases hempty : segment.digits with
    | nil => exact fun c hc => (not_small_of_capital (opens c hc)).1
    | cons d digits =>
        rintro _ ⟨⟩
        exact (not_small_of_digit (plain.digits d (by rw [hempty]; exact List.mem_cons_self))).1
  rw [text, List.append_assoc, findWord?_skip hword plain.word apart h, hdigits]
  simp [Function.comp_def]

/-- The first word which begins with the word, if it is not longer, has the limit behind it. -/
theorem limitAfter?_flatMap (hword : IsWord word)
    (plain : ∀ segment ∈ segments, segment.IsPlain) :
    limitAfter? word (segments.flatMap text) =
      (segments.find? fun segment => word.isPrefixOf segment.word).bind fun segment =>
        if segment.word = word then some (granted segment.digits) else none := by
  induction segments with
  | nil =>
      cases word with
      | nil => exact hword.elim
      | cons c word => rfl
  | cons segment segments ih =>
      obtain ⟨hsegment, hrest⟩ := List.forall_mem_cons.mp plain
      have opens : Opens (segments.flatMap text) := opens_flatMap hrest
      rw [List.flatMap_cons, List.find?_cons]
      cases hprefix : word.isPrefixOf segment.word with
      | false =>
          have hother : ¬word <+: segment.word := by
            rw [← List.isPrefixOf_iff_prefix, hprefix]
            exact Bool.false_ne_true
          rw [← ih hrest, limitAfter?_eq, limitAfter?_eq,
            findWord?_append hword hsegment opens hother, Option.bind_map]
          rfl
      | true =>
          obtain ⟨tail, htail⟩ := List.isPrefixOf_iff_prefix.mp hprefix
          have hfound : Text.findWord? word (segment.text ++ segments.flatMap text) =
              some ([], tail ++ (segment.digits ++ segments.flatMap text)) := by
            rw [text, ← htail, List.append_assoc, List.append_assoc]
            cases word with
            | nil => exact hword.elim
            | cons c word => exact Text.findWord?_self c word _
          rw [limitAfter?_eq, hfound, Option.bind_some, Option.bind_some]
          dsimp only
          cases tail with
          | nil =>
              rw [List.append_nil] at htail
              rw [if_pos htail.symm]
              exact limitFrom_digits hsegment.digits opens
          | cons d tail =>
              have hlonger : segment.word ≠ word := by
                rw [← htail]
                simp
              rw [if_neg hlonger]
              refine limitFrom_small ?_
              cases word with
              | nil => exact hword.elim
              | cons c word =>
                  have hsmall := hsegment.word
                  rw [← htail] at hsmall
                  exact hsmall.2 d (by simp)

theorem limitAfter?_eq_none (hword : IsWord word)
    (plain : ∀ segment ∈ segments, segment.IsPlain)
    (h : ∀ segment ∈ segments, segment.word ≠ word) :
    limitAfter? word (segments.flatMap text) = none := by
  rw [limitAfter?_flatMap hword plain, Option.bind_eq_none_iff]
  intro segment hfound
  exact if_neg (h segment (List.mem_of_find?_eq_some hfound))

theorem findWord?_by (predicate : List Char) (plain : ∀ segment ∈ segments, segment.IsPlain)
    (h : ∀ segment ∈ segments, ¬"By".toList <+: segment.word) :
    Text.findWord? "By".toList (segments.flatMap text ++ ("By".toList ++ predicate)) =
      some (segments.flatMap text, predicate) := by
  have hby : IsWord "By".toList := by decide
  induction segments with
  | nil => exact Text.findWord?_self 'B' ['y'] predicate
  | cons segment segments ih =>
      obtain ⟨hsegment, hrest⟩ := List.forall_mem_cons.mp plain
      obtain ⟨hno, hnone⟩ := List.forall_mem_cons.mp h
      have opens : Opens (segments.flatMap text ++ ("By".toList ++ predicate)) :=
        (capitalized_flatMap hrest (hby.capitalized.append predicate)).opens
      rw [List.flatMap_cons, List.append_assoc, findWord?_append hby hsegment opens hno,
        ih hrest hnone]
      rfl

end Segment

/-! ## Subjects with one limit -/

/-- Words in which one is `First` or `Top`, with the digits behind it. -/
structure LimitedSubject where
  before : List (List Char) := []
  word : List Char
  digits : List Char := []
  after : List (List Char) := []

namespace LimitedSubject

def segments (subject : LimitedSubject) : List Segment :=
  subject.before.map (⟨·, []⟩) ++ ⟨subject.word, subject.digits⟩ :: subject.after.map (⟨·, []⟩)

def text (subject : LimitedSubject) : List Char := subject.segments.flatMap Segment.text

/-- A word which is no limit and does not begin with `By`. -/
structure IsOther (word : List Char) : Prop where
  isWord : IsWord word
  noBy : ¬"By".toList <+: word
  noFirst : word ≠ "First".toList
  noTop : word ≠ "Top".toList

structure Regular (subject : LimitedSubject) : Prop where
  before : ∀ word ∈ subject.before, IsOther word
  word : subject.word = "First".toList ∨ subject.word = "Top".toList
  digits : ∀ c ∈ subject.digits, c.isDigit = true
  after : ∀ word ∈ subject.after, IsOther word

/-- No word in front of the limit begins with it. -/
def Exposed (subject : LimitedSubject) : Prop :=
  ∀ word ∈ subject.before, ¬subject.word <+: word

instance (subject : LimitedSubject) : Decidable subject.Exposed := by
  unfold Exposed
  infer_instance

def limit (subject : LimitedSubject) : Option Nat :=
  if subject.Exposed then some (granted subject.digits) else none

variable {subject : LimitedSubject}

theorem mem_segments {segment : Segment} (regular : subject.Regular)
    (h : segment ∈ subject.segments) :
    IsOther segment.word ∧ segment.digits = [] ∨ segment = ⟨subject.word, subject.digits⟩ := by
  rcases List.mem_append.mp h with h | h
  · obtain ⟨word, hword, rfl⟩ := List.mem_map.mp h
    exact .inl ⟨regular.before word hword, rfl⟩
  rcases List.mem_cons.mp h with rfl | h
  · exact .inr rfl
  · obtain ⟨word, hword, rfl⟩ := List.mem_map.mp h
    exact .inl ⟨regular.after word hword, rfl⟩

namespace Regular

theorem isWord (regular : subject.Regular) :
    IsWord subject.word ∧ ¬"By".toList <+: subject.word := by
  rcases regular.word with h | h <;>
  · rw [h]
    decide

theorem plain (regular : subject.Regular) : ∀ segment ∈ subject.segments, segment.IsPlain := by
  intro segment hsegment
  rcases mem_segments regular hsegment with ⟨other, hdigits⟩ | rfl
  · exact ⟨other.isWord, by rw [hdigits]; exact fun c hc => absurd hc List.not_mem_nil⟩
  · exact ⟨regular.isWord.1, regular.digits⟩

theorem noBy (regular : subject.Regular) :
    ∀ segment ∈ subject.segments, ¬"By".toList <+: segment.word := by
  intro segment hsegment
  rcases mem_segments regular hsegment with ⟨other, _⟩ | rfl
  · exact other.noBy
  · exact regular.isWord.2

theorem limitAfter?_word (regular : subject.Regular) :
    limitAfter? subject.word subject.text = subject.limit := by
  rw [limit, text, Segment.limitAfter?_flatMap regular.isWord.1 regular.plain, segments,
    List.find?_append]
  cases hfound : (subject.before.map (Segment.mk · [])).find? fun segment =>
      subject.word.isPrefixOf segment.word with
  | none =>
      have exposed : subject.Exposed := by
        intro other hother hprefix
        have hnone := List.find?_eq_none.mp hfound _ (List.mem_map_of_mem hother)
        exact hnone (List.isPrefixOf_iff_prefix.mpr hprefix)
      have hself : subject.word.isPrefixOf subject.word = true :=
        List.isPrefixOf_iff_prefix.mpr List.prefix_rfl
      rw [if_pos exposed, Option.none_or, List.find?_cons, hself, Option.bind_some, if_pos rfl]
  | some segment =>
      obtain ⟨other, hother, rfl⟩ := List.mem_map.mp (List.mem_of_find?_eq_some hfound)
      have hprefix : subject.word <+: other :=
        List.isPrefixOf_iff_prefix.mp (by simpa using List.find?_some hfound)
      have hne : other ≠ subject.word := by
        rcases regular.word with h | h <;> rw [h]
        · exact (regular.before other hother).noFirst
        · exact (regular.before other hother).noTop
      rw [if_neg fun exposed => exposed other hother hprefix, Option.some_or, Option.bind_some,
        if_neg hne]

theorem limitAfter?_other {word : List Char} (regular : subject.Regular)
    (hword : word = "First".toList ∨ word = "Top".toList) (hne : subject.word ≠ word) :
    limitAfter? word subject.text = none := by
  have hisWord : IsWord word := by
    rcases hword with rfl | rfl <;> decide
  refine Segment.limitAfter?_eq_none hisWord regular.plain fun segment hsegment => ?_
  rcases mem_segments regular hsegment with ⟨other, _⟩ | rfl
  · rcases hword with rfl | rfl
    · exact other.noFirst
    · exact other.noTop
  · exact hne

theorem limit?_text (regular : subject.Regular) :
    limit? subject.text = subject.limit := by
  rw [limit?]
  rcases regular.word with h | h
  · have htop : limitAfter? "Top".toList subject.text = none :=
      regular.limitAfter?_other (.inr rfl) (by rw [h]; decide)
    rw [htop, Option.or_none, ← h, regular.limitAfter?_word]
  · have hfirst : limitAfter? "First".toList subject.text = none :=
      regular.limitAfter?_other (.inl rfl) (by rw [h]; decide)
    rw [hfirst, Option.none_or, ← h, regular.limitAfter?_word]

end Regular

end LimitedSubject

/-! ## Method names with such subjects -/

def byName (verb : String) (subject predicate : List Char) : String :=
  String.ofList (verb.toList ++ (subject ++ ("By".toList ++ predicate)))

theorem parse_byName {verb : String} {execution : Execution} {subject predicate : List Char}
    {fields : List String} (hverb : (verb, execution) ∈ verbs)
    (hcapital : Capitalized (subject ++ ("By".toList ++ predicate)))
    (hby : Text.findWord? "By".toList (subject ++ ("By".toList ++ predicate)) =
      some (subject, predicate)) :
    parse (byName verb subject predicate) fields =
      if 1 < (splitKeyword "Or".toList predicate).length then .error .disjunction
      else (parseParts fields predicate).map fun parts => {
        method := byName verb subject predicate
        execution :=
          if execution = .collection ∧ limit? subject = some 1 then .single else execution
        limit := limit? subject
        parts } := by
  have hname : (byName verb subject predicate).toList =
      verb.toList ++ (subject ++ ("By".toList ++ predicate)) := String.toList_ofList
  rw [parse, hname, splitVerb?_append hverb hcapital]
  dsimp only
  rw [hby, Option.getD_some]
  dsimp only
  split
  · rfl
  · cases parseParts fields predicate <;> rfl

theorem parse_findBy (predicate : List Char) (fields : List String) :
    parse (byName "find" [] predicate) fields =
      if 1 < (splitKeyword "Or".toList predicate).length then .error .disjunction
      else (parseParts fields predicate).map fun parts =>
        ⟨byName "find" [] predicate, .collection, none, parts⟩ := by
  have hfind : ("find", Execution.collection) ∈ verbs := by decide
  have hby : Text.findWord? "By".toList ([] ++ ("By".toList ++ predicate)) =
      some ([], predicate) := Text.findWord?_self 'B' ['y'] predicate
  rw [parse_byName hfind ⟨'B', rfl, by decide⟩ hby]
  rfl

theorem parse_limitedSubject {subject : LimitedSubject} {verb : String} {execution : Execution}
    {predicate : List Char} {fields : List String} {plain : MethodQuery}
    (regular : subject.Regular) (hverb : (verb, execution) ∈ verbs)
    (hplain : parse (byName "find" [] predicate) fields = .ok plain) :
    parse (byName verb subject.text predicate) fields = .ok {
      method := byName verb subject.text predicate
      execution :=
        if execution = .collection ∧ subject.limit = some 1 then .single else execution
      limit := subject.limit
      parts := plain.parts } := by
  have hcapital : Capitalized (subject.text ++ ("By".toList ++ predicate)) :=
    Segment.capitalized_flatMap regular.plain ⟨'B', rfl, by decide⟩
  rw [parse_findBy] at hplain
  rw [parse_byName hverb hcapital (Segment.findWord?_by predicate regular.plain regular.noBy),
    regular.limit?_text]
  split at hplain
  · cases hplain
  next hone =>
    rw [if_neg hone]
    cases hparts : parseParts fields predicate with
    | error error =>
        rw [hparts] at hplain
        cases hplain
    | ok parts =>
        rw [hparts] at hplain
        cases hplain
        rfl

theorem parse_byName_predicate {fields : List String} {phrases : List Phrase}
    (names : Unambiguous fields) (hphrases : phrases ≠ [])
    (fits : ∀ phrase ∈ phrases, phrase.Fits fields) :
    parse (byName "find" [] (predicate phrases)) fields = .ok {
      method := byName "find" [] (predicate phrases)
      execution := .collection
      limit := none
      parts := phrases.map Phrase.part } := by
  rw [parse_findBy, splitKeyword_or names fits, parseParts_predicate names hphrases fits]
  rfl

/-! ## Limits which are obeyed -/

/--
The limit is the number which is stated; where this is too large for a limit, no result
reaches the limit.
-/
def Obeys (digits : List Char) (limit : Option Nat) : Prop :=
  if stated digits ≤ maxLimit then limit = some (stated digits)
  else ∀ bound ∈ limit, maxLimit ≤ bound

instance (digits : List Char) (limit : Option Nat) : Decidable (Obeys digits limit) := by
  unfold Obeys
  infer_instance

theorem obeys_granted {digits : List Char} :
    Obeys digits (some (granted digits)) ↔ stated digits ≤ maxLimit := by
  rw [Obeys, granted]
  split
  next h => exact ⟨fun _ => h, fun _ => rfl⟩
  next h =>
    refine ⟨fun hbound => ?_, fun hle => absurd hle h⟩
    exact absurd (hbound 1 rfl) (by decide)

theorem obeys_none {digits : List Char} : Obeys digits none ↔ ¬stated digits ≤ maxLimit := by
  rw [Obeys]
  split
  next h => exact ⟨nofun, fun hno => absurd h hno⟩
  next h => exact ⟨fun _ => h, fun _ => nofun⟩

/--
Whatever stands beside the limit, the query is found, and its limit is the stated one if and
only if this is small enough for a limit and no word in front of it begins with its word, or
neither is so.
-/
theorem obeys_limit_iff {subject : LimitedSubject} {verb : String} {execution : Execution}
    {predicate : List Char} {fields : List String} {plain : MethodQuery}
    (regular : subject.Regular) (hverb : (verb, execution) ∈ verbs)
    (hplain : parse (byName "find" [] predicate) fields = .ok plain) :
    ∃ query, parse (byName verb subject.text predicate) fields = .ok query ∧
      query.parts = plain.parts ∧
      (Obeys subject.digits query.limit ↔
        (stated subject.digits ≤ maxLimit ↔ subject.Exposed)) := by
  refine ⟨_, parse_limitedSubject regular hverb hplain, rfl, ?_⟩
  dsimp only
  rw [LimitedSubject.limit]
  by_cases exposed : subject.Exposed
  · rw [if_pos exposed, obeys_granted]
    exact (iff_true_right exposed).symm
  · rw [if_neg exposed, obeys_none]
    exact (iff_false_right exposed).symm

theorem unambiguous_people : Unambiguous people :=
  ⟨by decide +kernel, by decide +kernel, by decide +kernel, by decide +kernel⟩

theorem parse_findByName :
    parse (byName "find" [] (predicate [⟨"name", false, "", .equals⟩])) people = .ok {
      method := byName "find" [] (predicate [⟨"name", false, "", .equals⟩])
      execution := .collection
      limit := none
      parts := [⟨"name", .equals⟩] } := by
  refine parse_byName_predicate unambiguous_people (by decide) fun phrase hphrase => ?_
  obtain rfl := List.mem_singleton.mp hphrase
  exact ⟨by decide, by decide⟩

def distinctFirst3 : LimitedSubject where
  before := ["Distinct".toList]
  word := "First".toList
  digits := "3".toList

theorem obeys_limit_distinctFirst3 :
    ∃ query, parse "findDistinctFirst3ByName" people = .ok query ∧
      Obeys "3".toList query.limit := by
  have other : LimitedSubject.IsOther "Distinct".toList :=
    ⟨by decide, by decide, by decide, by decide⟩
  have regular : distinctFirst3.Regular :=
    ⟨by simpa [distinctFirst3] using other, .inl rfl, by decide, by simp [distinctFirst3]⟩
  have hverb : ("find", Execution.collection) ∈ verbs := by decide
  obtain ⟨query, hquery, _, hobeys⟩ := obeys_limit_iff regular hverb parse_findByName
  have hname : byName "find" distinctFirst3.text (predicate [⟨"name", false, "", .equals⟩]) =
      "findDistinctFirst3ByName" := by decide +kernel
  rw [hname] at hquery
  exact ⟨query, hquery, hobeys.mpr (by decide)⟩

def topicsTop5 : LimitedSubject where
  before := ["Topics".toList]
  word := "Top".toList
  digits := "5".toList

/-- The beginning of `Topics` is taken for the place of the limit, and the five are lost. -/
theorem not_obeys_limit_topics : topicsTop5.Regular ∧
    ∃ query, parse "findTopicsTop5ByName" people = .ok query ∧ query.limit = none ∧
      ¬Obeys "5".toList query.limit := by
  have other : LimitedSubject.IsOther "Topics".toList :=
    ⟨by decide, by decide, by decide, by decide⟩
  have regular : topicsTop5.Regular :=
    ⟨by simpa [topicsTop5] using other, .inr rfl, by decide, by simp [topicsTop5]⟩
  have hverb : ("find", Execution.collection) ∈ verbs := by decide
  have hquery := parse_limitedSubject regular hverb parse_findByName
  have hname : byName "find" topicsTop5.text (predicate [⟨"name", false, "", .equals⟩]) =
      "findTopicsTop5ByName" := by decide +kernel
  rw [hname] at hquery
  exact ⟨regular, _, hquery, by decide, by decide⟩

/-- A number which is too large for a limit is taken for one. -/
example : limit? "Top99999999999999999999".toList = some 1 := by decide

end MethodQuery

end TupleStore
