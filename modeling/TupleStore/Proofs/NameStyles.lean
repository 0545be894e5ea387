import TupleStore.Entity.Declaration
import TupleStore.Proofs.PlainNames

/-!
# Styles of plain names

The renaming rules cut a name into words, while a record is written by rules which
look at the underscores only.  On plain names the two agree exactly when words end
at underscores alone, up to what the letter case of the style hides.
-/

namespace TupleStore

namespace Text

variable {c : Char} {word name rest : List Char}

/-! ## Words joined by a separator -/

/-- Whether no word ends in front of another letter or digit. -/
def unbroken : List Char → Bool
  | [] => true
  | c :: rest => !endsBefore c rest && unbroken rest

/-- Whether each underscore stands between two other characters, where one stands
in front of the name when `inner` holds. -/
def tidyFrom (inner : Bool) : List Char → Bool
  | [] => inner
  | c :: rest => if c = '_' then inner && tidyFrom false rest else tidyFrom true rest

/-- Whether each underscore of the name stands between two other characters. -/
def tidy (name : List Char) : Bool := tidyFrom false name

theorem tidyFrom_underscore (inner : Bool) :
    tidyFrom inner ('_' :: rest) = (inner && tidyFrom false rest) := if_pos rfl

theorem endsBefore_underscore : endsBefore '_' rest = false := by
  cases rest <;> rfl

theorem unbroken_underscore : unbroken ('_' :: rest) = unbroken rest := by
  rw [unbroken, endsBefore_underscore]
  rfl

def restyle (separator : Char) (f : Char → Char) (c : Char) : Char :=
  if c = '_' then separator else f c

theorem joinWords_cons (separator : List Char) (word : List Char) (words : List (List Char)) :
    joinWords separator (word :: words) =
      word ++ if words.isEmpty then [] else separator ++ joinWords separator words := by
  cases words with
  | nil => exact (List.intercalate_singleton ..).trans (List.append_nil word).symm
  | cons w words => exact (List.intercalate_cons_cons ..).trans (List.append_assoc ..)

section Joining

variable {separator : Char} {f g : Char → Char}

theorem joinWords_cons_eq_iff {words : List (List Char)} :
    joinWords [separator] ((word :: words).map (List.map f)) = word.map g ++ rest ↔
      word.map f = word.map g ∧
        (if words.isEmpty then []
          else separator :: joinWords [separator] (words.map (List.map f))) = rest := by
  rw [List.map_cons, joinWords_cons, List.isEmpty_map, List.singleton_append]
  constructor
  · exact fun h => List.append_inj h (by rw [List.length_map, List.length_map])
  · rintro ⟨hword, hrest⟩
    rw [hword, hrest]

theorem head?_joinWords (hf : ∀ c, c.isAlphanum = true → f c ≠ separator)
    (hname : ∀ c ∈ name, IsPlainChar c) :
    (joinWords [separator] ((plainWords [] name).map (List.map f))).head? ≠ some separator := by
  cases hwords : plainWords [] name with
  | nil => exact nofun
  | cons w words =>
      obtain ⟨hw, halphanum⟩ :=
        mem_plainWords (List.forall_mem_nil _) hname (hwords ▸ List.mem_cons_self)
      obtain ⟨c, w, rfl⟩ := List.exists_cons_of_ne_nil hw
      rw [List.map_cons, joinWords_cons]
      exact fun h => hf c (halphanum c List.mem_cons_self) (Option.some.inj h)

theorem isAlphanum_of_endsBetween {d : Char} {next : Option Char}
    (h : endsBetween c d next = true) : d.isAlphanum = true := by
  simp only [endsBetween, Bool.or_eq_true, Bool.and_eq_true] at h
  simp only [Char.isAlphanum, isAlpha_eq, Bool.or_eq_true] at h ⊢
  tauto

theorem restyle_of_isAlphanum (hc : c.isAlphanum = true) : restyle separator g c = g c :=
  if_neg (ne_underscore hc)

/-- Where a word ends without an underscore, the separator stands in the place of a letter. -/
theorem joinWords_ne_of_endsBefore {words : List (List Char)}
    (hg : ∀ c, c.isAlphanum = true → g c ≠ separator) (hends : endsBefore c rest = true) :
    joinWords [separator] ((word :: words).map (List.map f)) ≠
      word.map g ++ rest.map (restyle separator g) := by
  intro h
  obtain ⟨_, htail⟩ := joinWords_cons_eq_iff.mp h
  cases rest with
  | nil => exact absurd hends Bool.false_ne_true
  | cons d next =>
      have hd := isAlphanum_of_endsBetween hends
      rw [List.map_cons, restyle_of_isAlphanum hd] at htail
      split at htail
      · exact List.cons_ne_nil _ _ htail.symm
      · exact hg d hd (List.head_eq_of_cons_eq htail).symm

theorem if_empty_eq_cons_iff {words : List (List Char)} (h : rest ≠ []) :
    (if words.isEmpty then [] else separator :: joinWords [separator] (words.map (List.map f))) =
        separator :: rest ↔
      joinWords [separator] (words.map (List.map f)) = rest := by
  cases words with
  | nil => exact iff_of_false nofun (fun hnil => h hnil.symm)
  | cons w words => exact List.cons_inj_right separator

theorem joinWords_eq_map_iff (hmark : f '_' = g '_')
    (hf : ∀ c, c.isAlphanum = true → f c ≠ separator)
    (hg : ∀ c, c.isAlphanum = true → g c ≠ separator)
    (hname : ∀ c ∈ name, IsPlainChar c) (nonempty : word ++ name ≠ []) :
    joinWords [separator] ((plainWords word name).map (List.map f)) =
        word.map g ++ name.map (restyle separator g) ↔
      (∀ c ∈ word ++ name, f c = g c) ∧
        tidyFrom (!word.isEmpty) name = true ∧ unbroken name = true := by
  -- along the name, while the word in front of it grows
  induction name generalizing word with
  | nil =>
      rw [List.append_nil] at nonempty
      rw [plainWords_nil, if_neg (mt List.isEmpty_iff.mp nonempty)]
      simp [joinWords_cons, tidyFrom, unbroken, nonempty]
  | cons c rest ih =>
      obtain ⟨hc, hrest⟩ := List.forall_mem_cons.mp hname
      rcases hc with hc | rfl
      · have hrestyle : word.map g ++ (c :: rest).map (restyle separator g) =
            (word ++ [c]).map g ++ rest.map (restyle separator g) := by
          rw [List.map_cons, restyle_of_isAlphanum hc, List.map_append, List.append_assoc]
          rfl
        rw [plainWords_alphanum hc hrest, hrestyle]
        by_cases hends : endsBefore c rest = true
        · rw [if_pos hends]
          refine iff_of_false (joinWords_ne_of_endsBefore hg hends) ?_
          rintro ⟨_, _, hunbroken⟩
          simp [unbroken, hends] at hunbroken
        · have hlonger : (word ++ [c]).isEmpty = false := by simp
          rw [if_neg hends, ih hrest (List.append_ne_nil_of_left_ne_nil (by simp) rest), hlonger]
          simp [tidyFrom, unbroken, hends, ne_underscore hc]
      · rw [plainWords_underscore]
        cases word with
        | nil =>
            -- nothing stands before the underscore, and no word begins with a separator
            refine iff_of_false (fun h => head?_joinWords hf hrest ?_) nofun
            rw [List.isEmpty_nil, if_pos rfl] at h
            rw [h]
            rfl
        | cons w word =>
            rw [List.isEmpty_cons, if_neg Bool.false_ne_true, joinWords_cons_eq_iff,
              List.map_inj_left]
            cases rest with
            | nil =>
                -- nothing stands after the underscore, which vanishes
                simp [plainWords_nil, tidyFrom]
            | cons d next =>
                have hrestyle : restyle separator g '_' = separator := if_pos rfl
                have hnonempty : [] ++ d :: next ≠ [] := List.cons_ne_nil _ _
                have hwords := ih hrest hnonempty
                simp only [List.map_nil, List.nil_append] at hwords
                rw [List.map_cons, hrestyle, if_empty_eq_cons_iff (by simp), hwords,
                  unbroken_underscore]
                simp only [tidyFrom_underscore, List.forall_mem_append, List.forall_mem_cons,
                  hmark, true_and, and_assoc]
                rfl

end Joining

/-! ## Words put together with capitals -/

/-- The name without underscores and with a capital after each of them, and in front
when `capital` holds. -/
def capitalizeAfter (capital : Bool) : List Char → List Char
  | [] => []
  | c :: rest =>
      if c = '_' then capitalizeAfter true rest
      else (if capital then upperOf c else [c]) ++ capitalizeAfter false rest

/-- The name without underscores and with capitals just where words begin, as one does
in front when `start` holds. -/
def capitalizeWords (start : Bool) : List Char → List Char
  | [] => []
  | c :: rest =>
      if c = '_' then capitalizeWords true rest
      else (if start then upperOf c else lowerOf c) ++ capitalizeWords (endsBefore c rest) rest

def lowerFirst : List Char → List Char
  | [] => []
  | c :: rest => lowerOf c ++ rest

/-- Whether the digit `c` is followed by a small letter, or the capital `c` by a capital
which begins no word. -/
def strays (c : Char) : List Char → Bool
  | [] => false
  | d :: next => (c.isDigit && d.isLower) ||
      (c.isUpper && d.isUpper && !next.head?.any Char.isLower)

/-- Whether the capitals of the name, after the first, are those with which words begin. -/
def humped : List Char → Bool
  | [] => true
  | c :: rest => !strays c rest && humped rest

theorem capitalize_concat (hword : ∀ d ∈ word, d.isAlphanum = true) (hc : c.toNat < 128) :
    capitalize (word ++ [c]) =
      capitalize word ++ if word.isEmpty then upperOf c else lowerOf c := by
  cases word with
  | nil => exact List.append_nil _
  | cons d word =>
      have hrest : ∀ e ∈ word ++ [c], e.toNat < 128 := by
        intro e he
        rcases List.mem_append.mp he with he | he
        · exact toNat_lt_of_isAlphanum (hword e (List.mem_cons_of_mem _ he))
        · exact List.mem_singleton.mp he ▸ hc
      rw [List.cons_append, capitalize, capitalize, toLower_ascii hrest,
        toLower_ascii fun e he => hrest e (List.mem_append_left _ he), lowerOf_ascii hc,
        List.map_append, List.append_assoc]
      rfl

theorem flatten_capitalize (hword : ∀ c ∈ word, c.isAlphanum = true)
    (hname : ∀ c ∈ name, IsPlainChar c) :
    ((plainWords word name).map capitalize).flatten =
      capitalize word ++ capitalizeWords word.isEmpty name := by
  induction name generalizing word with
  | nil => cases word <;> rfl
  | cons c rest ih =>
      obtain ⟨hc, hrest⟩ := List.forall_mem_cons.mp hname
      rcases hc with hc | rfl
      · have hconcat := capitalize_concat hword (toNat_lt_of_isAlphanum hc)
        have hlonger : (word ++ [c]).isEmpty = false := by simp
        rw [plainWords_alphanum hc hrest, capitalizeWords, if_neg (ne_underscore hc),
          ← List.append_assoc, ← hconcat]
        split
        · next hends =>
            rw [List.map_cons, List.flatten_cons, ih (List.forall_mem_nil _) hrest, hends]
            rfl
        · next hends =>
            rw [ih (isAlphanum_concat hword hc) hrest, Bool.eq_false_iff.mpr hends, hlonger]
      · rw [plainWords_underscore, capitalizeWords, if_pos rfl]
        cases word with
        | nil => exact ih (List.forall_mem_nil _) hrest
        | cons d word =>
            rw [List.isEmpty_cons, if_neg Bool.false_ne_true, List.map_cons, List.flatten_cons,
              ih (List.forall_mem_nil _) hrest]
            rfl

theorem one_kind {c : Char} (h : IsPlainChar c) :
    (c.isUpper && c.isLower) = false ∧ (c.isUpper && c.isDigit) = false ∧
      (c.isLower && c.isDigit) = false :=
  forall_ascii (p := fun c => (c.isUpper && c.isLower) = false ∧ (c.isUpper && c.isDigit) = false ∧
    (c.isLower && c.isDigit) = false) (by decide) c h.toNat_lt

theorem strays_eq (hc : c.isAlphanum = true) {d : Char} (hd : IsPlainChar d)
    (next : List Char) :
    strays c (d :: next) = if endsBetween c d next.head? then d.isLower else d.isUpper := by
  have hckind := one_kind (.inl hc)
  have hdkind := one_kind hd
  rw [Char.isAlphanum] at hc
  rw [strays, endsBetween]
  rw [isAlpha_eq] at hc ⊢
  rw [isAlpha_eq]
  generalize next.head?.any Char.isLower = n
  generalize c.isUpper = cu, c.isLower = cl, c.isDigit = cd at *
  generalize d.isUpper = du, d.isLower = dl, d.isDigit = dd at *
  decide +revert

theorem strays_eq_false_iff (hc : c.isAlphanum = true) (hrest : ∀ d ∈ rest, IsPlainChar d) :
    strays c rest = false ↔
      ∀ d ∈ rest.head?, (if endsBefore c rest then d.isLower else d.isUpper) = false := by
  cases rest with
  | nil => exact iff_of_true rfl nofun
  | cons d next =>
      rw [strays_eq hc (hrest d List.mem_cons_self)]
      exact ⟨fun h _ hd => Option.some.inj hd ▸ h, fun h => h d rfl⟩

theorem toUpper_eq_self_iff (hc : c.toNat < 128) : c.toUpper = c ↔ c.isLower = false :=
  forall_ascii (p := fun c => c.toUpper = c ↔ c.isLower = false) (by decide) c hc

theorem toLower_eq_self_iff (hc : c.toNat < 128) : c.toLower = c ↔ c.isUpper = false :=
  forall_ascii (p := fun c => c.toLower = c ↔ c.isUpper = false) (by decide) c hc

theorem cased_append_eq_iff {start capital : Bool} (h : capital = true → start = true)
    (hc : c.toNat < 128) (left right : List Char) :
    (if start then upperOf c else lowerOf c) ++ left =
        (if capital then upperOf c else [c]) ++ right ↔
      (capital = true ∨ (if start then c.isLower else c.isUpper) = false) ∧ left = right := by
  rw [upperOf_ascii hc, lowerOf_ascii hc]
  cases capital with
  | true => simp [h rfl]
  | false =>
      cases start with
      | true => simp [toUpper_eq_self_iff hc]
      | false => simp [toLower_eq_self_iff hc]

theorem capitalizeWords_eq_iff {start capital : Bool} (h : capital = true → start = true)
    (hname : ∀ c ∈ name, IsPlainChar c) :
    capitalizeWords start name = capitalizeAfter capital name ↔
      (capital = true ∨ ∀ c ∈ name.head?, (if start then c.isLower else c.isUpper) = false) ∧
        humped name = true := by
  induction name generalizing start capital with
  | nil => simp [capitalizeWords, capitalizeAfter, humped]
  | cons c rest ih =>
      obtain ⟨hc, hrest⟩ := List.forall_mem_cons.mp hname
      rw [capitalizeWords, capitalizeAfter, humped]
      rcases hc with hc | rfl
      · have hinner : false = true → endsBefore c rest = true := by
          intro h
          contradiction
        rw [if_neg (ne_underscore hc), if_neg (ne_underscore hc),
          cased_append_eq_iff h (toNat_lt_of_isAlphanum hc), ih hinner hrest,
          ← strays_eq_false_iff hc hrest]
        simp
      · rw [if_pos rfl, if_pos rfl, ih id hrest]
        cases rest <;> simp [strays]

/-! ## A small letter in front -/

theorem toLower_toUpper (hc : c.toNat < 128) :
    c.toUpper.toNat < 128 ∧ c.toUpper.toLower = c.toLower :=
  forall_ascii (p := fun c => c.toUpper.toNat < 128 ∧ c.toUpper.toLower = c.toLower)
    (by decide) c hc

theorem camelCase_plain (hname : ∀ c ∈ name, IsPlainChar c) :
    camelCase name = lowerFirst (capitalizeWords true name) := by
  have hflatten := flatten_capitalize (List.forall_mem_nil _) hname
  rw [camelCase, words_plain hname]
  cases hwords : plainWords [] name with
  | nil =>
      rw [hwords] at hflatten
      exact congrArg lowerFirst hflatten
  | cons w words =>
      obtain ⟨hw, halphanum⟩ :=
        mem_plainWords (List.forall_mem_nil _) hname (hwords ▸ List.mem_cons_self)
      obtain ⟨c, w, rfl⟩ := List.exists_cons_of_ne_nil hw
      have hascii : ∀ d ∈ c :: w, d.toNat < 128 :=
        fun d hd => toNat_lt_of_isAlphanum (halphanum d hd)
      obtain ⟨hc, hrest⟩ := List.forall_mem_cons.mp hascii
      have hcapitals : capitalizeWords true name =
          c.toUpper :: (w.map Char.toLower ++ (words.map capitalize).flatten) := by
        rw [hwords] at hflatten
        apply hflatten.symm.trans
        rw [List.map_cons, List.flatten_cons, capitalize, upperOf_ascii hc, toLower_ascii hrest]
        rfl
      obtain ⟨hupper, hlower⟩ := toLower_toUpper hc
      rw [hcapitals, lowerFirst, lowerOf_ascii hupper, hlower]
      dsimp only
      rw [toLower_ascii hascii]
      rfl

theorem lowerFirst_eq_iff (hname : ∀ c ∈ name, IsPlainChar c) :
    lowerFirst (capitalizeWords true name) = lowerFirst (capitalizeAfter true name) ↔
      capitalizeWords true name = capitalizeAfter true name := by
  induction name with
  | nil => exact iff_of_true rfl rfl
  | cons c rest ih =>
      obtain ⟨hc, hrest⟩ := List.forall_mem_cons.mp hname
      rw [capitalizeWords, capitalizeAfter]
      rcases hc with hc | rfl
      · rw [if_neg (ne_underscore hc), if_neg (ne_underscore hc), if_pos rfl, if_pos rfl,
          upperOf_ascii (toNat_lt_of_isAlphanum hc)]
        simp [lowerFirst]
      · rw [if_pos rfl, if_pos rfl]
        exact ih hrest

/-! ## The style of the words against the style of the underscores -/

def hyphenated (name : List Char) : List Char := name.map fun c => if c = '_' then '-' else c

def isSmall (name : List Char) : Bool := name.all fun c => !c.isUpper

end Text

namespace RenameRule

open Text

/-- The name by which a record is written under the rule; only underscores are looked at. -/
def written : RenameRule → List Char → List Char
  | .lowercase, name | .snake, name => name
  | .uppercase, name | .upperSnake, name => toUpper name
  | .pascal, name => capitalizeAfter true name
  | .camel, name => lowerFirst (capitalizeAfter true name)
  | .kebab, name => hyphenated name
  | .upperKebab, name => hyphenated (toUpper name)

/-- Whether the words of the name are what stands between its underscores, as far as it
can be seen in a name of this style. -/
def suits : RenameRule → List Char → Bool
  | .lowercase, name => isSmall name
  | .uppercase, _ => true
  | .pascal, name | .camel, name => humped name
  | .snake, name | .kebab, name => isSmall name && tidy name && unbroken name
  | .upperSnake, name | .upperKebab, name => tidy name && unbroken name

variable {name : List Char}

theorem joined_eq_iff {separator : Char} {f g : Char → Char} {style : List Char → List Char}
    (plain : IsPlain name) (hseparator : separator.isAlphanum = false)
    (hstyle : ∀ w, (∀ c ∈ w, c.isAlphanum = true) → style w = w.map f) (hmark : f '_' = g '_')
    (hf : ∀ c, c.isAlphanum = true → (f c).isAlphanum = true)
    (hg : ∀ c, c.isAlphanum = true → (g c).isAlphanum = true) :
    joinWords [separator] ((words name).map style) = name.map (restyle separator g) ↔
      (∀ c ∈ name, f c = g c) ∧ tidy name = true ∧ unbroken name = true := by
  have hwords : (words name).map style = (plainWords [] name).map (List.map f) := by
    rw [words_plain plain.plain]
    apply List.map_congr_left
    intro w hw
    exact hstyle w (mem_plainWords (List.forall_mem_nil _) plain.plain hw).2
  have hne : ∀ {h : Char → Char}, (∀ c, c.isAlphanum = true → (h c).isAlphanum = true) →
      ∀ c, c.isAlphanum = true → h c ≠ separator := by
    rintro h hkeeps c hc rfl
    exact absurd (hkeeps c hc) (Bool.eq_false_iff.mp hseparator)
  rw [hwords]
  exact joinWords_eq_map_iff hmark (hne hf) (hne hg) plain.plain plain.nonempty

theorem map_toLower_eq_iff (plain : IsPlain name) :
    (∀ c ∈ name, c.toLower = id c) ↔ isSmall name = true := by
  rw [isSmall, List.all_eq_true]
  simp only [Bool.not_eq_true', id]
  exact forall₂_congr fun c hc => toLower_eq_self_iff (plain.plain c hc).toNat_lt

theorem small_joined_eq_iff {separator : Char} (plain : IsPlain name)
    (hseparator : separator.isAlphanum = false) :
    joinWords [separator] ((words name).map toLower) = name.map (restyle separator id) ↔
      (isSmall name && tidy name && unbroken name) = true := by
  have hstyle : ∀ w : List Char, (∀ c ∈ w, c.isAlphanum = true) → toLower w = w.map Char.toLower :=
    fun w hw => toLower_ascii fun c hc => toNat_lt_of_isAlphanum (hw c hc)
  have hkeeps : ∀ c : Char, c.isAlphanum = true → c.toLower.isAlphanum = true := fun c hc =>
    forall_ascii (p := fun c => c.isAlphanum = true → c.toLower.isAlphanum = true) (by decide) c
      (toNat_lt_of_isAlphanum hc) hc
  have hmark : Char.toLower '_' = id '_' := rfl
  rw [joined_eq_iff plain hseparator hstyle hmark hkeeps fun _ hc => hc, map_toLower_eq_iff plain,
    Bool.and_eq_true, Bool.and_eq_true, and_assoc]

theorem capital_joined_eq_iff {separator : Char} (plain : IsPlain name)
    (hseparator : separator.isAlphanum = false) :
    joinWords [separator] ((words name).map toUpper) = name.map (restyle separator Char.toUpper) ↔
      (tidy name && unbroken name) = true := by
  have hstyle : ∀ w : List Char, (∀ c ∈ w, c.isAlphanum = true) → toUpper w = w.map Char.toUpper :=
    fun w hw => toUpper_ascii fun c hc => toNat_lt_of_isAlphanum (hw c hc)
  have hkeeps : ∀ c : Char, c.isAlphanum = true → c.toUpper.isAlphanum = true := fun c hc =>
    forall_ascii (p := fun c => c.isAlphanum = true → c.toUpper.isAlphanum = true) (by decide) c
      (toNat_lt_of_isAlphanum hc) hc
  rw [joined_eq_iff plain hseparator hstyle rfl hkeeps hkeeps, Bool.and_eq_true]
  exact and_iff_right fun _ _ => rfl

theorem map_restyle_id (name : List Char) : name.map (restyle '_' id) = name := by
  apply List.map_id''
  intro c
  rw [restyle]
  split
  · next h => exact h.symm
  · rfl

theorem toUpper_eq_map_restyle (plain : IsPlain name) :
    toUpper name = name.map (restyle '_' Char.toUpper) := by
  rw [toUpper_ascii fun c hc => (plain.plain c hc).toNat_lt]
  apply List.map_congr_left
  intro c _
  rw [restyle]
  split
  · next h => rw [h]; rfl
  · rfl

theorem hyphenated_toUpper (plain : IsPlain name) :
    hyphenated (toUpper name) = name.map (restyle '-' Char.toUpper) := by
  have hkeeps : ∀ c : Char, IsPlainChar c → c ≠ '_' → c.toUpper ≠ '_' := fun c hc =>
    forall_ascii (p := fun c => c ≠ '_' → c.toUpper ≠ '_') (by decide) c hc.toNat_lt
  rw [toUpper_eq_map_restyle plain, hyphenated, List.map_map]
  apply List.map_congr_left
  intro c hc
  rw [Function.comp_apply, restyle, restyle]
  by_cases hmark : c = '_'
  · rw [if_pos hmark, if_pos hmark, if_pos rfl]
  · rw [if_neg hmark, if_neg hmark, if_neg (hkeeps c (plain.plain c hc) hmark)]

theorem capitals_eq_iff (plain : IsPlain name) :
    capitalizeWords true name = capitalizeAfter true name ↔ humped name = true := by
  rw [capitalizeWords_eq_iff id plain.plain]
  exact and_iff_right (.inl rfl)

theorem applyTo_eq_written_iff (rule : RenameRule) (plain : IsPlain name) :
    rule.applyTo name = rule.written name ↔ rule.suits name = true := by
  have hunderscore : '_'.isAlphanum = false := by decide
  have hhyphen : '-'.isAlphanum = false := by decide
  cases rule with
  | lowercase =>
      rw [applyTo, written, suits, toLower_ascii fun c hc => (plain.plain c hc).toNat_lt,
        ← map_toLower_eq_iff plain, ← List.map_inj_left, List.map_id]
  | uppercase => exact iff_of_true rfl rfl
  | pascal =>
      rw [applyTo, written, suits, ← capitals_eq_iff plain, pascalCase, words_plain plain.plain,
        flatten_capitalize (List.forall_mem_nil _) plain.plain]
      rfl
  | camel =>
      rw [applyTo, written, suits, ← capitals_eq_iff plain, camelCase_plain plain.plain]
      exact lowerFirst_eq_iff plain.plain
  | snake =>
      rw [applyTo, written, suits, snakeCase, ← small_joined_eq_iff plain hunderscore,
        map_restyle_id]
  | upperSnake =>
      rw [applyTo, written, suits, upperSnakeCase, toUpper_eq_map_restyle plain]
      exact capital_joined_eq_iff plain hunderscore
  | kebab => exact small_joined_eq_iff plain hhyphen
  | upperKebab =>
      rw [applyTo, written, suits, upperKebabCase, hyphenated_toUpper plain]
      exact capital_joined_eq_iff plain hhyphen

example : snake.suits "book_line2".toList = false ∧ camel.suits "book_line2".toList = true := by
  decide

end RenameRule

end TupleStore
