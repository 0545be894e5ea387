import TupleStore.Codec.Time
import TupleStore.Proofs.Cut
import TupleStore.Proofs.Outcomes
import TupleStore.Proofs.Rounding

/-!
# Durations as text

The text of a duration is read as that duration: hours and minutes are whole
numbers, and seconds with up to nine decimals are nearer to their double than half
a nanosecond.
-/

namespace TupleStore

/-! ## Digits -/

namespace Text

theorem ofDigitChars_init (text : List Char) (number : Nat) :
    Nat.ofDigitChars 10 text number =
      number * 10 ^ text.length + Nat.ofDigitChars 10 text 0 := by
  induction text generalizing number with
  | nil => simp
  | cons c text ih =>
      rw [Nat.ofDigitChars_cons, Nat.ofDigitChars_cons, ih, ih (10 * 0 + _), List.length_cons]
      ring

theorem ofDigitChars_zeros (count : Nat) (number : Nat) :
    Nat.ofDigitChars 10 (List.replicate count '0') number = number * 10 ^ count := by
  induction count generalizing number with
  | zero => simp
  | succ count ih =>
      rw [List.replicate_succ, Nat.ofDigitChars_cons, ih, Nat.sub_self]
      ring

end Text

/-! ## Decimal numbers -/

namespace Floating

theorem readDouble?_of_isDigit {whole fraction number : List Char}
    (hwhole : ∀ c ∈ whole, c.isDigit = true) (hfraction : ∀ c ∈ fraction, c.isDigit = true)
    (hne : whole ≠ []) (hsplit : (Text.splitOnce? '.' number).getD (number, []) = (whole, fraction))
    (hhead : number.head? = whole.head?) :
    readDouble? number = some (double.decode (double.round false
      (Nat.ofDigitChars 10 (whole ++ fraction) 0) (10 ^ fraction.length))) := by
  obtain ⟨c, whole, rfl⟩ := List.exists_cons_of_ne_nil hne
  obtain ⟨rest, rfl⟩ : ∃ rest, number = c :: rest := List.head?_eq_some_iff.mp hhead
  have hc := hwhole c List.mem_cons_self
  have hdigits := Text.digits?_of_isDigit
    (fun d hd => (List.mem_append.mp hd).elim (hwhole d) (hfraction d))
    (List.cons_ne_nil c (whole ++ fraction))
  unfold readDouble?
  split
  next heq =>
    split at heq
    next hminus =>
      cases hminus
      contradiction
    next hplus =>
      cases hplus
      contradiction
    next =>
      cases heq
      rw [hsplit]
      dsimp only
      rw [hdigits]
      rfl

end Floating

namespace Duration

variable {duration : Duration}

/-! ## Nanoseconds -/

theorem totalNanos_lt (duration : Duration) :
    duration.totalNanos < 0x10000000000000000 * nanosPerSecond := by
  have hseconds := duration.seconds_lt
  have hnanos := duration.nanos_lt
  rw [nanosPerSecond] at hnanos
  rw [totalNanos, nanosPerSecond]
  omega

theorem exists_ofNanos? {nanos : Nat} (h : nanos < 0x10000000000000000 * nanosPerSecond) :
    ∃ duration, ofNanos? nanos = some duration ∧ duration.totalNanos = nanos := by
  rw [nanosPerSecond] at h
  have hbounds : nanos / nanosPerSecond < 0x10000000000000000 ∧
      nanos % nanosPerSecond < nanosPerSecond := by
    rw [nanosPerSecond]
    omega
  refine ⟨_, dif_pos hbounds, ?_⟩
  rw [totalNanos, Nat.mul_comm]
  exact Nat.div_add_mod nanos nanosPerSecond

theorem totalNanos_injective {l r : Duration} (h : l.totalNanos = r.totalNanos) : l = r := by
  have hl := l.nanos_lt
  have hr := r.nanos_lt
  obtain ⟨lseconds, lnanos, _, _⟩ := l
  obtain ⟨rseconds, rnanos, _, _⟩ := r
  simp only [totalNanos, nanosPerSecond] at h hl hr
  congr 1 <;> omega

theorem exists_add? {l r : Duration} {nanos : Nat} (h : l.totalNanos + r.totalNanos = nanos)
    (hlt : nanos < 0x10000000000000000 * nanosPerSecond) :
    ∃ sum, l.add? r = some sum ∧ sum.totalNanos = nanos := by
  rw [add?, h]
  exact exists_ofNanos? hlt

/-! ## Seconds -/

theorem ofSeconds?_decode {number places nanos : Nat} (hplaces : places ≤ 9)
    (hsmall : number < 60 * 10 ^ places) (hnanos : number * nanosPerSecond = nanos * 10 ^ places) :
    ofSeconds? (Floating.double.decode (Floating.double.round false number (10 ^ places))) =
      ofNanos? nanos := by
  have hden : 0 < 10 ^ places := Nat.pow_pos (by decide)
  have hlarge : 10 ^ places ≤ 10 ^ 9 := Nat.pow_le_pow_right (by decide) hplaces
  rw [nanosPerSecond] at hnanos
  rcases Nat.eq_zero_or_pos number with rfl | hpos
  · have hzero : nanos = 0 := by
      by_contra h
      have := Nat.mul_pos (Nat.pos_of_ne_zero h) hden
      omega
    have hround : Floating.double.round false 0 (10 ^ places) = 0 := by
      rw [Floating.Format.round, Floating.Format.roundMagnitude, if_pos rfl]
      rfl
    rw [hzero, hround]
    decide +kernel
  generalize 10 ^ places = den at *
  have hlog : den.log2 ≤ 900 := by
    have := (Nat.log2_lt (Nat.ne_of_gt hden)).mpr (show den < 2 ^ 30 by omega)
    omega
  obtain ⟨significand, shift, hshift, hdecode, hlow, hhigh⟩ :=
    Floating.decode_round hpos hden (by omega) hlog
  rw [hdecode, ofSeconds?, if_neg (by simp), Floating.Datum.ratio]
  dsimp only
  have hpow : 2 ^ 46 ≤ 2 ^ shift := Nat.pow_le_pow_right (by decide) hshift
  have hzero : (-(shift : Int)).toNat = 0 := Int.toNat_neg_natCast shift
  rw [hzero, Int.neg_neg, Int.toNat_natCast, Nat.pow_eq, Nat.pow_eq, Nat.pow_zero, Nat.mul_one,
    nanosPerSecond]
  generalize 2 ^ shift = unit at *
  -- all are compared as multiples of `den`
  have hexact : number * unit * 1000000000 = nanos * unit * den := by
    rw [Nat.mul_right_comm, hnanos, Nat.mul_right_comm]
  rw [Floating.roundHalfEven_eq]
  · refine Nat.lt_of_mul_lt_mul_right (a := den) ?_
    nlinarith
  · refine Nat.lt_of_mul_lt_mul_right (a := den) ?_
    nlinarith

/-- The decimals are the nine digits of the nanoseconds up to the zeros at their end. -/
theorem fractionText_spec {nanos : Nat} (h : nanos < nanosPerSecond) :
    (∀ c ∈ fractionText nanos, c.isDigit = true) ∧ ∃ zeros,
      (fractionText nanos).length + zeros = 9 ∧
        Nat.ofDigitChars 10 (fractionText nanos) 0 * 10 ^ zeros = nanos := by
  generalize hpadded : List.replicate (9 - (Nat.toDigits 10 nanos).length) '0' ++
    Nat.toDigits 10 nanos = padded
  have hdigits : ∀ c ∈ padded, c.isDigit = true := by
    rw [← hpadded]
    intro c hc
    rcases List.mem_append.mp hc with hc | hc
    · rw [List.eq_of_mem_replicate hc]
      rfl
    · exact Text.isDigit_toDigits nanos c hc
  have hlength : padded.length = 9 := by
    have := (Nat.length_toDigits_le_iff (k := 9) (show 1 < 10 by decide) (by decide)).mpr h
    rw [← hpadded, List.length_append, List.length_replicate]
    omega
  have hvalue : Nat.ofDigitChars 10 padded 0 = nanos := by
    rw [← hpadded, Nat.ofDigitChars_append, Text.ofDigitChars_zeros, Nat.zero_mul,
      Nat.ofDigitChars_ten_toDigits]
  have hfraction : fractionText nanos = (padded.reverse.dropWhile (· = '0')).reverse := by
    rw [← hpadded]
    rfl
  have hzeros : padded.reverse.takeWhile (· = '0') =
      List.replicate (padded.reverse.takeWhile (· = '0')).length '0' :=
    List.eq_replicate_iff.mpr ⟨rfl, fun c hc => by
      simpa using List.all_eq_true.mp List.all_takeWhile c hc⟩
  have hsplit : padded = fractionText nanos ++
      List.replicate (padded.reverse.takeWhile (· = '0')).length '0' := by
    rw [hfraction, ← List.reverse_replicate, ← hzeros, ← List.reverse_append,
      List.takeWhile_append_dropWhile, List.reverse_reverse]
  generalize (padded.reverse.takeWhile (· = '0')).length = zeros at hsplit
  refine ⟨fun c hc => hdigits c ?_, zeros, ?_, ?_⟩
  · rw [hsplit]
    exact List.mem_append_left _ hc
  · rw [← hlength, hsplit, List.length_append, List.length_replicate]
  · rw [hsplit, Nat.ofDigitChars_append, Text.ofDigitChars_zeros] at hvalue
    exact hvalue

/-! ## Parts -/

def IsPart (number : List Char) (unit : Char) (nanos : Nat) : Prop :=
  (∀ c ∈ number, isLetter c = false) ∧ isLetter unit = true ∧
    ∃ part, parsePart number unit = .ok part ∧ part.totalNanos = nanos

theorem isLetter_of_isDigit {c : Char} (h : c.isDigit = true) : isLetter c = false := by
  have hle : c.val.toNat ≤ 57 := by
    simpa [Char.isDigit, UInt32.le_iff_toNat_le] using (Bool.and_eq_true_iff.mp h).2
  have hbelow : ∀ d : Char, 57 < d.val.toNat → ¬ d ≤ c := by
    intro d hd
    rw [Char.le_def, UInt32.le_iff_toNat_le]
    omega
  simp [isLetter, hbelow 'A' (by decide), hbelow 'a' (by decide)]

theorem parsePart_seconds {number : List Char} {count places seconds nanos : Nat}
    (hread : Floating.readDouble? number =
      some (Floating.double.decode (Floating.double.round false count (10 ^ places))))
    (hplaces : places ≤ 9) (hseconds : seconds < 60) (hnanos : nanos < nanosPerSecond)
    (hcount : count * nanosPerSecond = (seconds * nanosPerSecond + nanos) * 10 ^ places) :
    ∃ part, parsePart number 'S' = .ok part ∧
      part.totalNanos = seconds * nanosPerSecond + nanos := by
  have hsmall : count < 60 * 10 ^ places := by
    have : seconds * nanosPerSecond + nanos < 60 * nanosPerSecond := by
      rw [nanosPerSecond] at hnanos ⊢
      omega
    refine Nat.lt_of_mul_lt_mul_right (a := nanosPerSecond) ?_
    rw [hcount, Nat.mul_right_comm]
    exact Nat.mul_lt_mul_of_pos_right this (Nat.pow_pos (by decide))
  have hlt : seconds * nanosPerSecond + nanos < 0x10000000000000000 * nanosPerSecond := by
    rw [nanosPerSecond] at hnanos ⊢
    omega
  obtain ⟨part, hpart, htotal⟩ := exists_ofNanos? hlt
  refine ⟨part, ?_, htotal⟩
  have hbind : (Floating.readDouble? number).bind ofSeconds? = some part := by
    rw [hread, Option.bind_some, ofSeconds?_decode hplaces hsmall hcount, hpart]
  rw [parsePart, hbind]

theorem isLetter_of_number {number : List Char} (h : ∀ c ∈ number, c.isDigit = true ∨ c = '.') :
    ∀ c ∈ number, isLetter c = false := by
  intro c hc
  rcases h c hc with h | rfl
  · exact isLetter_of_isDigit h
  · rfl

theorem not_mem_toDigits (number : Nat) : '.' ∉ Nat.toDigits 10 number := by
  intro h
  have := Text.isDigit_toDigits number '.' h
  contradiction

theorem isPart_decimal {seconds nanos : Nat} (hseconds : seconds < 60)
    (hnanos : nanos < nanosPerSecond) :
    IsPart (Nat.toDigits 10 seconds ++ '.' :: fractionText nanos) 'S'
      (seconds * nanosPerSecond + nanos) := by
  obtain ⟨hdigits, zeros, hlength, hvalue⟩ := fractionText_spec hnanos
  have hwhole := Text.isDigit_toDigits seconds
  refine ⟨isLetter_of_number fun c hc => ?_, rfl, ?_⟩
  · rcases List.mem_append.mp hc with hc | hc
    · exact .inl (hwhole c hc)
    · rcases List.mem_cons.mp hc with rfl | hc
      · exact .inr rfl
      · exact .inl (hdigits c hc)
  generalize fractionText nanos = fraction at *
  have hsplit : (Text.splitOnce? '.' (Nat.toDigits 10 seconds ++ '.' :: fraction)).getD
      (Nat.toDigits 10 seconds ++ '.' :: fraction, []) = (Nat.toDigits 10 seconds, fraction) := by
    rw [Text.splitOnce?_append (not_mem_toDigits seconds), Option.getD_some]
  have hread := Floating.readDouble?_of_isDigit hwhole hdigits Nat.toDigits_ne_nil hsplit
    (by rw [List.head?_append, Option.or_of_isSome (by simp [Nat.toDigits_ne_nil])])
  refine parsePart_seconds hread (by omega) hseconds hnanos ?_
  have hnine : nanosPerSecond = 10 ^ fraction.length * 10 ^ zeros := by
    rw [← Nat.pow_add, hlength]
    rfl
  rw [Nat.ofDigitChars_append, Nat.ofDigitChars_ten_toDigits, Text.ofDigitChars_init, ← hvalue,
    hnine]
  ring

theorem isPart_whole {seconds : Nat} (hseconds : seconds < 60) :
    IsPart (Nat.toDigits 10 seconds) 'S' (seconds * nanosPerSecond + 0) := by
  have hwhole := Text.isDigit_toDigits seconds
  refine ⟨isLetter_of_number fun c hc => .inl (hwhole c hc), rfl, ?_⟩
  have hsplit : (Text.splitOnce? '.' (Nat.toDigits 10 seconds)).getD
      (Nat.toDigits 10 seconds, []) = (Nat.toDigits 10 seconds, []) := by
    rw [Text.splitOnce?_eq_none (not_mem_toDigits seconds), Option.getD_none]
  have hread := Floating.readDouble?_of_isDigit hwhole (List.forall_mem_nil _)
    Nat.toDigits_ne_nil hsplit rfl
  refine parsePart_seconds hread (Nat.zero_le _) hseconds (by decide) ?_
  rw [List.append_nil, Nat.ofDigitChars_ten_toDigits, List.length_nil, Nat.pow_zero, Nat.mul_one,
    Nat.add_zero]

theorem unsigned?_toDigits {number bound : Nat} (h : number < bound) :
    Text.unsigned? bound (Nat.toDigits 10 number) = some number := by
  have hdigits := Text.digits?_toDigits number
  unfold Text.unsigned?
  split
  next rest hplus =>
    have := Text.isDigit_toDigits number '+' (hplus ▸ List.mem_cons_self)
    contradiction
  next =>
    rw [hdigits]
    exact if_pos h

theorem isPart_unit {number unit : Nat} {letter : Char}
    (hunit : letter = 'H' ∧ unit = 3600 ∨ letter = 'M' ∧ unit = 60)
    (h : number * unit < 0x10000000000000000) :
    IsPart (Nat.toDigits 10 number) letter (number * unit * nanosPerSecond) := by
  refine ⟨isLetter_of_number fun c hc => .inl (Text.isDigit_toDigits number c hc), ?_, ?_⟩
  · rcases hunit with ⟨rfl, _⟩ | ⟨rfl, _⟩ <;> rfl
  have hnumber : number < 0x10000000000000000 := by
    rcases hunit with ⟨_, rfl⟩ | ⟨_, rfl⟩ <;> omega
  have hread := unsigned?_toDigits hnumber
  have hpart : of? (number * unit) 0 = some ⟨number * unit, 0, h, by decide⟩ :=
    dif_pos ⟨h, by decide⟩
  refine ⟨⟨number * unit, 0, h, by decide⟩, ?_, Nat.add_zero _⟩
  rcases hunit with ⟨rfl, rfl⟩ | ⟨rfl, rfl⟩ <;>
  · rw [parsePart]
    dsimp only
    rw [hread]
    dsimp only
    rw [hpart]
    rfl

/-! ## Texts -/

theorem parseParts_letters {total : Duration} {front number rest : List Char}
    (h : ∀ c ∈ number, isLetter c = false) :
    parseParts total front (number ++ rest) = parseParts total (number.reverse ++ front) rest := by
  induction number generalizing front with
  | nil => rfl
  | cons c number ih =>
      obtain ⟨hc, hnumber⟩ := List.forall_mem_cons.mp h
      rw [List.cons_append, parseParts, hc, if_neg Bool.false_ne_true, ih hnumber,
        List.reverse_cons, List.append_assoc]
      rfl

theorem addPart_ok {total part sum : Duration} (h : total.add? part = some sum) :
    addPart total part = .ok sum := by
  rw [addPart, h]
  rfl

theorem parseParts_part (total : Duration) (rest : List Char) {number : List Char} {unit : Char}
    {nanos : Nat} (part : IsPart number unit nanos)
    (hlt : total.totalNanos + nanos < 0x10000000000000000 * nanosPerSecond) :
    ∃ sum, sum.totalNanos = total.totalNanos + nanos ∧
      parseParts total [] (number ++ unit :: rest) = parseParts sum [] rest := by
  obtain ⟨hnumber, hunit, duration, hpart, rfl⟩ := part
  obtain ⟨sum, hsum, htotal⟩ := exists_add? (l := total) (r := duration) rfl hlt
  refine ⟨sum, htotal, ?_⟩
  rw [parseParts_letters hnumber, parseParts, if_pos hunit, List.append_nil, List.reverse_reverse,
    hpart, ok_bind, addPart_ok hsum, ok_bind]

theorem parseParts_optional (total : Duration) (rest : List Char) {number nanos : Nat}
    {unit : Char} (part : IsPart (Nat.toDigits 10 number) unit nanos)
    (hzero : number = 0 → nanos = 0)
    (hlt : total.totalNanos + nanos < 0x10000000000000000 * nanosPerSecond) :
    ∃ sum, sum.totalNanos = total.totalNanos + nanos ∧
      parseParts total [] ((if number = 0 then [] else Nat.toDigits 10 number ++ [unit]) ++ rest) =
        parseParts sum [] rest := by
  split
  next h =>
    rw [hzero h]
    exact ⟨total, (Nat.add_zero _).symm, rfl⟩
  next =>
    rw [List.append_assoc]
    exact parseParts_part total rest part hlt

theorem parse_ne_nil {text : List Char} (h : text ≠ []) :
    parse ('P' :: 'T' :: text) = parseParts zero [] text := by
  obtain ⟨c, rest, rfl⟩ := List.exists_cons_of_ne_nil h
  rfl

theorem parseParts_format {front back : List Char} {hours minutes nanos : Nat}
    (hhours : IsPart (Nat.toDigits 10 hours) 'H' (hours * 3600 * nanosPerSecond))
    (hminutes : IsPart (Nat.toDigits 10 minutes) 'M' (minutes * 60 * nanosPerSecond))
    (hfront : front = (if hours = 0 then [] else Nat.toDigits 10 hours ++ ['H']) ++
      if minutes = 0 then [] else Nat.toDigits 10 minutes ++ ['M'])
    (hback : (∃ number, back = number ++ ['S'] ∧ IsPart number 'S' nanos) ∨ back = [] ∧ nanos = 0)
    (htotal : duration.totalNanos =
      hours * 3600 * nanosPerSecond + minutes * 60 * nanosPerSecond + nanos) :
    parseParts zero [] (front ++ back) = .ok duration := by
  have hbound := duration.totalNanos_lt
  have hzeroHours : hours = 0 → hours * 3600 * nanosPerSecond = 0 := by
    rintro rfl
    rfl
  have hzeroMinutes : minutes = 0 → minutes * 60 * nanosPerSecond = 0 := by
    rintro rfl
    rfl
  have hzero : zero.totalNanos = 0 := rfl
  generalize hours * 3600 * nanosPerSecond = first, minutes * 60 * nanosPerSecond = second at *
  obtain ⟨l, hl, hparse⟩ := parseParts_optional zero
    ((if minutes = 0 then [] else Nat.toDigits 10 minutes ++ ['M']) ++ back) hhours hzeroHours
    (by omega)
  obtain ⟨m, hm, hparse'⟩ := parseParts_optional l back hminutes
    hzeroMinutes (by omega)
  rw [hfront, List.append_assoc, hparse, hparse']
  rcases hback with ⟨number, rfl, hpart⟩ | ⟨rfl, rfl⟩
  · obtain ⟨r, hr, hparse⟩ := parseParts_part m [] hpart (by omega)
    rw [hparse]
    exact congrArg Except.ok (totalNanos_injective (by omega))
  · exact congrArg Except.ok (totalNanos_injective (by omega))

theorem parse_format (duration : Duration) : parse duration.format = .ok duration := by
  have hseconds := duration.seconds_lt
  have hlast : duration.seconds % 60 < 60 := Nat.mod_lt _ (by decide)
  have hsplit : duration.seconds = duration.seconds / 3600 * 3600 +
      duration.seconds / 60 % 60 * 60 + duration.seconds % 60 := by omega
  have htotal : duration.totalNanos = duration.seconds / 3600 * 3600 * nanosPerSecond +
      duration.seconds / 60 % 60 * 60 * nanosPerSecond +
      (duration.seconds % 60 * nanosPerSecond + duration.nanos) := by
    rw [totalNanos, ← Nat.add_assoc, ← Nat.add_mul, ← Nat.add_mul, ← hsplit]
  rw [format]
  dsimp only
  generalize duration.seconds / 3600 = hours, duration.seconds / 60 % 60 = minutes,
    duration.seconds % 60 = seconds at *
  have hhours : IsPart (Nat.toDigits 10 hours) 'H' (hours * 3600 * nanosPerSecond) :=
    isPart_unit (.inl ⟨rfl, rfl⟩) (by omega)
  have hminutes : IsPart (Nat.toDigits 10 minutes) 'M' (minutes * 60 * nanosPerSecond) :=
    isPart_unit (.inr ⟨rfl, rfl⟩) (by omega)
  generalize hfront : (if hours = 0 then [] else Nat.toDigits 10 hours ++ ['H']) ++
    (if minutes = 0 then [] else Nat.toDigits 10 minutes ++ ['M']) = front
  have hpart : ∀ {back : List Char}, (∃ number, back = number ++ ['S'] ∧
      IsPart number 'S' (seconds * nanosPerSecond + duration.nanos)) →
      parse ('P' :: 'T' :: front ++ back) = .ok duration := by
    rintro back ⟨number, rfl, hpart⟩
    rw [List.cons_append, List.cons_append, parse_ne_nil (by simp)]
    exact parseParts_format hhours hminutes hfront.symm (.inl ⟨number, rfl, hpart⟩) htotal
  split
  next => exact hpart ⟨_, rfl, isPart_decimal hlast duration.nanos_lt⟩
  next hnanos =>
    have hnanos := Decidable.not_not.mp hnanos
    split
    next =>
      refine hpart ⟨_, rfl, ?_⟩
      rw [hnanos]
      exact isPart_whole hlast
    next hempty =>
      obtain ⟨hzero, hne⟩ := not_or.mp hempty
      obtain rfl := Decidable.not_not.mp hzero
      rw [List.append_nil, parse_ne_nil hne, ← List.append_nil front]
      refine parseParts_format hhours hminutes hfront.symm (.inr ⟨rfl, ?_⟩) htotal
      rw [hnanos]
      rfl

end Duration

/-! ## Stored durations -/

theorem Codec.text_read (text : String) : Codec.text.read (.text text) = .ok text := by
  simp only [Codec.text, Value.text, Bytes.text?_ofString]

theorem Codec.durationText_read (duration : Duration) :
    durationText.read (durationText.write duration) = .ok duration := by
  change (do
    let text ← text.read (.text (String.ofList duration.format))
    _) = _
  rw [text_read, ok_bind, String.toList_ofList, Duration.parse_format]
  rfl

end TupleStore
