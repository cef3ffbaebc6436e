import Mathlib
import FilterAssist.Binary64.Decimal
import FilterAssist.Proofs.Binary64.Rounding
import FilterAssist.Proofs.Text.LetterCase
import FilterAssist.Proofs.Text.Numerals

set_option autoImplicit false

/-!
Decimal text read back. What is read depends on the value of the digits alone, so the zeros that are put in or
left out in writing do not matter. The shortest decimal was tried before it is written, and all digits of a
number are worth the number itself. So every finite number that rounding leaves as it is comes back, from a text
of digits with at most a sign and a point.
-/
namespace FilterAssist.Binary64

theorem of_quotient_same_ratio (negative : Bool) (a b c d : Nat) (left : 0 < b) (right : 0 < d)
    (same : a * d = c * b) : ofQuotient negative a b = ofQuotient negative c d :=
  calc ofQuotient negative a b = ofQuotient negative (d * a) (d * b) := (of_quotient_scaled negative d a b right).symm
    _ = ofQuotient negative (b * c) (b * d) := by rw [Nat.mul_comm d a, same, Nat.mul_comm c b, Nat.mul_comm d b]
    _ = ofQuotient negative c d := of_quotient_scaled negative b c d left

theorem of_quotient_sign (negative : Bool) (numerator denominator units : Nat)
    (positive : ofQuotient false numerator denominator = .finite false units) :
    ofQuotient negative numerator denominator = .finite negative units := by
  by_cases inside : roundUnits numerator denominator < unitsLimit
  · rw [ofQuotient, if_pos inside] at positive ⊢
    rw [(finite.inj positive).2]
  · rw [ofQuotient, if_neg inside] at positive
    cases positive

theorem of_decimal_quotient (negative : Bool) (digits : Nat) (exponent : Int) :
    ofDecimal negative digits exponent =
      if digits = 0 ∨ (Text.ofNat digits).length + exponent < -330 then .finite negative 0
      else if 310 < (Text.ofNat digits).length + exponent then .infinite negative
      else ofQuotient negative (digits * 10 ^ exponent.toNat * unitsPerOne) (10 ^ (-exponent).toNat) := by
  by_cases whole : 0 ≤ exponent
  · have power : (-exponent).toNat = 0 := by omega
    rw [ofDecimal, if_pos whole, power, Nat.pow_zero, Nat.pow_eq]
  · have power : exponent.toNat = 0 := by omega
    rw [ofDecimal, if_neg whole, power, Nat.pow_zero, Nat.mul_one, Nat.pow_eq]

theorem of_decimal_shifted (negative : Bool) (digits places : Nat) (exponent : Int) :
    ofDecimal negative (digits * 10 ^ places) exponent = ofDecimal negative digits (exponent + places) := by
  by_cases zero : digits = 0
  · simp [of_decimal_quotient, zero]
  · have positive : 0 < digits := Nat.pos_of_ne_zero zero
    have nonzero : digits * 10 ^ places ≠ 0 := (Nat.mul_pos positive (by positivity)).ne'
    have magnitude : ((Text.ofNat (digits * 10 ^ places)).length : Int) + exponent =
        (Text.ofNat digits).length + (exponent + places) := by
      rw [of_nat_length_scaled digits places positive]
      omega
    have powers : 10 ^ places * 10 ^ exponent.toNat * 10 ^ (-(exponent + places)).toNat =
        10 ^ (exponent + places).toNat * 10 ^ (-exponent).toNat := by
      rw [← Nat.pow_add, ← Nat.pow_add, ← Nat.pow_add]
      congr 1
      omega
    have ratio : digits * 10 ^ places * 10 ^ exponent.toNat * unitsPerOne * 10 ^ (-(exponent + places)).toNat =
        digits * 10 ^ (exponent + places).toNat * unitsPerOne * 10 ^ (-exponent).toNat := by
      linear_combination (digits * unitsPerOne) * powers
    simp only [of_decimal_quotient, magnitude, zero, nonzero, false_or]
    rw [of_quotient_same_ratio negative _ _ _ _ (by positivity) (by positivity) ratio]

theorem of_decimal_sign (negative : Bool) (digits units : Nat) (exponent : Int)
    (positive : ofDecimal false digits exponent = .finite false units) :
    ofDecimal negative digits exponent = .finite negative units := by
  rw [of_decimal_quotient] at positive ⊢
  split at positive
  · rename_i tiny
    rw [if_pos tiny, (finite.inj positive).2]
  · rename_i tiny
    rw [if_neg tiny]
    split at positive
    · cases positive
    · rename_i huge
      rw [if_neg huge]
      exact of_quotient_sign negative _ _ units positive

theorem zero_rounded (negative : Bool) : (finite negative 0).Rounded := by
  intro sign units same
  obtain ⟨_, rfl⟩ := finite.inj same
  refine ⟨rfl, ?_⟩
  rw [units_limit]
  positivity

theorem of_decimal_rounded (negative : Bool) (digits : Nat) (exponent : Int) :
    (ofDecimal negative digits exponent).Rounded := by
  rw [of_decimal_quotient]
  split
  · exact zero_rounded negative
  · split
    · intro sign units same
      cases same
    · exact of_quotient_rounded negative _ _

theorem of_decimal_all_digits (units : Nat) (positive : 0 < units) (same : roundUnits units 1 = units)
    (inside : units < unitsLimit) : ofDecimal false (units * Nat.pow 5 1074) (-1074) = .finite false units := by
  obtain ⟨fives, power⟩ : ∃ fives, fives = Nat.pow 5 1074 := ⟨_, rfl⟩
  have least : 10 ^ 743 ≤ fives := by
    rw [power]
    decide +kernel
  have most : unitsLimit * fives < 10 ^ 1384 := by
    rw [power]
    decide +kernel
  have ratio : fives * unitsPerOne = Nat.pow 10 (-(-1074 : Int)).toNat := by
    rw [power]
    decide +kernel
  rw [← power]
  have some : 0 < fives := Nat.lt_of_lt_of_le (by positivity) least
  have nonzero : units * fives ≠ 0 := (Nat.mul_pos positive some).ne'
  have long : ¬ (Text.ofNat (units * fives)).length ≤ 743 := by
    rw [of_nat_length _ 743 (by decide), Nat.not_lt]
    exact Nat.le_trans least (Nat.le_mul_of_pos_left fives positive)
  have short : (Text.ofNat (units * fives)).length ≤ 1384 := by
    rw [of_nat_length _ 1384 (by decide)]
    exact Nat.lt_of_le_of_lt (Nat.mul_le_mul_right fives inside.le) most
  have whole : ofQuotient false units 1 = .finite false units := by
    rw [ofQuotient, same, if_pos inside]
  have low : ¬ (units * fives = 0 ∨ ((Text.ofNat (units * fives)).length : Int) + -1074 < -330) := by omega
  have high : ¬ (310 < ((Text.ofNat (units * fives)).length : Int) + -1074) := by omega
  rw [ofDecimal, if_neg low, if_neg high, if_neg (by decide), ← ratio, ← whole]
  exact of_quotient_same_ratio false _ _ _ _ (Nat.mul_pos some units_per_one_positive) (by decide) (by ring)

theorem shortest_reads_back (units : Nat) (positive : 0 < units) (same : roundUnits units 1 = units)
    (inside : units < unitsLimit) :
    ofDecimal false (shortest units).1 (shortest units).2 = .finite false units := by
  rw [shortest]
  cases found : (List.range 17).findSome? fun count => (neighbours units (count + 1)).find? fun decimal =>
      decide (ofDecimal false decimal.1 decimal.2 = .finite false units) with
  | none =>
      rw [Option.getD_none]
      exact of_decimal_all_digits units positive same inside
  | some decimal =>
      obtain ⟨count, _, hit⟩ := List.exists_of_findSome?_eq_some found
      have reads := List.find?_some hit
      rw [decide_eq_true_eq] at reads
      rw [Option.getD_some, reads]

structure Numeral where
  whole : Text
  fraction : Text
  filled : whole ≠ []
  digits : ∀ c ∈ whole ++ fraction, isDigit c = true

def Numeral.text (numeral : Numeral) : Text :=
  numeral.whole ++ if numeral.fraction = [] then [] else '.' :: numeral.fraction

def Numeral.value (numeral : Numeral) (negative : Bool) : Binary64 :=
  ofDecimal negative (readNat (numeral.whole ++ numeral.fraction)) (-(numeral.fraction.length : Int))

theorem read_numeral (numeral : Numeral) (negative : Bool) :
    readMagnitude negative numeral.text = some (numeral.value negative) := by
  obtain ⟨whole, fraction, filled, digits⟩ := numeral
  have front : ∀ c ∈ whole, isDigit c = true := fun c member => digits c (List.mem_append_left fraction member)
  cases fraction with
  | nil =>
      have taken : whole.takeWhile isDigit = whole := List.takeWhile_eq_self_iff.mpr front
      simp [readMagnitude, Numeral.text, Numeral.value, taken, filled, readExponent]
  | cons c fraction =>
      have back : ∀ d ∈ c :: fraction, isDigit d = true := fun d member => digits d (List.mem_append_right whole member)
      have taken : (whole ++ '.' :: c :: fraction).takeWhile isDigit = whole := by
        rw [List.takeWhile_append_of_pos front]
        simp [isDigit]
      have takenToo : (c :: fraction).takeWhile isDigit = c :: fraction := List.takeWhile_eq_self_iff.mpr back
      simp [readMagnitude, Numeral.text, Numeral.value, taken, takenToo, filled, readExponent]

theorem trailing_zeros (digits : Text) :
    ∃ count, digits = (digits.reverse.dropWhile (· == '0')).reverse ++ List.replicate count '0' := by
  have parts := List.takeWhile_append_dropWhile (p := (· == '0')) (l := digits.reverse)
  have zeros := List.eq_replicate_of_mem (a := '0') (l := digits.reverse.takeWhile (· == '0'))
    fun c member => by simpa using List.mem_takeWhile_imp member
  rw [zeros] at parts
  have turned := congrArg List.reverse parts
  rw [List.reverse_append, List.reverse_replicate, List.reverse_reverse] at turned
  exact ⟨_, turned.symm⟩

theorem zeros_digits (count : Nat) : ∀ c ∈ List.replicate count '0', isDigit c = true := by
  intro c member
  rw [List.eq_of_mem_replicate member]
  rfl

theorem pointed_numeral (padded : Text) (places : Nat) (digits : ∀ c ∈ padded, isDigit c = true)
    (long : places < padded.length) :
    ∃ numeral : Numeral,
      numeral.whole = padded.take (padded.length - places) ∧
      numeral.fraction = ((padded.drop (padded.length - places)).reverse.dropWhile (· == '0')).reverse ∧
      ∀ negative, numeral.value negative = ofDecimal negative (readNat padded) (-places) := by
  obtain ⟨whole, isWhole⟩ : ∃ whole, whole = padded.take (padded.length - places) := ⟨_, rfl⟩
  obtain ⟨count, cut⟩ := trailing_zeros (padded.drop (padded.length - places))
  obtain ⟨fraction, isFraction⟩ : ∃ fraction,
      fraction = ((padded.drop (padded.length - places)).reverse.dropWhile (· == '0')).reverse := ⟨_, rfl⟩
  rw [← isFraction] at cut
  have parts : padded = whole ++ fraction ++ List.replicate count '0' := by
    rw [isWhole, List.append_assoc, ← cut, List.take_append_drop]
  have size : fraction.length + count = places := by
    have length := congrArg List.length cut
    rw [List.length_drop, List.length_append, List.length_replicate] at length
    omega
  have filled : whole ≠ [] := by
    rw [isWhole]
    exact List.ne_nil_of_length_pos (by rw [List.length_take]; omega)
  have inside : ∀ c ∈ whole ++ fraction, isDigit c = true := by
    intro c member
    apply digits
    rw [parts]
    exact List.mem_append_left _ member
  have power : -(places : Int) + count = -(fraction.length : Int) := by omega
  have worth (negative : Bool) : ofDecimal negative (readNat padded) (-places) =
      ofDecimal negative (readNat (whole ++ fraction)) (-(fraction.length : Int)) := by
    rw [parts, read_nat_append, read_nat_zeros, Nat.add_zero, List.length_replicate, of_decimal_shifted, power]
  exact ⟨⟨whole, fraction, filled, inside⟩, isWhole, isFraction, fun negative => (worth negative).symm⟩

theorem positional_numeral (digits : Nat) (exponent : Int) :
    ∃ numeral : Numeral, positional digits exponent = numeral.text ∧
      ∀ negative, numeral.value negative = ofDecimal negative digits exponent := by
  have shown := of_nat_digits digits
  by_cases whole : 0 ≤ exponent
  · have power : -((0 : Nat) : Int) + exponent.toNat = exponent := by omega
    have worth (negative : Bool) :
        ofDecimal negative (readNat (Text.ofNat digits ++ List.replicate exponent.toNat '0' ++ [])) (-((0 : Nat) : Int)) =
          ofDecimal negative digits exponent := by
      rw [List.append_nil, read_nat_append, read_nat_of_nat, read_nat_zeros, List.length_replicate, Nat.add_zero,
        of_decimal_shifted, power]
    refine ⟨⟨Text.ofNat digits ++ List.replicate exponent.toNat '0', [], ?_, ?_⟩, ?_, worth⟩
    · exact List.append_ne_nil_of_left_ne_nil Nat.toDigits_ne_nil _
    · rw [List.append_nil]
      exact List.forall_mem_append.mpr ⟨shown, zeros_digits _⟩
    · simp [positional, Numeral.text, whole]
  · obtain ⟨places, isPlaces⟩ : ∃ places, places = (-exponent).toNat := ⟨_, rfl⟩
    obtain ⟨padded, isPadded⟩ : ∃ padded, padded =
        List.replicate (places + 1 - (Text.ofNat digits).length) '0' ++ Text.ofNat digits := ⟨_, rfl⟩
    have long : places < padded.length := by
      rw [isPadded, List.length_append, List.length_replicate]
      omega
    have allDigits : ∀ c ∈ padded, isDigit c = true := by
      rw [isPadded]
      exact List.forall_mem_append.mpr ⟨zeros_digits _, shown⟩
    have worth : readNat padded = digits := by
      rw [isPadded, read_nat_append, read_nat_zeros, read_nat_of_nat, Nat.zero_mul, Nat.zero_add]
    have power : -(places : Int) = exponent := by omega
    obtain ⟨numeral, isWhole, isFraction, value⟩ := pointed_numeral padded places allDigits long
    rw [worth, power] at value
    refine ⟨numeral, ?_, value⟩
    rw [positional, if_neg whole, Numeral.text, isWhole, isFraction, isPadded, isPlaces]
    dsimp only
    split <;> simp

theorem magnitude_numeral (units : Nat) (same : roundUnits units 1 = units) (inside : units < unitsLimit) :
    ∃ numeral : Numeral,
      (if units = 0 then ['0'] else positional (shortest units).1 (shortest units).2) = numeral.text ∧
      ∀ negative, numeral.value negative = .finite negative units := by
  by_cases zero : units = 0
  · have worth (negative : Bool) : ofDecimal negative (readNat (['0'] ++ [])) (-((0 : Nat) : Int)) =
        .finite negative units := by
      rw [of_decimal_quotient, if_pos (.inl (by decide)), zero]
    exact ⟨⟨['0'], [], by simp, zeros_digits 1⟩, by rw [if_pos zero]; rfl, worth⟩
  · obtain ⟨numeral, text, value⟩ := positional_numeral (shortest units).1 (shortest units).2
    refine ⟨numeral, by rw [if_neg zero, text], fun negative => ?_⟩
    rw [value]
    exact of_decimal_sign negative _ units _ (shortest_reads_back units (Nat.pos_of_ne_zero zero) same inside)

def signed (negative : Bool) (text : Text) : Text :=
  (if negative then ['-'] else []) ++ text

theorem of_text_signed (numeral : Numeral) (negative : Bool) :
    ofText? (signed negative numeral.text) = some (numeral.value negative) := by
  obtain ⟨c, rest, start⟩ := List.exists_cons_of_ne_nil numeral.filled
  have digit : isDigit c = true := numeral.digits c (by simp [start])
  obtain ⟨more, text⟩ : ∃ more, numeral.text = c :: more := ⟨_, by rw [Numeral.text, start, List.cons_append]⟩
  have other (d : Char) (outside : isDigit d = false) : c ≠ d ∧ c.toLower ≠ d := by
    constructor
    · rintro rfl
      rw [outside] at digit
      cases digit
    · rintro rfl
      rw [lower_digit, digit] at outside
      cases outside
  have sign : readSign (signed negative numeral.text) = (negative, numeral.text) := by
    cases negative with
    | true => rfl
    | false =>
        rw [text, signed, if_neg (by decide), List.nil_append, readSign]
        · exact fun later same => (other '-' (by decide)).1 (List.cons.inj same).1
        · exact fun later same => (other '+' (by decide)).1 (List.cons.inj same).1
  have word (letters : Text) (d : Char) (first : letters.head? = some d) (outside : isDigit d = false) :
      numeral.text.asciiLower ≠ letters := by
    rw [text, lower_cons]
    rintro rfl
    exact (other d outside).2 (Option.some.inj first)
  have infinite := word "inf".toList 'i' (by decide) (by decide)
  have infinity := word "infinity".toList 'i' (by decide) (by decide)
  have nan := word "nan".toList 'n' (by decide) (by decide)
  simp only [ofText?, sign]
  rw [if_neg (not_or.mpr ⟨infinite, infinity⟩), if_neg nan, read_numeral]

theorem to_text_signed (number : Binary64) (rounded : number.Rounded) (finite : number.isFinite = true) :
    ∃ (numeral : Numeral) (negative : Bool), number.toText = signed negative numeral.text ∧
      numeral.value negative = number := by
  cases number with
  | nan => cases finite
  | infinite negative => cases finite
  | finite negative units =>
      obtain ⟨same, inside⟩ := rounded negative units rfl
      obtain ⟨numeral, text, value⟩ := magnitude_numeral units same inside
      refine ⟨numeral, negative, ?_, value negative⟩
      rw [← text]
      rfl

theorem to_text_reads_back (number : Binary64) (rounded : number.Rounded) (finite : number.isFinite = true) :
    ofText? number.toText = some number := by
  obtain ⟨numeral, negative, text, value⟩ := to_text_signed number rounded finite
  rw [text, of_text_signed, value]

theorem to_text_characters (number : Binary64) (rounded : number.Rounded) (finite : number.isFinite = true) :
    ∀ c ∈ number.toText, isDigit c = true ∨ c = '.' ∨ c = '-' := by
  obtain ⟨numeral, negative, text, _⟩ := to_text_signed number rounded finite
  intro c member
  rw [text, signed, Numeral.text] at member
  have digits := numeral.digits c
  cases negative <;> by_cases empty : numeral.fraction = [] <;> simp [empty] at member digits <;> tauto

theorem of_text_rounded (text : Text) (number : Binary64) (read : ofText? text = some number) : number.Rounded := by
  rw [ofText?] at read
  split at read
  · cases read
    intro negative units same
    cases same
  · split at read
    · cases read
      intro negative units same
      cases same
    · rw [readMagnitude, Option.ite_none_left_eq_some] at read
      obtain ⟨exponent, _, rfl⟩ := Option.map_eq_some_iff.mp read.2
      exact of_decimal_rounded _ _ _

end FilterAssist.Binary64
