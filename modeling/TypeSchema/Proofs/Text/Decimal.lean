import Mathlib.Algebra.Order.Field.Power
import Mathlib.Tactic.FieldSimp
import Mathlib.Tactic.NormNum
import Mathlib.Tactic.Positivity
import Mathlib.Tactic.Ring
import TypeSchema.Text.Numeral

/-!
Decimal numerals: how they are written, and which number they stand for. The main statements are that
reading takes exactly these, and that a numeral is finite exactly when its number stays under the bound.
-/

namespace TypeSchema.Text

/-- The sign that a numeral may start with. -/
inductive Sign where
  | absent
  | plus
  | minus
deriving DecidableEq

namespace Sign

def text : Sign → List Char
  | absent => []
  | plus => ['+']
  | minus => ['-']

def factor : Sign → Int
  | minus => -1
  | _ => 1

theorem abs_factor (sign : Sign) : |(sign.factor : ℚ)| = 1 := by
  cases sign <;> norm_num [factor]

end Sign

/-- The exponent that a numeral may end with. -/
structure Exponent where
  mark : Char
  sign : Sign
  digits : List Char
  marks : mark = 'e' ∨ mark = 'E'
  nonempty : digits ≠ []
  decimal : ∀ c ∈ digits, c.isDigit = true

namespace Exponent

def text (exponent : Exponent) : List Char :=
  exponent.mark :: (exponent.sign.text ++ exponent.digits)

def value (exponent : Exponent) : Int :=
  exponent.sign.factor * Nat.ofDigitChars 10 exponent.digits 0

end Exponent

/-- A decimal numeral: an optional sign, digits with an optional point among or beside them, and an
optional exponent. -/
structure Numeral where
  sign : Sign
  whole : List Char
  /-- The digits after the point, if there is a point. -/
  fraction : Option (List Char)
  exponent : Option Exponent
  wholeDecimal : ∀ c ∈ whole, c.isDigit = true
  fractionDecimal : ∀ c ∈ fraction.getD [], c.isDigit = true
  someDigit : whole ≠ [] ∨ fraction.getD [] ≠ []

namespace Numeral

def decimals (numeral : Numeral) : List Char :=
  numeral.fraction.getD []

/-- What follows the sign. -/
def unsigned (numeral : Numeral) : List Char :=
  numeral.whole ++ (numeral.fraction.elim [] ('.' :: ·) ++ numeral.exponent.elim [] Exponent.text)

def text (numeral : Numeral) : List Char :=
  numeral.sign.text ++ numeral.unsigned

def scale (numeral : Numeral) : Int :=
  numeral.exponent.elim 0 Exponent.value

/-- The number that a numeral stands for. -/
def value (numeral : Numeral) : ℚ :=
  numeral.sign.factor *
    ((Nat.ofDigitChars 10 numeral.whole 0 +
      Nat.ofDigitChars 10 numeral.decimals 0 / 10 ^ numeral.decimals.length) * 10 ^ numeral.scale)

def parts (numeral : Numeral) : Decimal where
  negative := numeral.sign = .minus
  whole := numeral.whole
  fraction := numeral.decimals
  exponent := numeral.scale

end Numeral

/-! The number of a numeral that was read. -/

theorem decimalValue_eq (digits : List Char) :
    decimalValue digits = Nat.ofDigitChars 10 digits 0 := by
  have continued (value : Nat) : decimalFrom value digits = Nat.ofDigitChars 10 digits value := by
    induction digits generalizing value with
    | nil => rfl
    | cons c rest induction => exact induction (10 * value + digitValue c)
  exact continued 0

namespace Decimal

def size (d : Decimal) : ℚ :=
  d.significand * 10 ^ d.scale

theorem size_nonneg (d : Decimal) : 0 ≤ d.size := by
  unfold size
  positivity

theorem overflowBound_gt : 10 ^ 308 < overflowBound := by
  decide +kernel

theorem overflowBound_lt : overflowBound < 10 ^ 310 := by
  decide +kernel

theorem digits_bounds {n : Nat} (positive : n ≠ 0) :
    n < 10 ^ (Nat.toDigits 10 n).length ∧ 10 ^ ((Nat.toDigits 10 n).length - 1) ≤ n := by
  have some : 0 < (Nat.toDigits 10 n).length := Nat.length_toDigits_pos
  refine ⟨(Nat.length_toDigits_le_iff (by decide) some).mp le_rfl, ?_⟩
  by_cases single : (Nat.toDigits 10 n).length = 1
  · rw [single]
    exact Nat.one_le_iff_ne_zero.mpr positive
  · have fewer : ¬(Nat.toDigits 10 n).length ≤ (Nat.toDigits 10 n).length - 1 := by omega
    rw [Nat.length_toDigits_le_iff (by decide) (by omega)] at fewer
    exact Nat.le_of_not_lt fewer

section

variable {d : Decimal} (positive : d.significand ≠ 0)

include positive

theorem size_lt_pow :
    d.size < 10 ^ ((Nat.toDigits 10 d.significand).length + d.scale : Int) := by
  have below : (d.significand : ℚ) < 10 ^ (Nat.toDigits 10 d.significand).length := by
    exact_mod_cast (digits_bounds positive).1
  rw [size, zpow_add₀ (by norm_num), zpow_natCast]
  exact mul_lt_mul_of_pos_right below (by positivity)

theorem pow_le_size :
    10 ^ ((Nat.toDigits 10 d.significand).length - 1 + d.scale : Int) ≤ d.size := by
  have some : 1 ≤ (Nat.toDigits 10 d.significand).length := Nat.length_toDigits_pos
  have above : (10 : ℚ) ^ ((Nat.toDigits 10 d.significand).length - 1) ≤ d.significand := by
    exact_mod_cast (digits_bounds positive).2
  have exponent : ((Nat.toDigits 10 d.significand).length - 1 : Int) =
      ((Nat.toDigits 10 d.significand).length - 1 : Nat) := by omega
  rw [size, zpow_add₀ (by norm_num), exponent, zpow_natCast]
  exact mul_le_mul_of_nonneg_right above (by positivity)

end

/-- A numeral is finite exactly if the size of its number stays under the bound. -/
theorem isFinite_iff (d : Decimal) : d.isFinite = true ↔ d.size < overflowBound := by
  have ten : (1 : ℚ) ≤ 10 := by norm_num
  have least : (10 : ℚ) ^ (308 : Int) < overflowBound := by
    exact_mod_cast overflowBound_gt
  have most : (overflowBound : ℚ) < 10 ^ (310 : Int) := by
    exact_mod_cast overflowBound_lt
  simp only [isFinite]
  split
  next zero =>
    have empty : d.size = 0 := by rw [size, zero, Nat.cast_zero, zero_mul]
    rw [empty]
    exact iff_of_true rfl (lt_trans (by positivity) least)
  next positive =>
    -- a power of ten on either side of the bound settles most numerals
    split
    next few =>
      have power := zpow_le_zpow_right₀ ten few
      exact iff_of_true rfl ((size_lt_pow positive).trans_le (power.trans least.le))
    next =>
      split
      next many =>
        have power := zpow_le_zpow_right₀ ten (Int.le_sub_one_of_lt many)
        rw [add_sub_right_comm] at power
        have above := most.le.trans (power.trans (pow_le_size positive))
        exact iff_of_false Bool.false_ne_true (not_lt.mpr above)
      next =>
        -- for the others, both sides times the power of ten that makes them whole
        split
        next notNegative =>
          obtain ⟨k, scaled⟩ := Int.eq_ofNat_of_zero_le notNegative
          rw [decide_eq_true_iff, size, scaled, zpow_natCast, Int.toNat_natCast]
          exact_mod_cast Iff.rfl
        next negative =>
          have notPositive : 0 ≤ -d.scale := by omega
          obtain ⟨k, scaled⟩ := Int.eq_ofNat_of_zero_le notPositive
          have inverse : d.scale = -(k : Int) := by omega
          rw [decide_eq_true_iff, size, scaled, inverse, zpow_neg, zpow_natCast,
            Int.toNat_natCast, ← div_eq_mul_inv, div_lt_iff₀ (by positivity)]
          exact_mod_cast Iff.rfl

end Decimal

/-! Reading what is written. -/

def readFraction : List Char → List Char × List Char
  | '.' :: rest => readDigits rest
  | rest => ([], rest)

theorem readDecimal_eq (text : List Char) :
    readDecimal? text =
      let whole := readDigits (readSign text).2
      let fraction := readFraction whole.2
      if whole.1.isEmpty && fraction.1.isEmpty then none
      else (readExponent? fraction.2).map fun exponent =>
        ⟨(readSign text).1, whole.1, fraction.1, exponent⟩ :=
  rfl

theorem readSign_text (sign : Sign) {rest : List Char}
    (unsigned : ∀ c ∈ rest.head?, c ≠ '-' ∧ c ≠ '+') :
    readSign (sign.text ++ rest) = (decide (sign = .minus), rest) := by
  cases sign with
  | plus => rfl
  | minus => rfl
  | absent =>
      cases rest with
      | nil => rfl
      | cons c rest =>
          obtain ⟨notMinus, notPlus⟩ := unsigned c rfl
          rw [Sign.text, List.nil_append, readSign]
          · rfl
          · rintro _ ⟨⟩
            exact notMinus rfl
          · rintro _ ⟨⟩
            exact notPlus rfl

theorem readDigits_append {digits rest : List Char} (decimal : ∀ c ∈ digits, c.isDigit = true)
    (ends : ∀ c ∈ rest.head?, c.isDigit = false) : readDigits (digits ++ rest) = (digits, rest) := by
  have stop : rest.takeWhile Char.isDigit = [] ∧ rest.dropWhile Char.isDigit = rest := by
    cases rest with
    | nil => exact ⟨rfl, rfl⟩
    | cons c rest =>
        have notDigit := Bool.eq_false_iff.mp (ends c rfl)
        exact ⟨List.takeWhile_cons_of_neg notDigit, List.dropWhile_cons_of_neg notDigit⟩
  rw [readDigits, List.takeWhile_append_of_pos decimal, List.dropWhile_append_of_pos decimal,
    stop.1, stop.2, List.append_nil]

theorem isDigit_ne {c : Char} (digit : c.isDigit = true) : c ≠ '-' ∧ c ≠ '+' ∧ c ≠ '.' := by
  refine ⟨?_, ?_, ?_⟩ <;> rintro rfl <;> cases digit

theorem Exponent.head_isDigit (exponent : Option Exponent) :
    ∀ c ∈ (exponent.elim [] text).head?, c.isDigit = false := by
  obtain _ | ⟨mark, _, _, marks, -, -⟩ := exponent
  · rintro c ⟨⟩
  · rintro c ⟨⟩
    rcases marks with rfl | rfl <;> rfl

theorem Exponent.readExponent_text (exponent : Option Exponent) :
    readExponent? (exponent.elim [] text) = some (exponent.elim 0 value) := by
  obtain _ | ⟨mark, sign, digits, marks, nonempty, decimal⟩ := exponent
  · rfl
  · have unsigned : ∀ c ∈ digits.head?, c ≠ '-' ∧ c ≠ '+' := fun c first =>
      ⟨(isDigit_ne (decimal c (List.mem_of_mem_head? first))).1,
        (isDigit_ne (decimal c (List.mem_of_mem_head? first))).2.1⟩
    have whole : readDigits digits = (digits, []) := by
      have read : readDigits (digits ++ []) = (digits, []) :=
        readDigits_append decimal (by rintro c ⟨⟩)
      rwa [List.append_nil] at read
    have filled : digits.isEmpty = false := List.isEmpty_eq_false_iff.mpr nonempty
    simp only [Option.elim_some, text, value, readExponent?, if_pos marks, readSign_text sign unsigned,
      whole, filled, decimalValue_eq]
    cases sign <;> simp [Sign.factor]

namespace Numeral

theorem unsigned_head (numeral : Numeral) : ∀ c ∈ numeral.unsigned.head?, c ≠ '-' ∧ c ≠ '+' := by
  obtain ⟨sign, whole, fraction, exponent, wholeDecimal, fractionDecimal, someDigit⟩ := numeral
  cases whole with
  | cons d whole =>
      rintro c ⟨⟩
      have distinct := isDigit_ne (wholeDecimal d List.mem_cons_self)
      exact ⟨distinct.1, distinct.2.1⟩
  | nil =>
      cases fraction with
      | some digits =>
          rintro c ⟨⟩
          exact ⟨by decide, by decide⟩
      | none => exact (someDigit.elim (absurd rfl) (absurd rfl))

/-- Reading the digits of a numeral, those after the point for itself. -/
theorem readDigits_unsigned (numeral : Numeral) :
    readDigits numeral.unsigned = (numeral.whole,
      numeral.fraction.elim [] ('.' :: ·) ++ numeral.exponent.elim [] Exponent.text) := by
  obtain ⟨sign, whole, fraction, exponent, wholeDecimal, fractionDecimal, someDigit⟩ := numeral
  refine readDigits_append wholeDecimal ?_
  cases fraction with
  | some digits =>
      rintro c ⟨⟩
      rfl
  | none => exact Exponent.head_isDigit exponent

theorem readFraction_text (numeral : Numeral) :
    readFraction (numeral.fraction.elim [] ('.' :: ·) ++ numeral.exponent.elim [] Exponent.text) =
      (numeral.decimals, numeral.exponent.elim [] Exponent.text) := by
  obtain ⟨sign, whole, fraction, exponent, wholeDecimal, fractionDecimal, someDigit⟩ := numeral
  cases fraction with
  | some decimals => exact readDigits_append fractionDecimal (Exponent.head_isDigit exponent)
  | none =>
      obtain _ | ⟨mark, _, _, marks, -, -⟩ := exponent
      · rfl
      · rcases marks with rfl | rfl <;> rfl

theorem readDecimal_text (numeral : Numeral) :
    readDecimal? numeral.text = some numeral.parts := by
  have filled : (numeral.whole.isEmpty && numeral.decimals.isEmpty) = false := by
    simpa [List.isEmpty_iff, decimals, imp_iff_not_or] using numeral.someDigit
  simp only [readDecimal_eq, text, readSign_text numeral.sign numeral.unsigned_head,
    readDigits_unsigned, readFraction_text, filled, Bool.false_eq_true, if_false,
    Exponent.readExponent_text]
  rfl

end Numeral

/-! Writing what was read. -/

theorem exists_sign (text : List Char) :
    ∃ sign : Sign, sign.text ++ (readSign text).2 = text ∧
      (readSign text).1 = decide (sign = .minus) := by
  unfold readSign
  split
  · exact ⟨.minus, rfl, rfl⟩
  · exact ⟨.plus, rfl, rfl⟩
  · exact ⟨.absent, rfl, rfl⟩

theorem readDigits_split (text : List Char) :
    (readDigits text).1 ++ (readDigits text).2 = text ∧
      ∀ c ∈ (readDigits text).1, c.isDigit = true :=
  ⟨List.takeWhile_append_dropWhile, List.all_eq_true.mp List.all_takeWhile⟩

theorem exists_fraction (text : List Char) :
    ∃ fraction : Option (List Char),
      fraction.elim [] ('.' :: ·) ++ (readFraction text).2 = text ∧
      fraction.getD [] = (readFraction text).1 ∧ ∀ c ∈ fraction.getD [], c.isDigit = true := by
  unfold readFraction
  split
  next rest =>
    obtain ⟨split, decimal⟩ := readDigits_split rest
    exact ⟨some (readDigits rest).1, congrArg ('.' :: ·) split, rfl, decimal⟩
  next => exact ⟨none, rfl, rfl, List.forall_mem_nil _⟩

theorem readExponent_cons {mark : Char} (marks : mark = 'e' ∨ mark = 'E') (rest : List Char) :
    readExponent? (mark :: rest) =
      let digits := readDigits (readSign rest).2
      if digits.1.isEmpty || !digits.2.isEmpty then none
      else some (if (readSign rest).1 then -(decimalValue digits.1 : Int) else decimalValue digits.1) :=
  if_pos marks

theorem exists_exponent {text : List Char} {scale : Int} (read : readExponent? text = some scale) :
    ∃ exponent : Option Exponent, exponent.elim [] Exponent.text = text ∧
      exponent.elim 0 Exponent.value = scale := by
  cases text with
  | nil =>
      cases read
      exact ⟨none, rfl, rfl⟩
  | cons mark rest =>
    by_cases marks : mark = 'e' ∨ mark = 'E'
    · obtain ⟨sign, signed, negative⟩ := exists_sign rest
      obtain ⟨split, decimal⟩ := readDigits_split (readSign rest).2
      rw [readExponent_cons marks] at read
      obtain ⟨complete, value⟩ := Option.ite_none_left_eq_some.mp read
      simp only [Bool.or_eq_true, not_or, Bool.not_eq_true', Bool.not_eq_false] at complete
      obtain ⟨filled, ended⟩ := complete
      rw [List.isEmpty_iff.mp ended, List.append_nil] at split
      refine ⟨some ⟨mark, sign, _, marks, mt List.isEmpty_iff.mpr filled, decimal⟩, ?_, ?_⟩
      · simp only [Option.elim_some, Exponent.text, split, signed]
      · rw [← Option.some.inj value, negative, decimalValue_eq]
        cases sign <;> simp [Exponent.value, Sign.factor]
    · cases (if_neg marks).symm.trans read

/-- Reading takes decimal numerals, and nothing else. -/
theorem readDecimal_eq_some_iff {text : List Char} {decimal : Decimal} :
    readDecimal? text = some decimal ↔ ∃ numeral : Numeral, numeral.text = text ∧ numeral.parts = decimal := by
  constructor
  · intro read
    obtain ⟨sign, signed, negative⟩ := exists_sign text
    obtain ⟨wholeSplit, wholeDecimal⟩ := readDigits_split (readSign text).2
    obtain ⟨fraction, fractionSplit, decimals, fractionDecimal⟩ :=
      exists_fraction (readDigits (readSign text).2).2
    rw [readDecimal_eq] at read
    obtain ⟨someDigit, read⟩ := Option.ite_none_left_eq_some.mp read
    obtain ⟨scale, exponentRead, rfl⟩ := Option.map_eq_some_iff.mp read
    obtain ⟨exponent, written, value⟩ := exists_exponent exponentRead
    rw [← decimals, Bool.and_eq_true, not_and_or, List.isEmpty_iff, List.isEmpty_iff] at someDigit
    refine ⟨⟨sign, _, fraction, exponent, wholeDecimal, fractionDecimal, someDigit⟩, ?_, ?_⟩
    · rw [Numeral.text, Numeral.unsigned, written, fractionSplit, wholeSplit, signed]
    · simp only [Numeral.parts, Numeral.decimals, Numeral.scale, decimals, value, negative]
  · rintro ⟨numeral, rfl, rfl⟩
    exact numeral.readDecimal_text

/-! The number of a numeral. -/

namespace Decimal

def value (d : Decimal) : ℚ :=
  if d.negative then -d.size else d.size

theorem abs_value (d : Decimal) : |d.value| = d.size := by
  unfold value
  split
  · rw [abs_neg, abs_of_nonneg d.size_nonneg]
  · rw [abs_of_nonneg d.size_nonneg]

theorem significand_eq (d : Decimal) :
    d.significand =
      10 ^ d.fraction.length * Nat.ofDigitChars 10 d.whole 0 + Nat.ofDigitChars 10 d.fraction 0 := by
  rw [significand, decimalValue_eq, Nat.ofDigitChars_append, Nat.ofDigitChars_eq_ofDigitChars_zero]

end Decimal

theorem Numeral.value_parts (numeral : Numeral) : numeral.parts.value = numeral.value := by
  have size : numeral.parts.size =
      (Nat.ofDigitChars 10 numeral.whole 0 +
        Nat.ofDigitChars 10 numeral.decimals 0 / 10 ^ numeral.decimals.length) *
          10 ^ numeral.scale := by
    rw [Decimal.size, Decimal.significand_eq, Decimal.scale, parts, zpow_sub₀ (by norm_num),
      zpow_natCast]
    push_cast
    field_simp
  unfold Decimal.value Numeral.value
  rw [size, parts]
  cases numeral.sign <;> simp [Sign.factor]

theorem overflowBound_eq : (Decimal.overflowBound : ℚ) = 2 ^ 1024 - 2 ^ 970 := by
  have difference {least most : Nat} (le : Nat.pow 2 least ≤ Nat.pow 2 most) :
      ((Nat.pow 2 most - Nat.pow 2 least : Nat) : ℚ) = 2 ^ most - 2 ^ least := by
    rw [Nat.cast_sub le, Nat.pow_eq, Nat.pow_eq, Nat.cast_pow, Nat.cast_pow, Nat.cast_ofNat]
  have le : Nat.pow 2 970 ≤ Nat.pow 2 1024 := by decide +kernel
  rw [Decimal.overflowBound, difference le]

/-- Finite numerals are the decimal numerals whose number, sign aside, does not round to infinity. -/
theorem isFiniteNumeral_iff {text : List Char} :
    isFiniteNumeral text = true ↔
      ∃ numeral : Numeral, numeral.text = text ∧ |numeral.value| < 2 ^ 1024 - 2 ^ 970 := by
  rw [isFiniteNumeral, Option.any_eq_true, ← overflowBound_eq]
  constructor
  · rintro ⟨decimal, read, finite⟩
    obtain ⟨numeral, rfl, rfl⟩ := readDecimal_eq_some_iff.mp read
    refine ⟨numeral, rfl, ?_⟩
    rwa [← numeral.value_parts, Decimal.abs_value, ← Decimal.isFinite_iff]
  · rintro ⟨numeral, rfl, small⟩
    refine ⟨numeral.parts, numeral.readDecimal_text, ?_⟩
    rwa [Decimal.isFinite_iff, ← Decimal.abs_value, numeral.value_parts]

example : isFiniteNumeral "1.7976931348623158e308".toList = true ∧
    isFiniteNumeral "-17976931348623159e292".toList = false := by
  decide +kernel

end TypeSchema.Text
