import TypeSchema.Proofs.Text.Decimal
import TypeSchema.Proofs.Text.Numeral

/-!
Numeric literals of strict code, whose grammar is not that of numerals: a whole part of two digits or more
does not start with zero, and digits may have separators between them. The main statement tells which
numerals are literals, and that those stand for the same number.
-/

namespace TypeSchema.Text

namespace NumericLiteral

/-! Each form is given with the number that it stands for, digits also with how many they are. -/

inductive Digits : List Char → Nat → Nat → Prop
  | digit {c : Char} (decimal : c.isDigit = true) : Digits [c] (digitValue c) 1
  | more {text : List Char} {value count : Nat} {c : Char} (before : Digits text value count)
      (decimal : c.isDigit = true) :
      Digits (text ++ [c]) (10 * value + digitValue c) (count + 1)
  | separated {text : List Char} {value count : Nat} {c : Char} (before : Digits text value count)
      (decimal : c.isDigit = true) :
      Digits (text ++ ['_', c]) (10 * value + digitValue c) (count + 1)

inductive Whole : List Char → Nat → Prop
  | zero : Whole ['0'] 0
  | digit {c : Char} (decimal : c.isDigit = true) (notZero : c ≠ '0') : Whole [c] (digitValue c)
  | digits {c : Char} {text : List Char} {value count : Nat} (decimal : c.isDigit = true)
      (notZero : c ≠ '0') (after : Digits text value count) :
      Whole (c :: text) (digitValue c * 10 ^ count + value)
  | separated {c : Char} {text : List Char} {value count : Nat} (decimal : c.isDigit = true)
      (notZero : c ≠ '0') (after : Digits text value count) :
      Whole (c :: '_' :: text) (digitValue c * 10 ^ count + value)

inductive Scale : List Char → Int → Prop
  | absent : Scale [] 0
  | digits {mark : Char} {text : List Char} {value count : Nat} (marks : mark = 'e' ∨ mark = 'E')
      (sign : Sign) (digits : Digits text value count) :
      Scale (mark :: (sign.text ++ text)) (sign.factor * value)

end NumericLiteral

open NumericLiteral in
inductive NumericLiteral : List Char → ℚ → Prop
  | wholeAlone {whole exponent : List Char} {number : Nat} {scale : Int}
      (isWhole : Whole whole number) (isScale : Scale exponent scale) :
      NumericLiteral (whole ++ exponent) (number * 10 ^ scale)
  | wholePoint {whole exponent : List Char} {number : Nat} {scale : Int}
      (isWhole : Whole whole number) (isScale : Scale exponent scale) :
      NumericLiteral (whole ++ '.' :: exponent) (number * 10 ^ scale)
  | wholeFraction {whole fraction exponent : List Char} {number part count : Nat} {scale : Int}
      (isWhole : Whole whole number) (isFraction : Digits fraction part count)
      (isScale : Scale exponent scale) :
      NumericLiteral (whole ++ '.' :: (fraction ++ exponent))
        ((number + part / 10 ^ count) * 10 ^ scale)
  | fractionAlone {fraction exponent : List Char} {part count : Nat} {scale : Int}
      (isFraction : Digits fraction part count) (isScale : Scale exponent scale) :
      NumericLiteral ('.' :: (fraction ++ exponent)) (part / 10 ^ count * 10 ^ scale)

/-- A numeric literal, with a sign before it if there is one. -/
inductive SignedLiteral : List Char → ℚ → Prop
  | mk (sign : Sign) {text : List Char} {value : ℚ} (isLiteral : NumericLiteral text value) :
      SignedLiteral (sign.text ++ text) (sign.factor * value)

namespace NumericLiteral

/-- Whether digits start with a zero and go on after it. -/
def padded : List Char → Bool
  | '0' :: _ :: _ => true
  | _ => false

theorem padded_cons_of_ne {c : Char} (notZero : c ≠ '0') (text : List Char) :
    padded (c :: text) = false := by
  unfold padded
  split
  next same => exact absurd (List.cons.inj same).1 notZero
  next => rfl

/-! Literals without separators are numerals. -/

section

variable {text : List Char} {value count : Nat}

theorem Digits.plain (digits : Digits text value count) (unseparated : '_' ∉ text) :
    text ≠ [] ∧ (∀ c ∈ text, c.isDigit = true) ∧ Nat.ofDigitChars 10 text 0 = value ∧
      text.length = count := by
  induction digits with
  | digit decimal =>
      exact ⟨List.cons_ne_nil _ _, List.forall_mem_singleton.mpr decimal, Nat.zero_add _, rfl⟩
  | more before decimal induction =>
      obtain ⟨-, each, number, length⟩ :=
        induction fun listed => unseparated (List.mem_append_left _ listed)
      refine ⟨List.append_ne_nil_of_right_ne_nil _ (List.cons_ne_nil _ _),
        List.forall_mem_append.mpr ⟨each, List.forall_mem_singleton.mpr decimal⟩, ?_, ?_⟩
      · rw [Nat.ofDigitChars_append, number]
        rfl
      · rw [List.length_append, length, List.length_singleton]
  | separated => exact absurd (List.mem_append_right _ List.mem_cons_self) unseparated

theorem Whole.plain (whole : Whole text value) (unseparated : '_' ∉ text) :
    text ≠ [] ∧ (∀ c ∈ text, c.isDigit = true) ∧ Nat.ofDigitChars 10 text 0 = value ∧
      padded text = false := by
  cases whole with
  | zero => exact ⟨List.cons_ne_nil _ _, List.forall_mem_singleton.mpr rfl, rfl, rfl⟩
  | digit decimal notZero =>
      exact ⟨List.cons_ne_nil _ _, List.forall_mem_singleton.mpr decimal, Nat.zero_add _,
        padded_cons_of_ne notZero []⟩
  | @digits c rest _ _ decimal notZero after =>
      obtain ⟨-, each, rfl, rfl⟩ := after.plain fun listed => unseparated (List.mem_cons_of_mem _ listed)
      refine ⟨List.cons_ne_nil _ _, List.forall_mem_cons.mpr ⟨decimal, each⟩, ?_,
        padded_cons_of_ne notZero rest⟩
      rw [Nat.ofDigitChars_cons, Nat.ofDigitChars_eq_ofDigitChars_zero, Nat.mul_zero, Nat.zero_add,
        Nat.mul_comm]
      rfl
  | separated => exact absurd (List.mem_cons_of_mem _ List.mem_cons_self) unseparated

theorem Scale.plain {scale : Int} (isScale : Scale text scale) (unseparated : '_' ∉ text) :
    ∃ exponent : Option Exponent, exponent.elim [] Exponent.text = text ∧
      exponent.elim 0 Exponent.value = scale := by
  cases isScale with
  | absent => exact ⟨none, rfl, rfl⟩
  | digits marks sign digits =>
      obtain ⟨nonempty, each, rfl, -⟩ := digits.plain fun listed =>
        unseparated (List.mem_cons_of_mem _ (List.mem_append_right _ listed))
      exact ⟨some ⟨_, sign, _, marks, nonempty, each⟩, rfl, rfl⟩

end

theorem plain {text : List Char} {value : ℚ} (isLiteral : NumericLiteral text value)
    (unseparated : '_' ∉ text) (sign : Sign) :
    ∃ numeral : Numeral, numeral.text = sign.text ++ text ∧
      numeral.value = sign.factor * value ∧ padded numeral.whole = false := by
  cases isLiteral with
  | wholeAlone isWhole isScale =>
      rw [List.mem_append, not_or] at unseparated
      obtain ⟨nonempty, each, rfl, unpadded⟩ := isWhole.plain unseparated.1
      obtain ⟨exponent, rfl, rfl⟩ := isScale.plain unseparated.2
      refine ⟨⟨sign, _, none, exponent, each, List.forall_mem_nil _, .inl nonempty⟩, rfl, ?_, unpadded⟩
      simp [Numeral.value, Numeral.decimals, Numeral.scale]
  | wholePoint isWhole isScale =>
      rw [List.mem_append, List.mem_cons, not_or, not_or] at unseparated
      obtain ⟨nonempty, each, rfl, unpadded⟩ := isWhole.plain unseparated.1
      obtain ⟨exponent, rfl, rfl⟩ := isScale.plain unseparated.2.2
      refine ⟨⟨sign, _, some [], exponent, each, List.forall_mem_nil _, .inl nonempty⟩, rfl, ?_,
        unpadded⟩
      simp [Numeral.value, Numeral.decimals, Numeral.scale]
  | wholeFraction isWhole isFraction isScale =>
      rw [List.mem_append, List.mem_cons, List.mem_append, not_or, not_or, not_or] at unseparated
      obtain ⟨nonempty, each, rfl, unpadded⟩ := isWhole.plain unseparated.1
      obtain ⟨-, digits, rfl, rfl⟩ := isFraction.plain unseparated.2.2.1
      obtain ⟨exponent, rfl, rfl⟩ := isScale.plain unseparated.2.2.2
      exact ⟨⟨sign, _, some _, exponent, each, digits, .inl nonempty⟩, rfl, rfl, unpadded⟩
  | fractionAlone isFraction isScale =>
      rw [List.mem_cons, List.mem_append, not_or, not_or] at unseparated
      obtain ⟨nonempty, digits, rfl, rfl⟩ := isFraction.plain unseparated.2.1
      obtain ⟨exponent, rfl, rfl⟩ := isScale.plain unseparated.2.2
      refine ⟨⟨sign, [], some _, exponent, List.forall_mem_nil _, digits, .inr nonempty⟩, rfl, ?_, rfl⟩
      simp [Numeral.value, Numeral.decimals, Numeral.scale]

/-! Numerals are literals, unless they start with a zero too many. -/

section

variable {text : List Char} (decimal : ∀ c ∈ text, c.isDigit = true) (nonempty : text ≠ [])

include decimal nonempty

theorem digits_of_decimal : Digits text (Nat.ofDigitChars 10 text 0) text.length := by
  induction text using List.reverseRecOn with
  | nil => exact absurd rfl nonempty
  | append_singleton before c induction =>
      obtain ⟨each, last⟩ := List.forall_mem_append.mp decimal
      have isDigit := List.forall_mem_singleton.mp last
      by_cases first : before = []
      · subst first
        have single := Digits.digit isDigit
        rwa [← Nat.zero_add (digitValue c)] at single
      · have more := (induction each first).more isDigit
        rw [Nat.ofDigitChars_append, List.length_append, List.length_singleton]
        exact more

theorem whole_of_decimal (unpadded : padded text = false) :
    Whole text (Nat.ofDigitChars 10 text 0) := by
  cases text with
  | nil => exact absurd rfl nonempty
  | cons c rest =>
      obtain ⟨isDigit, each⟩ := List.forall_mem_cons.mp decimal
      by_cases zero : c = '0'
      · subst zero
        cases rest with
        | nil => exact .zero
        | cons d more => cases unpadded
      · by_cases single : rest = []
        · subst single
          have alone := Whole.digit isDigit zero
          rwa [← Nat.zero_add (digitValue c)] at alone
        · have long := Whole.digits isDigit zero (digits_of_decimal each single)
          rw [Nat.ofDigitChars_cons, Nat.ofDigitChars_eq_ofDigitChars_zero, Nat.mul_zero, Nat.zero_add,
            Nat.mul_comm]
          exact long

end

theorem scale_of_exponent (exponent : Option Exponent) :
    Scale (exponent.elim [] Exponent.text) (exponent.elim 0 Exponent.value) := by
  cases exponent with
  | none => exact .absent
  | some exponent =>
      exact .digits exponent.marks exponent.sign
        (digits_of_decimal exponent.decimal exponent.nonempty)

theorem of_unpadded {whole : List Char} {fraction : Option (List Char)} (exponent : Option Exponent)
    (wholeDecimal : ∀ c ∈ whole, c.isDigit = true)
    (fractionDecimal : ∀ c ∈ fraction.getD [], c.isDigit = true)
    (someDigit : whole ≠ [] ∨ fraction.getD [] ≠ []) (unpadded : padded whole = false) :
    NumericLiteral
      (whole ++ (fraction.elim [] ('.' :: ·) ++ exponent.elim [] Exponent.text))
      ((Nat.ofDigitChars 10 whole 0 +
        Nat.ofDigitChars 10 (fraction.getD []) 0 / 10 ^ (fraction.getD []).length) *
          10 ^ exponent.elim 0 Exponent.value) := by
  have isScale := scale_of_exponent exponent
  by_cases starts : whole = []
  · subst starts
    have nonempty := someDigit.resolve_left (absurd rfl)
    cases fraction with
    | none => exact absurd rfl nonempty
    | some digits =>
        simpa using fractionAlone (digits_of_decimal fractionDecimal nonempty) isScale
  · have isWhole := whole_of_decimal wholeDecimal starts unpadded
    cases fraction with
    | none => simpa using wholeAlone isWhole isScale
    | some digits =>
        by_cases ends : digits = []
        · subst ends
          simpa using wholePoint isWhole isScale
        · exact wholeFraction isWhole (digits_of_decimal fractionDecimal ends) isScale

theorem unseparated_text (numeral : Numeral) : '_' ∉ numeral.text := by
  intro listed
  have numeralChar := readDecimal_chars numeral.readDecimal_text '_' listed
  cases numeralChar

end NumericLiteral

open NumericLiteral in
/-- A numeral is a literal exactly if it does not start with a zero too many, and stands for the same
number then. -/
theorem signedLiteral_iff (numeral : Numeral) (value : ℚ) :
    SignedLiteral numeral.text value ↔ value = numeral.value ∧ padded numeral.whole = false := by
  constructor
  · intro isLiteral
    have unseparated := unseparated_text numeral
    generalize written : numeral.text = text at isLiteral unseparated
    obtain ⟨sign, isLiteral⟩ := isLiteral
    rw [List.mem_append, not_or] at unseparated
    obtain ⟨other, same, number, unpadded⟩ := isLiteral.plain unseparated.2 sign
    -- a text is read in one way only
    have parts : other.parts = numeral.parts := by
      have read := other.readDecimal_text
      rw [same, ← written, numeral.readDecimal_text] at read
      exact (Option.some.inj read).symm
    refine ⟨?_, ?_⟩
    · rw [← number, ← other.value_parts, parts, numeral.value_parts]
    · rw [← unpadded]
      exact congrArg (padded ·.whole) parts.symm
  · rintro ⟨rfl, unpadded⟩
    exact .mk numeral.sign (of_unpadded numeral.exponent numeral.wholeDecimal numeral.fractionDecimal
      numeral.someDigit unpadded)

end TypeSchema.Text
