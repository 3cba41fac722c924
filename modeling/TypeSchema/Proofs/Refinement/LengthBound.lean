import TypeSchema.Proofs.Refinement.Limit
import TypeSchema.Proofs.Text.Trim

/-!
Bounds on lengths. The main statement tells which arguments set one, and that it is written in the one
shortest form of its length, from which the same bound is read again.
-/

namespace TypeSchema

namespace Text

/-- Digits of which none could be left out. -/
structure Shortest (digits : List Char) : Prop where
  nonempty : digits ≠ []
  decimal : ∀ c ∈ digits, c.isDigit = true
  unpadded : digits.head? = some '0' → digits = ['0']

/-- How a length may be written: without a sign or with a plus sign, and with zeros before it. -/
inductive WrittenLength : List Char → Nat → Prop
  | digits {sign : Sign} (unsigned : sign ≠ .minus) {digits : List Char} (nonempty : digits ≠ [])
      (decimal : ∀ c ∈ digits, c.isDigit = true) :
      WrittenLength (sign.text ++ digits) (Nat.ofDigitChars 10 digits 0)

/-! The shortest form of a number. -/

theorem digitChar_ne_zero {digit : Nat} (positive : 0 < digit) (small : digit < 10) :
    digit.digitChar ≠ '0' := by
  have every : ∀ digit < 10, 0 < digit → digit.digitChar ≠ '0' := by decide
  exact every digit small positive

theorem head?_toDigits_ne {length : Nat} (positive : 0 < length) :
    (Nat.toDigits 10 length).head? ≠ some '0' := by
  induction length using Nat.strongRecOn with
  | ind length induction =>
      by_cases small : length < 10
      · rw [Nat.toDigits_of_lt_base small, List.head?_cons]
        intro same
        exact digitChar_ne_zero positive small (Option.some.inj same)
      · have large : 10 ≤ length := Nat.le_of_not_lt small
        rw [Nat.toDigits_of_base_le (by decide) large,
          List.head?_append_of_ne_nil _ Nat.toDigits_ne_nil]
        apply induction
        · omega
        · omega

theorem shortest_toDigits (length : Nat) : Shortest (Nat.toDigits 10 length) where
  nonempty := Nat.toDigits_ne_nil
  decimal := fun _ listed => Nat.isDigit_of_mem_toDigits (by decide) (by decide) listed
  unpadded := by
    intro zero
    rcases Nat.eq_zero_or_pos length with rfl | positive
    · rfl
    · exact absurd zero (head?_toDigits_ne positive)

theorem toDigits_digit {c : Char} (digit : c.isDigit = true) :
    c.toNat - '0'.toNat < 10 ∧ Nat.toDigits 10 (c.toNat - '0'.toNat) = [c] := by
  obtain ⟨least, most⟩ := Char.isDigit_iff_toNat.mp digit
  have nine : '9'.toNat = '0'.toNat + 9 := rfl
  have small : c.toNat - '0'.toNat < 10 := by omega
  have code : ∀ value < 10, (Nat.digitChar value).toNat = '0'.toNat + value := by decide
  refine ⟨small, ?_⟩
  rw [Nat.toDigits_of_lt_base small]
  congr 1
  apply Char.toNat_inj.mp
  rw [code _ small]
  omega

/-- Digits go on the shortest form of a number, unless that is zero. -/
theorem toDigits_ofDigitChars {value : Nat} (positive : 0 < value) {digits : List Char}
    (decimal : ∀ c ∈ digits, c.isDigit = true) :
    Nat.toDigits 10 (Nat.ofDigitChars 10 digits value) = Nat.toDigits 10 value ++ digits := by
  induction digits generalizing value with
  | nil => rw [Nat.ofDigitChars_nil, List.append_nil]
  | cons c rest induction =>
      obtain ⟨digit, more⟩ := List.forall_mem_cons.mp decimal
      obtain ⟨small, alone⟩ := toDigits_digit digit
      have joined : 0 < 10 * value + (c.toNat - '0'.toNat) := by omega
      rw [Nat.ofDigitChars_cons, induction joined more,
        ← Nat.toDigits_append_toDigits (by decide) positive small, alone, List.append_assoc,
        List.singleton_append]

/-- The shortest form is the only one. -/
theorem Shortest.toDigits_eq {digits : List Char} (shortest : Shortest digits) :
    Nat.toDigits 10 (Nat.ofDigitChars 10 digits 0) = digits := by
  obtain ⟨nonempty, decimal, unpadded⟩ := shortest
  cases digits with
  | nil => exact absurd rfl nonempty
  | cons c rest =>
      obtain ⟨digit, more⟩ := List.forall_mem_cons.mp decimal
      by_cases zero : c = '0'
      · subst zero
        rw [unpadded rfl]
        rfl
      · have least := (Char.isDigit_iff_toNat.mp digit).1
        have apart : c.toNat ≠ '0'.toNat := fun same => zero (Char.toNat_inj.mp same)
        have positive : 0 < c.toNat - '0'.toNat := by omega
        rw [Nat.ofDigitChars_cons, Nat.mul_zero, Nat.zero_add, toDigits_ofDigitChars positive more,
          (toDigits_digit digit).2, List.singleton_append]

/-! Reading a length. -/

theorem maxLength_eq : maxLength = 2 ^ 64 - 1 :=
  rfl

theorem readLength_of_digits {digits : List Char} (nonempty : digits ≠ [])
    (decimal : ∀ c ∈ digits, c.isDigit = true) {text : List Char}
    (dropped : readLength?.dropPlus text = digits) :
    readLength? text = if Nat.ofDigitChars 10 digits 0 ≤ maxLength then
      some (Nat.ofDigitChars 10 digits 0) else none := by
  have accepted : (digits.isEmpty || !digits.all Char.isDigit) = false := by
    rw [List.isEmpty_eq_false_iff.mpr nonempty, List.all_eq_true.mpr decimal]
    rfl
  simp only [readLength?, dropped, accepted, decimalValue_eq, Bool.false_eq_true, if_false]

theorem dropPlus_text {sign : Sign} (unsigned : sign ≠ .minus) {digits : List Char}
    (decimal : ∀ c ∈ digits, c.isDigit = true) :
    readLength?.dropPlus (sign.text ++ digits) = digits := by
  cases sign with
  | plus => rfl
  | minus => exact absurd rfl unsigned
  | absent =>
      rw [Sign.text, List.nil_append, readLength?.dropPlus.eq_def]
      split
      next rest => exact absurd rfl (isDigit_ne (decimal '+' List.mem_cons_self)).2.1
      next => rfl

theorem exists_unsigned (text : List Char) :
    ∃ sign : Sign, sign ≠ .minus ∧ sign.text ++ readLength?.dropPlus text = text := by
  unfold readLength?.dropPlus
  split
  next rest => exact ⟨.plus, by decide, rfl⟩
  next => exact ⟨.absent, by decide, rfl⟩

theorem readLength_eq_some_iff {text : List Char} {length : Nat} :
    readLength? text = some length ↔ WrittenLength text length ∧ length ≤ 2 ^ 64 - 1 := by
  rw [← maxLength_eq]
  constructor
  · intro read
    obtain ⟨sign, unsigned, split⟩ := exists_unsigned text
    obtain ⟨accepted, bounded⟩ := Option.ite_none_left_eq_some.mp read
    obtain ⟨fits, value⟩ := Option.ite_none_right_eq_some.mp bounded
    rw [Bool.or_eq_true, not_or, List.isEmpty_iff, Bool.not_eq_true', Bool.not_eq_false,
      List.all_eq_true] at accepted
    cases value
    refine ⟨?_, fits⟩
    have written := WrittenLength.digits unsigned accepted.1 accepted.2
    rwa [split, ← decimalValue_eq] at written
  · rintro ⟨⟨unsigned, nonempty, decimal⟩, fits⟩
    rw [readLength_of_digits nonempty decimal (dropPlus_text unsigned decimal), if_pos fits]

theorem isBlank_of_isDigit {c : Char} (digit : c.isDigit = true) : Unicode.isBlank c = false := by
  have ascii : c.toNat < 128 := (Char.isDigit_iff_toNat.mp digit).2.trans_lt (by decide)
  have solid : c.isDigit = true → Unicode.isBlank c = false :=
    ascii_forall (p := fun c => c.isDigit = true → Unicode.isBlank c = false) (by decide +kernel) ascii
  exact solid digit

theorem Shortest.trim_eq {digits : List Char} (shortest : Shortest digits) :
    trim digits = digits := by
  apply Trimmed.trim_eq
  constructor
  · intro c first
    exact isBlank_of_isDigit (shortest.decimal c (List.mem_of_mem_head? first))
  · intro c last
    exact isBlank_of_isDigit (shortest.decimal c (List.mem_of_mem_getLast? last))

end Text

open Text

/-- The tags of the directives that set a bound on a length, as they are spelled or misspelled. -/
inductive LengthTag where
  | minLength
  | maxLength
  | minLenght
  | maxLenght

namespace LengthTag

def text : LengthTag → String
  | minLength => "minLength"
  | maxLength => "maxLength"
  | minLenght => "minLenght"
  | maxLenght => "maxLenght"

def limit : LengthTag → Limit
  | minLength => .least
  | maxLength => .most
  | minLenght => .least
  | maxLenght => .most

theorem refinement_eq (tag : LengthTag) (argument : String) :
    Directive.refinement? ⟨tag.text, argument⟩ =
      (readLength? (trim argument.toList)).map fun length =>
        tag.limit.call (Nat.toDigits 10 length) := by
  cases tag <;> rfl

theorem refinement_shortest (tag : LengthTag) {numeral : List Char} (shortest : Shortest numeral)
    (fits : Nat.ofDigitChars 10 numeral 0 ≤ 2 ^ 64 - 1) :
    Directive.refinement? ⟨tag.text, String.ofList numeral⟩ = some (tag.limit.call numeral) := by
  have written : WrittenLength numeral (Nat.ofDigitChars 10 numeral 0) :=
    @WrittenLength.digits .absent (by decide) numeral shortest.nonempty shortest.decimal
  rw [refinement_eq, String.toList_ofList, shortest.trim_eq,
    readLength_eq_some_iff.mpr ⟨written, fits⟩, Option.map_some, shortest.toDigits_eq]

/-- A directive sets a bound exactly if its argument, white space around it aside, is a length of 64
bits. The bound is the shortest form of this length, and a directive with that form sets it again. -/
theorem refinement_length_iff (tag : LengthTag) (argument : String) :
    (∀ call, Directive.refinement? ⟨tag.text, argument⟩ = some call ↔
      ∃ length ≤ 2 ^ 64 - 1, WrittenLength (trim argument.toList) length ∧
        ∃ numeral, Shortest numeral ∧ Nat.ofDigitChars 10 numeral 0 = length ∧
          call = tag.limit.call numeral) ∧
    ∀ call, Directive.refinement? ⟨tag.text, argument⟩ = some call →
      ∃ numeral, (∀ library level,
          call.write library level = tag.limit.method.toList ++ '(' :: numeral ++ [')']) ∧
        Directive.refinement? ⟨tag.text, String.ofList numeral⟩ = some call := by
  have exact : ∀ call, Directive.refinement? ⟨tag.text, argument⟩ = some call ↔
      ∃ length ≤ 2 ^ 64 - 1, WrittenLength (trim argument.toList) length ∧
        ∃ numeral, Shortest numeral ∧ Nat.ofDigitChars 10 numeral 0 = length ∧
          call = tag.limit.call numeral := by
    intro call
    rw [refinement_eq, Option.map_eq_some_iff]
    constructor
    · rintro ⟨length, read, rfl⟩
      obtain ⟨written, fits⟩ := readLength_eq_some_iff.mp read
      exact ⟨length, fits, written, _, shortest_toDigits length, Nat.ofDigitChars_ten_toDigits, rfl⟩
    · rintro ⟨length, fits, written, numeral, shortest, rfl, rfl⟩
      refine ⟨_, readLength_eq_some_iff.mpr ⟨written, fits⟩, ?_⟩
      rw [shortest.toDigits_eq]
  refine ⟨exact, fun call adds => ?_⟩
  obtain ⟨length, fits, -, numeral, shortest, rfl, rfl⟩ := (exact call).mp adds
  exact ⟨numeral, tag.limit.write_call numeral, tag.refinement_shortest shortest fits⟩

/-- The greatest length, with a sign and zeros before it, and the number after it. -/
theorem refinement_length_greatest :
    (∃ call, Directive.refinement? ⟨maxLenght.text, "\t+0018446744073709551615 "⟩ = some call ∧
      call.write ['z'] 0 = "max(18446744073709551615)".toList ∧
      Directive.refinement? ⟨maxLenght.text, "18446744073709551615"⟩ = some call) ∧
    Directive.refinement? ⟨maxLenght.text, "18446744073709551616"⟩ = none := by
  have adds : Directive.refinement? ⟨maxLenght.text, "\t+0018446744073709551615 "⟩ =
      some (Limit.most.call "18446744073709551615".toList) := rfl
  obtain ⟨numeral, written, again⟩ := (maxLenght.refinement_length_iff _).2 _ adds
  have whole := (written ['z'] 0).symm.trans (Limit.most.write_call _ ['z'] 0)
  have text : numeral ++ [')'] = "18446744073709551615".toList ++ [')'] :=
    @List.append_cancel_left _ "max(".toList _ _ whole
  rw [List.append_cancel_right text] at again
  exact ⟨⟨_, adds, Limit.most.write_call _ _ _, again⟩, rfl⟩

end LengthTag

end TypeSchema
