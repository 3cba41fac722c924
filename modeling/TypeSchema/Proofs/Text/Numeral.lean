import TypeSchema.Text.Numeral

/-!
The characters of numerals.
-/

namespace TypeSchema.Text

def isNumeralChar (c : Char) : Bool :=
  c.isDigit || c ∈ ['+', '-', '.', 'e', 'E']

theorem readSign_chars {text : List Char}
    (unsigned : ∀ c ∈ (readSign text).2, isNumeralChar c = true) :
    ∀ c ∈ text, isNumeralChar c = true := by
  unfold readSign at unsigned
  split at unsigned
  · exact List.forall_mem_cons.mpr ⟨rfl, unsigned⟩
  · exact List.forall_mem_cons.mpr ⟨rfl, unsigned⟩
  · exact unsigned

theorem readDigits_chars {text : List Char}
    (after : ∀ c ∈ (readDigits text).2, isNumeralChar c = true) :
    ∀ c ∈ text, isNumeralChar c = true := by
  rw [← List.takeWhile_append_dropWhile (p := Char.isDigit) (l := text)]
  refine List.forall_mem_append.mpr ⟨fun c member => ?_, after⟩
  rw [isNumeralChar, List.all_eq_true.mp List.all_takeWhile c member, Bool.true_or]

theorem readExponent_chars {text : List Char} {exponent : Int}
    (read : readExponent? text = some exponent) : ∀ c ∈ text, isNumeralChar c = true := by
  unfold readExponent? at read
  split at read
  next => exact fun c member => absurd member List.not_mem_nil
  next e rest =>
    split at read
    next marks =>
      refine List.forall_mem_cons.mpr ⟨by rcases marks with rfl | rfl <;> rfl, ?_⟩
      apply readSign_chars
      apply readDigits_chars
      change (if (readDigits (readSign rest).2).1.isEmpty ||
        !(readDigits (readSign rest).2).2.isEmpty then none else some _) = _ at read
      split at read
      next => cases read
      next complete =>
        have consumed : (readDigits (readSign rest).2).2 = [] := by
          simp only [Bool.or_eq_true, not_or, Bool.not_eq_true', Bool.not_eq_false] at complete
          exact List.isEmpty_iff.mp complete.2
        rw [consumed]
        exact fun c member => absurd member List.not_mem_nil
    next => cases read

theorem readDecimal_chars {text : List Char} {decimal : Decimal}
    (read : readDecimal? text = some decimal) : ∀ c ∈ text, isNumeralChar c = true := by
  apply readSign_chars
  apply readDigits_chars
  simp only [readDecimal?] at read
  split at read
  next rest afterWhole =>
    obtain ⟨exponent, exponentRead, -⟩ :=
      Option.map_eq_some_iff.mp (Option.ite_none_left_eq_some.mp read).2
    rw [afterWhole]
    exact List.forall_mem_cons.mpr ⟨rfl, readDigits_chars (readExponent_chars exponentRead)⟩
  next =>
    obtain ⟨exponent, exponentRead, -⟩ :=
      Option.map_eq_some_iff.mp (Option.ite_none_left_eq_some.mp read).2
    exact readExponent_chars exponentRead

theorem isFiniteNumeral_chars {text : List Char} (finite : isFiniteNumeral text = true) :
    ∀ c ∈ text, isNumeralChar c = true := by
  obtain ⟨decimal, read, -⟩ := (Option.any_eq_true _ _).mp finite
  exact readDecimal_chars read

def startsNumber (c : Char) : Bool :=
  c.isDigit || c ∈ ['+', '-', '.']

def continuesNumber (c : Char) : Bool :=
  c.isAlphanum || c ∈ ['_', '.', '+', '-', ' ']

/-- Whether a text may be a numeric token of source code, with its sign and blanks after the sign:
letters, digits, underscores, points and signs follow the start. -/
def isNumericToken : List Char → Bool
  | [] => false
  | c :: rest => startsNumber c && rest.all continuesNumber

theorem isNumericToken_chars {text : List Char} (token : isNumericToken text = true) :
    ∀ c ∈ text, c ≠ ')' := by
  cases text with
  | nil => cases token
  | cons c rest =>
      obtain ⟨starts, continues⟩ := Bool.and_eq_true_iff.mp token
      refine List.forall_mem_cons.mpr ⟨?_, fun d member => ?_⟩
      · rintro rfl
        cases starts
      · rintro rfl
        cases List.all_eq_true.mp continues _ member

theorem isNumericToken_ne_cons {text : List Char} (token : isNumericToken text = true) {c : Char}
    (other : startsNumber c = false) (rest others : List Char) : text ++ rest ≠ c :: others := by
  intro same
  cases text with
  | nil => cases token
  | cons d text =>
      obtain ⟨rfl, -⟩ := List.cons.inj same
      rw [(Bool.and_eq_true_iff.mp token).1] at other
      cases other

end TypeSchema.Text
