/-!
Backslashes read from left to right, each taking the character after it along.
-/

namespace TypeSchema.Text

/-- Whether a text ends on a backslash that takes the next character along, `pending` telling whether
one stands before it. -/
def endsEscaped (pending : Bool) : List Char → Bool
  | [] => pending
  | c :: rest => endsEscaped (!pending && c == '\\') rest

theorem endsEscaped_append (pending : Bool) (text more : List Char) :
    endsEscaped pending (text ++ more) = endsEscaped (endsEscaped pending text) more := by
  induction text generalizing pending with
  | nil => rfl
  | cons c rest induction => exact induction _

/-- Read from the end, the backslashes of the last run are odd in number. -/
theorem odd_backslashes_eq_endsEscaped (text : List Char) :
    ((text.reverse.takeWhile (· == '\\')).length % 2 == 1) = endsEscaped false text := by
  suffices reversed : ∀ back : List Char,
      ((back.takeWhile (· == '\\')).length % 2 == 1) = endsEscaped false back.reverse by
    rw [reversed, List.reverse_reverse]
  intro back
  induction back with
  | nil => rfl
  | cons c back induction =>
      rw [List.reverse_cons, endsEscaped_append, ← induction, List.takeWhile_cons]
      cases same : c == '\\' with
      | true =>
          simp only [endsEscaped, same, Bool.and_true, if_true, List.length_cons]
          generalize (back.takeWhile (· == '\\')).length = count
          rcases Nat.mod_two_eq_zero_or_one count with even | odd
          · rw [even, show (count + 1) % 2 = 1 by omega]
            rfl
          · rw [odd, show (count + 1) % 2 = 0 by omega]
            rfl
      | false =>
          simp only [endsEscaped, same, Bool.and_false]
          rfl

/-- Whether a part stands somewhere in a text outside of the escapes: what is read before it does not
end on a backslash that takes its first character along. -/
def StandsUnescaped (pending : Bool) (part text : List Char) : Prop :=
  ∃ before after, text = before ++ part ++ after ∧ endsEscaped pending before = false

variable {pending : Bool} {part : List Char}

theorem StandsUnescaped.isInfix {text : List Char} (stands : StandsUnescaped pending part text) :
    part <:+: text := by
  obtain ⟨before, after, rfl, -⟩ := stands
  exact ⟨before, after, rfl⟩

theorem not_standsUnescaped_nil (filled : part ≠ []) : ¬ StandsUnescaped pending part [] :=
  fun stands => filled (List.infix_nil.mp stands.isInfix)

theorem standsUnescaped_cons {c : Char} {rest : List Char} :
    StandsUnescaped pending part (c :: rest) ↔ pending = false ∧ part <+: c :: rest ∨
      StandsUnescaped (!pending && c == '\\') part rest := by
  constructor
  · rintro ⟨_ | ⟨d, before⟩, after, split, ends⟩
    · exact .inl ⟨ends, after, split.symm⟩
    · obtain ⟨rfl, same⟩ := List.cons.inj split
      exact .inr ⟨before, after, same, ends⟩
  · rintro (⟨ends, after, split⟩ | ⟨before, after, same, ends⟩)
    · exact ⟨[], after, split.symm, ends⟩
    · exact ⟨c :: before, after, congrArg (c :: ·) same, ends⟩

end TypeSchema.Text
