import TypeSchema.Proofs.Text.Numeral
import TypeSchema.Proofs.Text.Word
import TypeSchema.TypeScript.Token

/-!
Number tokens. Whatever the form of a number, its token starts with a digit or a point and goes on
with letters, digits, underscores, points and signs.
-/

namespace TypeSchema.TypeScript

open Text

theorem forall_take_add {p : Char → Prop} {text : List Char} {first second : Nat}
    (start : ∀ c ∈ text.take first, p c) (more : ∀ c ∈ (text.drop first).take second, p c) :
    ∀ c ∈ text.take (first + second), p c := by
  rw [List.take_add]
  exact List.forall_mem_append.mpr ⟨start, more⟩

theorem forall_take_succ {p : Char → Prop} {c : Char} {rest : List Char} {count : Nat} (head : p c)
    (tail : ∀ d ∈ rest.take count, p d) : ∀ d ∈ (c :: rest).take (count + 1), p d := by
  rw [List.take_succ_cons]
  exact List.forall_mem_cons.mpr ⟨head, tail⟩

theorem forall_take_zero {p : Char → Prop} {text : List Char} : ∀ c ∈ text.take 0, p c :=
  fun _ member => absurd member List.not_mem_nil

theorem forall_take_one {p : Char → Prop} {text : List Char} {c : Char}
    (starts : text.head? = some c) (head : p c) : ∀ d ∈ text.take 1, p d := by
  obtain ⟨rest, rfl⟩ := List.head?_eq_some_iff.mp starts
  exact forall_take_succ head forall_take_zero

theorem digits_chars (isDigit : Char → Bool) (text : List Char) :
    ∀ c ∈ text.take (digitsLength isDigit text), isDigit c = true ∨ c = '_' := by
  fun_induction digitsLength isDigit text with
  | case1 => exact forall_take_zero
  | case2 => exact forall_take_zero
  | case3 c d rest digit _ induction =>
      have first : isDigit c = true := by simpa using digit
      exact forall_take_succ (.inl first) (forall_take_succ (.inr rfl) induction)
  | case4 c d rest digit _ =>
      have first : isDigit c = true := by simpa using digit
      exact forall_take_succ (.inl first) forall_take_zero
  | case5 c rest _ digit induction => exact forall_take_succ (.inl digit) induction
  | case6 => exact forall_take_zero

theorem digits_continue {isDigit : Char → Bool}
    (digits : ∀ c, isDigit c = true → continuesNumber c = true) (text : List Char) :
    ∀ c ∈ text.take (digitsLength isDigit text), continuesNumber c = true := by
  intro c taken
  obtain digit | rfl := digits_chars isDigit text c taken
  · exact digits c digit
  · rfl

theorem continuesNumber_of_isDigit (c : Char) (digit : c.isDigit = true) :
    continuesNumber c = true := by
  rw [continuesNumber, Char.isAlphanum, digit, Bool.or_true, Bool.true_or]

theorem hexValue_toNat_lt {c : Char} (digit : (hexValue? c).isSome = true) : c.toNat < 128 := by
  have bound : ∀ last : Char, c ≤ last → c.toNat ≤ last.toNat :=
    fun last most => UInt32.le_iff_toNat_le.mp most
  unfold hexValue? at digit
  split at digit
  next range => exact Nat.lt_of_le_of_lt (bound '9' range.2) (by decide)
  next =>
    split at digit
    next range => exact Nat.lt_of_le_of_lt (bound 'f' range.2) (by decide)
    next =>
      split at digit
      next range => exact Nat.lt_of_le_of_lt (bound 'F' range.2) (by decide)
      next => cases digit

theorem continuesNumber_of_hexValue (c : Char) (digit : (hexValue? c).isSome = true) :
    continuesNumber c = true := by
  have every : (hexValue? c).isSome = true → continuesNumber c = true :=
    ascii_forall (p := fun c => (hexValue? c).isSome = true → continuesNumber c = true)
      (by decide +kernel) (hexValue_toNat_lt digit)
  exact every digit

theorem exponent_continues (text : List Char) :
    ∀ c ∈ text.take (exponentLength text), continuesNumber c = true := by
  unfold exponentLength
  split
  next e sign rest =>
    split
    next marks =>
      have mark : continuesNumber e = true := by rcases marks with rfl | rfl <;> rfl
      split
      next signs =>
        have signed : continuesNumber sign = true := by rcases signs with rfl | rfl <;> rfl
        dsimp only
        split
        next => exact forall_take_zero
        next =>
          rw [Nat.add_comm]
          exact forall_take_succ mark (forall_take_succ signed
            (digits_continue continuesNumber_of_isDigit rest))
      next =>
        dsimp only
        split
        next => exact forall_take_zero
        next =>
          rw [Nat.add_comm]
          exact forall_take_succ mark (digits_continue continuesNumber_of_isDigit (sign :: rest))
    next => exact forall_take_zero
  next => exact forall_take_zero

theorem decimal_continues (text : List Char) :
    ∀ c ∈ text.take (numberLength.decimal text), continuesNumber c = true := by
  have whole := digits_continue continuesNumber_of_isDigit text
  unfold numberLength.decimal
  dsimp only
  split
  next big => exact forall_take_add whole (forall_take_one big rfl)
  next =>
    split
    next => exact whole
    next =>
      refine forall_take_add (forall_take_add whole ?_) ?_
      · split
        next point =>
          obtain ⟨rest, after⟩ := List.head?_eq_some_iff.mp point
          rw [after, Nat.add_comm]
          exact forall_take_succ rfl (digits_continue continuesNumber_of_isDigit rest)
        next => exact forall_take_zero
      · rw [← List.drop_drop]
        exact exponent_continues _

theorem based_continues {x : Char} {rest : List Char} {digits : Nat}
    (mark : continuesNumber x = true)
    (inside : ∀ c ∈ rest.take digits, continuesNumber c = true) :
    ∀ c ∈ ('0' :: x :: rest).take
      (if digits = 0 then numberLength.decimal ('0' :: x :: rest)
        else if (rest.drop digits).head? = some 'n' then digits + 3 else digits + 2),
      continuesNumber c = true := by
  split
  next => exact decimal_continues _
  next =>
    split
    next big =>
      exact forall_take_succ rfl (forall_take_succ mark
        (forall_take_add inside (forall_take_one big rfl)))
    next => exact forall_take_succ rfl (forall_take_succ mark inside)

theorem number_continues (text : List Char) :
    ∀ c ∈ text.take (numberLength text), continuesNumber c = true := by
  unfold numberLength
  split
  next x rest =>
    dsimp only
    split
    next marks =>
      have mark : continuesNumber x = true := by rcases marks with rfl | rfl <;> rfl
      exact based_continues mark (digits_continue continuesNumber_of_hexValue rest)
    next =>
      split
      next marks =>
        have mark : continuesNumber x = true := by rcases marks with rfl | rfl <;> rfl
        refine based_continues mark (digits_continue (fun c digit => ?_) rest)
        obtain ⟨least, most⟩ := of_decide_eq_true digit
        apply continuesNumber_of_hexValue
        rw [hexValue?, if_pos ⟨least, Char.le_trans most (by decide)⟩]
        rfl
      next =>
        split
        next marks =>
          have mark : continuesNumber x = true := by rcases marks with rfl | rfl <;> rfl
          refine based_continues mark (digits_continue (fun c digit => ?_) rest)
          rcases of_decide_eq_true digit with rfl | rfl <;> rfl
        next => exact decimal_continues _
  next => exact decimal_continues text

theorem digitsLength_pos {isDigit : Char → Bool} {c : Char} (digit : isDigit c = true)
    (rest : List Char) : 0 < digitsLength isDigit (c :: rest) := by
  unfold digitsLength
  split
  next => contradiction
  next d e more same =>
    obtain ⟨rfl, -⟩ := List.cons.inj same
    rw [if_neg (by rw [digit]; decide)]
    split <;> omega
  next d more _ same =>
    obtain ⟨rfl, -⟩ := List.cons.inj same
    rw [if_pos digit]
    omega

theorem decimal_pos {c : Char} (digit : c.isDigit = true) (rest : List Char) :
    0 < numberLength.decimal (c :: rest) := by
  have whole : 0 < decimalLength (c :: rest) := digitsLength_pos digit rest
  unfold numberLength.decimal
  dsimp only
  split
  next => omega
  next => split <;> omega

theorem numberLength_pos {c : Char} (digit : c.isDigit = true) (rest : List Char) :
    0 < numberLength (c :: rest) := by
  have decimal := decimal_pos digit rest
  unfold numberLength
  split
  next x more same =>
    dsimp only
    generalize (if x = 'x' ∨ x = 'X' then _ else _ : Nat) = digits
    split
    next => exact decimal
    next => split <;> omega
  next => exact decimal

/-- What the tokenizer takes for a number is a numeric token. -/
theorem isNumericToken_take {c : Char} (digit : c.isDigit = true) (rest : List Char) :
    isNumericToken ((c :: rest).take (numberLength (c :: rest))) = true := by
  have continues := number_continues (c :: rest)
  obtain ⟨count, length⟩ := Nat.exists_eq_succ_of_ne_zero
    (Nat.ne_of_gt (numberLength_pos digit rest))
  rw [length, List.take_succ_cons] at continues ⊢
  have starts : startsNumber c = true := by rw [startsNumber, digit, Bool.true_or]
  rw [isNumericToken, starts, Bool.true_and]
  exact List.all_eq_true.mpr (List.forall_mem_cons.mp continues).2

end TypeSchema.TypeScript
