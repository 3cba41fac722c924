import TypeSchema.Proofs.TypeScript.Token

/-!
What a number or a word looks at: the part of the text before the first slash or blank, where no
comment and no white space begins.
-/

namespace TypeSchema.TypeScript

open Text

/-- Whether a character is no slash and no blank, so that neither a comment nor what stands in its
place begins with it. -/
def isSolid (c : Char) : Bool :=
  c != '/' && c != ' '

/-- The part of a text before its first slash or blank. -/
def solidPart (text : List Char) : List Char :=
  text.takeWhile isSolid

theorem solidPart_nil : solidPart [] = [] :=
  rfl

theorem solidPart_cons (c : Char) (rest : List Char) :
    solidPart (c :: rest) = if isSolid c = true then c :: solidPart rest else [] :=
  List.takeWhile_cons

theorem solidPart_cons_of_solid {c : Char} (solid : isSolid c = true) (rest : List Char) :
    solidPart (c :: rest) = c :: solidPart rest :=
  List.takeWhile_cons_of_pos solid

theorem solidPart_append {text : List Char} (solid : ∀ c ∈ text, isSolid c = true)
    (rest : List Char) : solidPart (text ++ rest) = text ++ solidPart rest :=
  List.takeWhile_append_of_pos solid

theorem head_solidPart {c : Char} (solid : isSolid c = true) (text : List Char) :
    (solidPart text).head? = some c ↔ text.head? = some c := by
  cases text with
  | nil => rfl
  | cons d rest =>
      by_cases same : isSolid d = true
      · rw [solidPart_cons_of_solid same]
        rfl
      · rw [solidPart, List.takeWhile_cons_of_neg same]
        refine iff_of_false (by simp) fun equal => same ?_
        rw [Option.some.inj equal]
        exact solid

/-- A text whose front has no slashes and no blanks begins with the same characters as its solid
part. -/
theorem solidPart_eq {text : List Char} {count : Nat}
    (solid : ∀ c ∈ text.take count, isSolid c = true) :
    solidPart text = text.take count ++ solidPart (text.drop count) := by
  have parts := solidPart_append solid (text.drop count)
  rwa [List.take_append_drop] at parts

theorem drop_solidPart {text : List Char} {count : Nat}
    (solid : ∀ c ∈ text.take count, isSolid c = true) :
    (solidPart text).drop count = solidPart (text.drop count) := by
  rw [solidPart_eq solid]
  obtain short | long := Nat.le_total text.length count
  · rw [List.drop_of_length_le short, solidPart_nil, List.append_nil, List.take_of_length_le short,
      List.drop_of_length_le short]
  · exact List.drop_left' (List.length_take_of_le long)

theorem take_solidPart {text : List Char} {count : Nat}
    (solid : ∀ c ∈ text.take count, isSolid c = true) :
    (solidPart text).take count = text.take count := by
  rw [solidPart_eq solid]
  obtain short | long := Nat.le_total text.length count
  · rw [List.drop_of_length_le short, solidPart_nil, List.append_nil, List.take_take, Nat.min_self]
  · exact List.take_left' (List.length_take_of_le long)

theorem take_countWhile (p : Char → Bool) (text : List Char) :
    text.take (countWhile p text) = text.takeWhile p :=
  (List.prefix_iff_eq_take.mp (List.takeWhile_prefix p)).symm

theorem forall_take_countWhile (p : Char → Bool) (text : List Char) :
    ∀ c ∈ text.take (countWhile p text), p c = true := by
  rw [take_countWhile]
  exact List.all_eq_true.mp List.all_takeWhile

theorem countWhile_solidPart {p : Char → Bool} (solid : ∀ c, p c = true → isSolid c = true)
    (text : List Char) : countWhile p (solidPart text) = countWhile p text := by
  unfold countWhile
  congr 1
  induction text with
  | nil => rfl
  | cons c text induction =>
      by_cases own : p c = true
      · rw [solidPart_cons_of_solid (solid c own), List.takeWhile_cons_of_pos own,
          List.takeWhile_cons_of_pos own, induction]
      · rw [List.takeWhile_cons_of_neg own]
        by_cases same : isSolid c = true
        · rw [solidPart_cons_of_solid same, List.takeWhile_cons_of_neg own]
        · rw [solidPart, List.takeWhile_cons_of_neg same]
          rfl

theorem isSolid_of {p : Char → Bool} (slash : p '/' = false) (blank : p ' ' = false) (c : Char)
    (holds : p c = true) : isSolid c = true := by
  rw [isSolid, Bool.and_eq_true_iff, bne_iff_ne, bne_iff_ne]
  constructor <;> rintro rfl
  · rw [slash] at holds
    cases holds
  · rw [blank] at holds
    cases holds

theorem digitsLength_other {isDigit : Char → Bool} {c : Char} (other : isDigit c = false)
    (rest : List Char) : digitsLength isDigit (solidPart (c :: rest)) = 0 := by
  have none : ∀ more, digitsLength isDigit (c :: more) = 0 := fun more => by
    unfold digitsLength
    split <;> simp_all
  rw [solidPart_cons]
  split
  · exact none _
  · rfl

theorem digitsLength_solidPart {isDigit : Char → Bool}
    (solid : ∀ c, isDigit c = true → isSolid c = true) (mark : isDigit '_' = false)
    (text : List Char) : digitsLength isDigit (solidPart text) = digitsLength isDigit text := by
  have underscore : isSolid '_' = true := rfl
  fun_induction digitsLength isDigit text with
  | case1 => rfl
  | case2 c d rest other => exact digitsLength_other (by simpa using other) _
  | case3 c d rest digit next induction =>
      have first : isDigit c = true := by simpa using digit
      rw [solidPart_cons_of_solid (solid d next)] at induction
      rw [solidPart_cons_of_solid (solid c first), solidPart_cons_of_solid underscore,
        solidPart_cons_of_solid (solid d next), digitsLength, if_neg digit, if_pos next, induction]
  | case4 c d rest digit next =>
      have first : isDigit c = true := by simpa using digit
      rw [solidPart_cons_of_solid (solid c first), solidPart_cons_of_solid underscore,
        solidPart_cons]
      split
      · rw [digitsLength, if_neg digit, if_neg next]
      · simp [digitsLength, first, mark]
  | case5 c rest single digit induction =>
      rw [solidPart_cons_of_solid (solid c digit), digitsLength, if_pos digit, induction]
      intro d more same
      cases rest with
      | nil => cases same
      | cons e others =>
          rw [solidPart_cons] at same
          split at same
          · obtain ⟨rfl, same⟩ := List.cons.inj same
            cases others with
            | nil => cases same
            | cons f others => exact single f others rfl
          · cases same
  | case6 c rest single other => exact digitsLength_other (by simpa using other) _

theorem digits_solid {isDigit : Char → Bool} (solid : ∀ c, isDigit c = true → isSolid c = true)
    (text : List Char) : ∀ c ∈ text.take (digitsLength isDigit text), isSolid c = true := by
  intro c taken
  obtain digit | rfl := digits_chars isDigit text c taken
  · exact solid c digit
  · rfl

theorem isSolid_of_isDigit : ∀ c : Char, c.isDigit = true → isSolid c = true :=
  isSolid_of rfl rfl

theorem decimalLength_solidPart (text : List Char) :
    decimalLength (solidPart text) = decimalLength text :=
  digitsLength_solidPart isSolid_of_isDigit rfl text

theorem exponentLength_other {e : Char} (other : ¬(e = 'e' ∨ e = 'E')) (rest : List Char) :
    exponentLength (e :: rest) = 0 := by
  cases rest with
  | nil => rfl
  | cons sign rest => rw [exponentLength, if_neg other]

theorem exponentLength_solidPart (text : List Char) :
    exponentLength (solidPart text) = exponentLength text := by
  obtain _ | ⟨e, rest⟩ := text
  · rfl
  by_cases mark : e = 'e' ∨ e = 'E'
  · have solid : isSolid e = true := by rcases mark with rfl | rfl <;> rfl
    rw [solidPart_cons_of_solid solid]
    obtain _ | ⟨sign, rest⟩ := rest
    · rfl
    have digits := decimalLength_solidPart (sign :: rest)
    rw [solidPart_cons] at digits ⊢
    split at digits
    next signSolid =>
      rw [if_pos signSolid, exponentLength, exponentLength, decimalLength_solidPart, digits]
    next plain =>
      have unsigned : ¬(sign = '+' ∨ sign = '-') := by
        rintro (rfl | rfl) <;> exact plain rfl
      rw [if_neg plain, exponentLength, if_pos mark, if_neg unsigned, ← digits]
      rfl
  · rw [exponentLength_other mark, solidPart_cons]
    split
    · exact exponentLength_other mark _
    · rfl

theorem drop_decimal (text : List Char) :
    (solidPart text).drop (decimalLength text) = solidPart (text.drop (decimalLength text)) :=
  drop_solidPart (digits_solid isSolid_of_isDigit text)

theorem take_decimal (text : List Char) :
    (solidPart text).take (decimalLength text) = text.take (decimalLength text) :=
  take_solidPart (digits_solid isSolid_of_isDigit text)

/-- The length of a fraction and of an exponent after the digits of a number. -/
def fractionLength (text : List Char) : Nat :=
  let fraction := if text.head? = some '.' then 1 + decimalLength (text.drop 1) else 0
  fraction + exponentLength (text.drop fraction)

theorem fractionLength_solidPart (text : List Char) :
    fractionLength (solidPart text) = fractionLength text := by
  have point : (solidPart text).head? = some '.' ↔ text.head? = some '.' := head_solidPart rfl text
  unfold fractionLength
  dsimp only
  by_cases starts : text.head? = some '.'
  · obtain ⟨rest, rfl⟩ := List.head?_eq_some_iff.mp starts
    rw [if_pos starts, if_pos (point.mpr starts), solidPart_cons_of_solid rfl, List.drop_succ_cons,
      List.drop_zero, List.drop_succ_cons, List.drop_zero, decimalLength_solidPart, Nat.add_comm 1,
      List.drop_succ_cons, List.drop_succ_cons, drop_decimal, exponentLength_solidPart]
  · rw [if_neg starts, if_neg (starts ∘ point.mp), List.drop_zero, List.drop_zero,
      exponentLength_solidPart]

theorem decimal_eq (text : List Char) : numberLength.decimal text =
    if (text.drop (decimalLength text)).head? = some 'n' then decimalLength text + 1
    else if !mayHaveFraction (text.take (decimalLength text)) then decimalLength text
    else decimalLength text + fractionLength (text.drop (decimalLength text)) := by
  unfold numberLength.decimal fractionLength
  dsimp only
  simp only [Nat.add_assoc]

theorem decimal_solidPart (text : List Char) :
    numberLength.decimal (solidPart text) = numberLength.decimal text := by
  rw [decimal_eq, decimal_eq, decimalLength_solidPart, drop_decimal, take_decimal,
    fractionLength_solidPart]
  have big := head_solidPart (c := 'n') rfl (text.drop (decimalLength text))
  simp only [big]

/-- The length of a number with a letter for its base after the zero in front. -/
def basedLength (isDigit : Char → Bool) (whole rest : List Char) : Nat :=
  let digits := digitsLength isDigit rest
  if digits = 0 then numberLength.decimal whole
  else if (rest.drop digits).head? = some 'n' then digits + 3
  else digits + 2

theorem basedLength_solidPart {isDigit : Char → Bool}
    (solid : ∀ c, isDigit c = true → isSolid c = true) (mark : isDigit '_' = false)
    (whole rest : List Char) :
    basedLength isDigit (solidPart whole) (solidPart rest) = basedLength isDigit whole rest := by
  unfold basedLength
  dsimp only
  rw [digitsLength_solidPart solid mark, drop_solidPart (digits_solid solid rest),
    decimal_solidPart]
  have big := head_solidPart (c := 'n') rfl (rest.drop (digitsLength isDigit rest))
  simp only [big]

theorem numberLength_based (x : Char) (rest : List Char) : numberLength ('0' :: x :: rest) =
    if x = 'x' ∨ x = 'X' then
      basedLength (fun c => (hexValue? c).isSome) ('0' :: x :: rest) rest
    else if x = 'o' ∨ x = 'O' then basedLength (fun c => '0' ≤ c ∧ c ≤ '7') ('0' :: x :: rest) rest
    else if x = 'b' ∨ x = 'B' then basedLength (fun c => c = '0' ∨ c = '1') ('0' :: x :: rest) rest
    else numberLength.decimal ('0' :: x :: rest) := by
  rw [numberLength]
  unfold basedLength
  by_cases hexadecimal : x = 'x' ∨ x = 'X'
  · simp only [if_pos hexadecimal]
  by_cases octal : x = 'o' ∨ x = 'O'
  · simp only [if_neg hexadecimal, if_pos octal]
  by_cases binary : x = 'b' ∨ x = 'B'
  · simp only [if_neg hexadecimal, if_neg octal, if_pos binary]
  · simp only [if_neg hexadecimal, if_neg octal, if_neg binary, if_true]

theorem numberLength_unbased {text : List Char} (other : ∀ x rest, text ≠ '0' :: x :: rest) :
    numberLength text = numberLength.decimal text := by
  unfold numberLength
  split
  · exact absurd rfl (other _ _)
  · rfl

theorem numberLength_solidPart (text : List Char) :
    numberLength (solidPart text) = numberLength text := by
  by_cases based : ∃ x rest, text = '0' :: x :: rest
  · obtain ⟨x, rest, rfl⟩ := based
    have whole := decimal_solidPart ('0' :: x :: rest)
    by_cases solid : isSolid x = true
    · have parts : solidPart ('0' :: x :: rest) = '0' :: x :: solidPart rest := by
        rw [solidPart_cons_of_solid rfl, solidPart_cons_of_solid solid]
      rw [parts, numberLength_based, numberLength_based, ← parts, whole,
        basedLength_solidPart (isSolid_of rfl rfl) rfl,
        basedLength_solidPart (isSolid_of rfl rfl) rfl,
        basedLength_solidPart (isSolid_of rfl rfl) rfl]
    · have short : solidPart ('0' :: x :: rest) = ['0'] := by
        rw [solidPart_cons_of_solid rfl, solidPart_cons, if_neg solid]
      have plain : ∀ d, isSolid d = true → x ≠ d := fun d solidToo same => solid (same ▸ solidToo)
      rw [short, numberLength_unbased (by simp), ← short, whole, numberLength_based,
        if_neg (not_or.mpr ⟨plain _ rfl, plain _ rfl⟩),
        if_neg (not_or.mpr ⟨plain _ rfl, plain _ rfl⟩),
        if_neg (not_or.mpr ⟨plain _ rfl, plain _ rfl⟩)]
  · have other : ∀ x rest, text ≠ '0' :: x :: rest := fun x rest same => based ⟨x, rest, same⟩
    rw [numberLength_unbased other, numberLength_unbased, decimal_solidPart]
    intro x rest same
    obtain ⟨more, longer⟩ : ∃ more, text = solidPart text ++ more :=
      ⟨text.dropWhile isSolid, List.takeWhile_append_dropWhile.symm⟩
    rw [same] at longer
    exact other x (rest ++ more) longer

end TypeSchema.TypeScript
