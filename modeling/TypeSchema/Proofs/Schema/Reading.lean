import TypeSchema.Proofs.Name
import TypeSchema.Proofs.Pattern
import TypeSchema.Proofs.Schema.Grammar
import TypeSchema.Proofs.Text.Numeral
import TypeSchema.Proofs.Text.Quoted
import TypeSchema.Schema.Render

/-!
Reading back the pieces of a schema's source text. Each piece shows where it ends, so that two texts
that begin with pieces of one kind and are the same begin with the same piece.
-/

namespace TypeSchema

open Text

/-- What may follow a schema in source text: nothing, or the end of what the schema stands in. -/
def Closes (rest : List Char) : Prop :=
  ∀ c ∈ rest.head?, c ∈ [')', ',', ']', '\n']

theorem closes_cons {c : Char} (closing : c ∈ [')', ',', ']', '\n']) (rest : List Char) :
    Closes (c :: rest) :=
  fun _ member => Option.mem_some.mp member ▸ closing

theorem Closes.delimits {rest : List Char} (closes : Closes rest) :
    ∀ c ∈ rest.head?, isDelimiter c = true := by
  have closers : [')', ',', ']', '\n'].all isDelimiter = true := by decide
  exact fun c member => List.all_eq_true.mp closers c (closes c member)

theorem Closes.ne_point {rest : List Char} (closes : Closes rest) (others : List Char) :
    rest ≠ '.' :: others := by
  rintro rfl
  exact absurd (closes '.' rfl) (by decide)

theorem delimiter_heads {delimiter : Char} (delimits : isDelimiter delimiter = true)
    (rest : List Char) : ∀ c ∈ (delimiter :: rest).head?, isDelimiter c = true :=
  fun _ member => Option.mem_some.mp member ▸ delimits

theorem writeKey_cancel {first second : String} {rest others : List Char}
    (same : writeKey first ++ ':' :: rest = writeKey second ++ ':' :: others) :
    first = second ∧ rest = others := by
  have colon : isDelimiter ':' = true := by decide
  have quotes : isDelimiter '"' = true := by decide
  unfold writeKey at same
  split at same
  next bare =>
    have word := isWord_of_isIdentifier bare
    split at same
    next otherBare =>
      obtain ⟨texts, tails⟩ := word.cancel (isWord_of_isIdentifier otherBare)
        (delimiter_heads colon _) (delimiter_heads colon _) same
      exact ⟨String.toList_inj.mp texts, (List.cons.inj tails).2⟩
    next => exact absurd same (word.ne_cons quotes _ _)
  next =>
    split at same
    next otherBare =>
      exact absurd same.symm ((isWord_of_isIdentifier otherBare).ne_cons quotes _ _)
    next =>
      obtain ⟨texts, tails⟩ := quote_cancel same
      exact ⟨String.toList_inj.mp texts, (List.cons.inj tails).2⟩

section

variable {α β : Type} {write : α → List Char} {gap : Char}

def commaSeparated (gap : Char) (write : α → List Char) : List α → List Char
  | [] => []
  | [item] => write item
  | item :: others => write item ++ ',' :: gap :: commaSeparated gap write others

theorem commaSeparated_cons (item : α) (others : List α) :
    commaSeparated gap write (item :: others) =
      write item ++ others.flatMap fun other => ',' :: gap :: write other := by
  induction others generalizing item with
  | nil => exact (List.append_nil _).symm
  | cons next more induction =>
      rw [commaSeparated, induction next, List.flatMap_cons]
      · rfl
      · exact List.cons_ne_nil next more

/-- What may follow a piece of a list that ends in a character. -/
def Separates (closing : Char) (rest : List Char) : Prop :=
  ∀ c ∈ rest.head?, c = ',' ∨ c = closing

theorem separates_flatMap (closing : Char) (items : List α) (rest : List Char) :
    Separates closing
      (items.flatMap (fun item => ',' :: gap :: write item) ++ closing :: rest) := by
  cases items with
  | nil => exact fun c member => .inr (Option.mem_some.mp member).symm
  | cons item items => exact fun c member => .inl (Option.mem_some.mp member).symm

/-- A piece shows what it reads as, and where it ends. -/
def Shows (write : α → List Char) (closing : Char) (allowed : α → Prop) (read : α → β)
    (item : α) : Prop :=
  ∀ other rest others, allowed other → Separates closing rest → Separates closing others →
    write item ++ rest = write other ++ others → read item = read other ∧ rest = others

variable {closing : Char} {allowed : α → Prop} {read : α → β}

private theorem separated_cancel (apart : closing ≠ ',') {first second : List α}
    {rest others : List Char} (each : ∀ item ∈ first, Shows write closing allowed read item)
    (secondAllowed : ∀ other ∈ second, allowed other)
    (same : (first.flatMap fun item => ',' :: gap :: write item) ++ closing :: rest =
      (second.flatMap fun item => ',' :: gap :: write item) ++ closing :: others) :
    first.map read = second.map read ∧ rest = others := by
  induction first generalizing second with
  | nil =>
      cases second with
      | nil => exact ⟨rfl, (List.cons.inj same).2⟩
      | cons other second => exact absurd (List.cons.inj same).1 apart
  | cons item first induction =>
      cases second with
      | nil => exact absurd (List.cons.inj same).1.symm apart
      | cons other second =>
          obtain ⟨head, tail⟩ := List.forall_mem_cons.mp each
          obtain ⟨otherAllowed, tailAllowed⟩ := List.forall_mem_cons.mp secondAllowed
          simp only [List.flatMap_cons, List.cons_append, List.append_assoc] at same
          obtain ⟨reads, tails⟩ := head other _ _ otherAllowed (separates_flatMap closing _ _)
            (separates_flatMap closing _ _) (List.cons.inj (List.cons.inj same).2).2
          obtain ⟨others, rests⟩ := induction tail tailAllowed tails
          exact ⟨by rw [List.map_cons, List.map_cons, reads, others], rests⟩

/-- A list of pieces each of which shows where it ends shows what they read as. -/
theorem commaSeparated_cancel (apart : closing ≠ ',') {first second : List α}
    {rest others : List Char} (each : ∀ item ∈ first, Shows write closing allowed read item)
    (secondAllowed : ∀ other ∈ second, allowed other) (firstFilled : first ≠ [])
    (secondFilled : second ≠ [])
    (same : commaSeparated gap write first ++ closing :: rest =
      commaSeparated gap write second ++ closing :: others) :
    first.map read = second.map read ∧ rest = others := by
  cases first with
  | nil => exact absurd rfl firstFilled
  | cons item first =>
      cases second with
      | nil => exact absurd rfl secondFilled
      | cons other second =>
          obtain ⟨head, tail⟩ := List.forall_mem_cons.mp each
          obtain ⟨otherAllowed, tailAllowed⟩ := List.forall_mem_cons.mp secondAllowed
          simp only [commaSeparated_cons, List.append_assoc] at same
          obtain ⟨reads, tails⟩ := head other _ _ otherAllowed (separates_flatMap closing _ _)
            (separates_flatMap closing _ _) same
          obtain ⟨others, rests⟩ := separated_cancel apart tail tailAllowed tails
          exact ⟨by rw [List.map_cons, List.map_cons, reads, others], rests⟩

end

theorem writeMask_eq (keys : List String) :
    writeMask keys = commaSeparated ' ' (fun key => quote key.toList ++ ": true".toList) keys := by
  induction keys with
  | nil => rfl
  | cons key keys induction =>
      cases keys with
      | nil => rfl
      | cons next more =>
          rw [writeMask, commaSeparated, induction, List.append_assoc, List.append_assoc]
          · rfl
          · exact List.cons_ne_nil next more
          · exact List.cons_ne_nil next more

theorem writeMask_cancel {first second : List String} {rest others : List Char}
    (firstFilled : first ≠ []) (secondFilled : second ≠ [])
    (same : writeMask first ++ ' ' :: rest = writeMask second ++ ' ' :: others) :
    first = second ∧ rest = others := by
  rw [writeMask_eq, writeMask_eq] at same
  have each : ∀ key ∈ first, Shows (fun key => quote key.toList ++ ": true".toList) ' '
      (fun _ => True) id key := by
    intro key _ other rest others _ _ _ same
    simp only [List.append_assoc] at same
    obtain ⟨texts, tails⟩ := quote_cancel same
    exact ⟨String.toList_inj.mp texts, List.append_cancel_left tails⟩
  obtain ⟨keys, rests⟩ := commaSeparated_cancel (by decide) each (fun _ _ => trivial) firstFilled
    secondFilled same
  rw [List.map_id, List.map_id] at keys
  exact ⟨keys, rests⟩

theorem number_cancel {first second : String} {rest others : List Char}
    (firstInside : ∀ c ∈ first.toList, c ≠ ')') (secondInside : ∀ c ∈ second.toList, c ≠ ')')
    (same : first.toList ++ ')' :: rest = second.toList ++ ')' :: others) :
    first = second ∧ rest = others := by
  obtain ⟨texts, tails⟩ := cut_unique (p := (· != ')'))
    (fun c member => bne_iff_ne.mpr (firstInside c member))
    (fun c member => bne_iff_ne.mpr (secondInside c member))
    (fun c member => by rw [← Option.mem_some.mp member]; rfl)
    (fun c member => by rw [← Option.mem_some.mp member]; rfl) same
  exact ⟨String.toList_inj.mp texts, (List.cons.inj tails).2⟩

theorem IsBound.numeral {text : String} (bound : IsBound text) :
    ∀ c ∈ text.toList, isNumeralChar c = true := by
  cases bound with
  | number finite => exact isFiniteNumeral_chars finite
  | length length =>
      intro c member
      rw [String.toList_ofList] at member
      rw [isNumeralChar, Nat.isDigit_of_mem_toDigits (by decide) (by decide) member, Bool.true_or]

theorem IsBound.chars {text : String} (bound : IsBound text) {mark : Char}
    (other : isNumeralChar mark = false) : ∀ c ∈ text.toList, c ≠ mark := by
  rintro c member rfl
  rw [bound.numeral c member] at other
  cases other

namespace Literal

/-- The literals that show what they are: numbers are tokens of source code. -/
def Readable : Literal → Prop
  | .string _ => True
  | .number text => isNumericToken text.toList = true
  | .boolean _ => True

theorem write_true : (Literal.boolean true).write = ['t', 'r', 'u', 'e'] := rfl

theorem write_false : (Literal.boolean false).write = ['f', 'a', 'l', 's', 'e'] := rfl

theorem write_cancel {first second : Literal} {rest others : List Char}
    (firstReadable : first.Readable) (secondReadable : second.Readable)
    (same : first.write ++ ')' :: rest = second.write ++ ')' :: others) :
    first = second ∧ rest = others := by
  cases first with
  | string value =>
      cases second with
      | string other =>
          obtain ⟨texts, tails⟩ := quote_cancel same
          exact ⟨by rw [String.toList_inj.mp texts], (List.cons.inj tails).2⟩
      | number text => exact absurd same.symm (isNumericToken_ne_cons secondReadable rfl _ _)
      | boolean other => cases other <;> cases (List.cons.inj same).1
  | number text =>
      cases second with
      | string other => exact absurd same (isNumericToken_ne_cons firstReadable rfl _ _)
      | number other =>
          obtain ⟨texts, rests⟩ := number_cancel (isNumericToken_chars firstReadable)
            (isNumericToken_chars secondReadable) same
          exact ⟨by rw [texts], rests⟩
      | boolean other =>
          cases other <;> exact absurd same (isNumericToken_ne_cons firstReadable rfl _ _)
  | boolean value =>
      cases second with
      | string other => cases value <;> cases (List.cons.inj same).1
      | number text =>
          cases value <;> exact absurd same.symm (isNumericToken_ne_cons secondReadable rfl _ _)
      | boolean other =>
          cases value <;> cases other <;> simp only [write_true, write_false, List.cons_append,
            List.nil_append, List.cons.injEq, Char.reduceEq, true_and, false_and] at same
          · exact ⟨rfl, same⟩
          · exact ⟨rfl, same⟩

end Literal

end TypeSchema
