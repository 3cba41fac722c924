import TypeSchema.Proofs.Text.Backslash
import TypeSchema.Text.Escape
import TypeSchema.Text.Quoted

/-!
Quoted literals read back. What stands for a character between the quotes stands for no other, and
none of it looks like the closing quote, so that a quoted literal shows where it ends.
-/

namespace TypeSchema.Text

open Unicode

theorem charOfHex_hexDigits {code : Nat} (small : code < 160) :
    charOfHex? (hexDigits code) = some (Char.ofNat code) := by
  have every : ∀ code < 160, charOfHex? (hexDigits code) = some (Char.ofNat code) := by
    decide +kernel
  exact every code small

theorem unescape_hexDigits {code : Nat} (small : code < 160) (rest : List Char) :
    unescapeFrom .unicode (hexDigits code ++ rest) =
      Char.ofNat code :: unescapeFrom .plain rest := by
  have first_ne_brace : ∀ code < 160, Nat.digitChar (code / 4096 % 16) ≠ '{' := by decide +kernel
  have resolved : resolveUnicode (hexDigits code) = [Char.ofNat code] := by
    rw [resolveUnicode, charOfHex_hexDigits small]
  simp only [hexDigits, List.map_cons, List.map_nil, List.cons_append, List.nil_append,
    unescapeFrom, first_ne_brace code small, if_false, List.length_cons, List.length_nil,
    List.reverse_cons, List.reverse_nil] at resolved ⊢
  rw [resolved]
  rfl

/-- What is written for a character is read as this character. -/
theorem unescape_quoteChar (c : Char) (rest : List Char) :
    unescapeFrom .plain (quoteChar c ++ rest) = c :: unescapeFrom .plain rest := by
  unfold quoteChar
  split
  case h_10 _ notBackslash _ _ _ _ _ _ _ =>
    split
    next control =>
      have small : c.toNat < 160 := by
        simp only [isControl, Bool.or_eq_true, Bool.and_eq_true, decide_eq_true_eq] at control
        omega
      have read := unescape_hexDigits small rest
      rw [Char.ofNat_toNat] at read
      exact read
    next => rw [List.singleton_append, unescapeFrom, if_neg notBackslash]
  all_goals rfl

theorem quoteChar_ne_quote (c : Char) (rest others : List Char) :
    quoteChar c ++ rest ≠ '"' :: others := by
  unfold quoteChar
  intro same
  split at same
  case h_10 notQuote _ _ _ _ _ _ _ _ =>
    split at same
    next => exact absurd (List.cons.inj same).1 (by decide)
    next => exact notQuote (List.cons.inj same).1
  all_goals exact absurd (List.cons.inj same).1 (by decide)

theorem flatMap_quoteChar_cancel {first second rest others : List Char}
    (same : first.flatMap quoteChar ++ '"' :: rest = second.flatMap quoteChar ++ '"' :: others) :
    first = second ∧ rest = others := by
  induction first generalizing second with
  | nil =>
      cases second with
      | nil => exact ⟨rfl, (List.cons.inj same).2⟩
      | cons c second =>
          rw [List.flatMap_cons, List.append_assoc] at same
          exact absurd same.symm (quoteChar_ne_quote c _ _)
  | cons c first induction =>
      rw [List.flatMap_cons, List.append_assoc] at same
      cases second with
      | nil => exact absurd same (quoteChar_ne_quote c _ _)
      | cons d second =>
          rw [List.flatMap_cons, List.append_assoc] at same
          -- Reading both sides gives the first character; its escape then cancels.
          have read := congrArg (unescapeFrom .plain) same
          rw [unescape_quoteChar, unescape_quoteChar] at read
          obtain ⟨rfl, -⟩ := List.cons.inj read
          obtain ⟨rfl, rests⟩ := induction (List.append_cancel_left same)
          exact ⟨rfl, rests⟩

/-- A quoted literal shows what it stands for, and where it ends. -/
theorem quote_cancel {first second rest others : List Char}
    (same : quote first ++ rest = quote second ++ others) : first = second ∧ rest = others := by
  simp only [quote, List.cons_append, List.append_assoc, List.nil_append] at same
  exact flatMap_quoteChar_cancel (List.cons.inj same).2

theorem unescape_quote_body (text : List Char) : unescape (text.flatMap quoteChar) = text := by
  induction text with
  | nil => rfl
  | cons c text induction =>
      rw [unescape] at induction ⊢
      rw [List.flatMap_cons, unescape_quoteChar, induction]

/-- The letters that may follow the backslash of an escape of two characters. -/
def escapeMarks : List Char :=
  ['"', '\\', 'n', 'r', 't', 'b', 'f']

/-- The forms in which a character stands between quotes. -/
inductive QuotedForm : List Char → Prop
  | plain (c : Char) (notQuote : c ≠ '"') (notBackslash : c ≠ '\\')
      (printable : isControl c = false) (notLine : c ≠ '\u2028') (notParagraph : c ≠ '\u2029') :
      QuotedForm [c]
  | escape (mark : Char) (listed : mark ∈ escapeMarks) : QuotedForm ['\\', mark]
  | unicode (code : Nat) : QuotedForm ('\\' :: 'u' :: hexDigits code)

theorem quoteChar_form (c : Char) : QuotedForm (quoteChar c) := by
  unfold quoteChar
  split
  case h_8 => exact .unicode 0x2028
  case h_9 => exact .unicode 0x2029
  case h_10 notQuote notBackslash _ _ _ _ _ notLine notParagraph =>
    split
    next => exact .unicode c.toNat
    next printable =>
      exact .plain c notQuote notBackslash (by simpa using printable) notLine notParagraph
  all_goals exact .escape _ (by decide)

theorem length_le_flatMap_quoteChar (text : List Char) :
    text.length ≤ (text.flatMap quoteChar).length := by
  induction text with
  | nil => exact Nat.le_refl 0
  | cons c rest induction =>
      have written : 1 ≤ (quoteChar c).length := by
        generalize quoteChar c = form, quoteChar_form c = isForm
        cases isForm <;> simp
      rw [List.flatMap_cons, List.length_append, List.length_cons]
      omega

theorem forall_hexDigits {p : Char → Prop} (digits : ∀ digit < 16, p (Nat.digitChar digit))
    (code : Nat) : ∀ c ∈ hexDigits code, p c := by
  simp only [hexDigits, List.map_cons, List.map_nil, List.forall_mem_cons]
  have bound : ∀ number, number % 16 < 16 := fun number => Nat.mod_lt number (by decide)
  exact ⟨digits _ (bound _), digits _ (bound _), digits _ (bound _), digits _ (bound _), by simp⟩

/-- Every double quote in a text is escaped, and one directly after it would not be. -/
structure EscapesQuotes (text : List Char) : Prop where
  ends : endsEscaped false text = false
  escaped : ∀ before after, text = before ++ '"' :: after → endsEscaped false before = true

theorem EscapesQuotes.append {first second : List Char} (firstEscapes : EscapesQuotes first)
    (secondEscapes : EscapesQuotes second) : EscapesQuotes (first ++ second) where
  ends := by rw [endsEscaped_append, firstEscapes.ends, secondEscapes.ends]
  escaped before after split := by
    rcases List.append_eq_append_iff.mp split with ⟨middle, rfl, rest⟩ | ⟨middle, firstSplit, rest⟩
    · rw [endsEscaped_append, firstEscapes.ends]
      exact secondEscapes.escaped middle after rest
    · cases middle with
      | nil => exact absurd (secondEscapes.escaped [] after rest.symm) (by decide)
      | cons c middle =>
          obtain ⟨rfl, -⟩ := List.cons.inj rest
          exact firstEscapes.escaped before middle firstSplit

theorem QuotedForm.escapesQuotes {text : List Char} (form : QuotedForm text) :
    EscapesQuotes text := by
  cases form with
  | plain c notQuote notBackslash =>
      constructor
      · simp [endsEscaped, notBackslash]
      · rintro (_ | ⟨d, before⟩) after split
        · exact absurd (List.cons.inj split).1 notQuote
        · simp at split
  | escape mark listed =>
      constructor
      · rfl
      · rintro (_ | ⟨d, _ | ⟨e, before⟩⟩) after split
        · exact absurd (List.cons.inj split).1 (by decide)
        · obtain ⟨rfl, -⟩ := List.cons.inj split
          rfl
        · simp at split
  | unicode code =>
      constructor
      · have digits := forall_hexDigits (p := fun c => (c == '\\') = false) (by decide) code
        simp only [hexDigits, List.map_cons, List.map_nil, List.forall_mem_cons] at digits
        simp [endsEscaped, hexDigits, digits]
      · rintro (_ | ⟨d, _ | ⟨e, before⟩⟩) after split
        · exact absurd (List.cons.inj split).1 (by decide)
        · exact absurd (List.cons.inj (List.cons.inj split).2).1 (by decide)
        · have tail := (List.cons.inj (List.cons.inj split).2).2
          have digits := forall_hexDigits (p := (· ≠ '"')) (by decide) code
          exact absurd rfl (digits '"' (by simp [tail]))

theorem escapesQuotes_body (text : List Char) : EscapesQuotes (text.flatMap quoteChar) := by
  induction text with
  | nil => exact ⟨rfl, by simp⟩
  | cons c text induction =>
      rw [List.flatMap_cons]
      exact (quoteChar_form c).escapesQuotes.append induction

theorem QuotedForm.printable {text : List Char} (form : QuotedForm text) :
    ∀ c ∈ text, isControl c = false ∧ c ≠ '\u2028' ∧ c ≠ '\u2029' := by
  cases form with
  | plain c _ _ printable notLine notParagraph =>
      exact List.forall_mem_singleton.mpr ⟨printable, notLine, notParagraph⟩
  | escape mark listed =>
      have marks : ∀ c ∈ escapeMarks, isControl c = false ∧ c ≠ '\u2028' ∧ c ≠ '\u2029' := by
        simp [escapeMarks, isControl]
      simp only [List.forall_mem_cons]
      exact ⟨by decide, marks mark listed, by simp⟩
  | unicode code =>
      have digits := forall_hexDigits
        (p := fun c => isControl c = false ∧ c ≠ '\u2028' ∧ c ≠ '\u2029') (by decide) code
      simp only [List.forall_mem_cons]
      exact ⟨by decide, by decide, digits⟩

theorem quote_printable (text : List Char) :
    ∀ c ∈ quote text, isControl c = false ∧ c ≠ '\u2028' ∧ c ≠ '\u2029' := by
  simp only [quote, List.mem_append, List.mem_cons, List.mem_flatMap, List.not_mem_nil, or_false]
  rintro c ((rfl | ⟨d, -, listed⟩) | rfl)
  · decide
  · exact (quoteChar_form d).printable c listed
  · decide

end TypeSchema.Text
