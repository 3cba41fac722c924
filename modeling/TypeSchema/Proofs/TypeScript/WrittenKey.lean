import Mathlib.Data.List.Basic
import TypeSchema.Proofs.Text.Quoted
import TypeSchema.Proofs.Text.Word
import TypeSchema.Proofs.Unicode.CharSet
import TypeSchema.Schema.Render
import TypeSchema.TypeScript.Lowering
import TypeSchema.TypeScript.TypeGrammar

/-!
Written texts read back. A quoted literal is one token, and it stands for the text that was quoted.
So a key that is written into an object, bare or quoted, is read there as the name of a property, and
the property has this key.
-/

namespace TypeSchema.TypeScript

open Text Unicode

theorem stringBody_quote (text : List Char) :
    stringBody (quote text) = text.flatMap quoteChar := by
  simp [stringBody, quote, isQuote]

theorem stringValue_quote (text : String) :
    stringValue (String.ofList (quote text.toList)) = text := by
  rw [stringValue, String.toList_ofList, stringBody_quote, unescape_quote_body, String.ofList_toList]

/-! The token of a text, whatever stands before and after it. -/

theorem tokensFrom_cons {state : LexicalState} {kind : TokenKind} {c : Char} {text rest : List Char}
    (taken : lexeme state c (text ++ rest) = (kind, text.length + 1)) (fuel : Nat) :
    tokensFrom (fuel + 1) state (c :: text ++ rest) =
      ⟨kind, c :: text⟩ :: tokensFrom fuel (state.after ⟨kind, c :: text⟩) rest := by
  have step : tokensFrom (fuel + 1) state (c :: (text ++ rest)) =
      (let found := lexeme state c (text ++ rest)
        let token : Token := ⟨found.1, c :: (text ++ rest).take (found.2 - 1)⟩
        token :: tokensFrom fuel (state.after token) ((text ++ rest).drop (found.2 - 1))) := rfl
  rw [List.cons_append, step, taken]
  simp

theorem stringLength_skip (text rest : List Char) :
    stringLength? '"' text.length (text ++ rest) =
      (stringLength? '"' 0 rest).map (· + text.length) := by
  induction text with
  | nil => simp
  | cons c text induction =>
      rw [List.cons_append, List.length_cons, stringLength?, induction, Option.map_map]
      rfl

theorem stringLength_escape {taken rest : List Char}
    (length : escapeLength? (taken ++ rest) = some taken.length) :
    stringLength? '"' 0 ('\\' :: taken ++ rest) =
      (stringLength? '"' 0 rest).map (· + (taken.length + 1)) := by
  have marks : ¬('\\' = '"') ∧ ¬('\\' = '\n' ∨ '\\' = '\r') := by decide
  rw [List.cons_append, stringLength?, if_neg marks.1, if_neg marks.2, if_pos rfl, length]
  rw [Option.bind_some, stringLength_skip, Option.map_map]
  rfl

theorem escapeLength_hexDigits (code : Nat) (rest : List Char) :
    escapeLength? ('u' :: hexDigits code ++ rest) = some 5 := by
  have digits := forall_hexDigits (p := fun c => c ≠ '{' ∧ (hexValue? c).isSome = true)
    (by decide) code
  simp only [hexDigits, List.map_cons, List.map_nil, List.forall_mem_cons] at digits
  simp only [hexDigits, List.map_cons, List.map_nil, List.cons_append, List.nil_append]
  rw [escapeLength?]
  · simp [digits]
  · exact digits.1.1

theorem stringLength_form {text : List Char} (form : QuotedForm text) (rest : List Char) :
    stringLength? '"' 0 (text ++ rest) = (stringLength? '"' 0 rest).map (· + text.length) := by
  cases form with
  | plain c notQuote notBackslash printable =>
      have notLine : ¬(c = '\n' ∨ c = '\r') := by
        rintro (rfl | rfl) <;> exact absurd printable (by decide)
      rw [List.singleton_append, stringLength?, if_neg notQuote, if_neg notLine, if_neg notBackslash]
      rfl
  | escape mark listed =>
      have length : escapeLength? ([mark] ++ rest) = some 1 := by
        simp only [escapeMarks, List.mem_cons, List.not_mem_nil, or_false] at listed
        rcases listed with rfl | rfl | rfl | rfl | rfl | rfl | rfl <;> rfl
      exact stringLength_escape length
  | unicode code => exact stringLength_escape (escapeLength_hexDigits code rest)

theorem stringLength_quote (text rest : List Char) :
    stringLength? '"' 0 (text.flatMap quoteChar ++ '"' :: rest) =
      some ((text.flatMap quoteChar).length + 1) := by
  induction text with
  | nil => rfl
  | cons c text induction =>
      rw [List.flatMap_cons, List.append_assoc, stringLength_form (quoteChar_form c), induction,
        Option.map_some, List.length_append]
      congr 1
      omega

theorem lexeme_doubleQuote (state : LexicalState) (after : List Char) :
    lexeme state '"' after =
      match stringLength? '"' 0 after with
      | some length => (.string, length + 1)
      | none => (.invalid, 1) :=
  rfl

theorem lexeme_quote (state : LexicalState) (text rest : List Char) :
    lexeme state '"' ((text.flatMap quoteChar ++ ['"']) ++ rest) =
      (.string, (text.flatMap quoteChar ++ ['"']).length + 1) := by
  rw [List.append_assoc, List.singleton_append, lexeme_doubleQuote, stringLength_quote,
    List.length_append]
  rfl

/-! A key without quotes is a word: no letter and no number is white space or a mark. -/

/-- The white space beyond ASCII, as ranges of code points. -/
def wideSpaces : List (Nat × Nat) :=
  [(0xa0, 0xa0), (0x1680, 0x1680), (0x2000, 0x200b), (0x2028, 0x2029), (0x202f, 0x202f),
    (0x205f, 0x2060), (0x3000, 0x3000), (0xfeff, 0xfeff)]

theorem exists_wideSpaces {c : Char} (space : isSpace c = true) (beyond : 128 ≤ c.toNat) :
    ∃ range ∈ wideSpaces, range.1 ≤ c.toNat ∧ c.toNat ≤ range.2 := by
  have notBlank : c ≠ ' ' := by
    rintro rfl
    exact absurd beyond (by decide)
  simp only [isSpace, Bool.or_eq_true, Bool.and_eq_true, beq_iff_eq, decide_eq_true_eq, notBlank,
    false_or] at space
  simp only [wideSpaces, List.exists_mem_cons_iff, List.not_mem_nil, false_and, exists_false,
    or_false]
  omega

theorem isSpace_of_isAlphanumeric {c : Char} (beyond : 128 ≤ c.toNat)
    (alphanumeric : isAlphanumeric c = true) : isSpace c = false := by
  have letterApart : letters.apart ⟨wideSpaces⟩ = true := by decide +kernel
  have numberApart : numbers.apart ⟨wideSpaces⟩ = true := by decide +kernel
  have listed : letters.contains c = true ∨ numbers.contains c = true := by
    simpa [isAlphanumeric, isAlphabetic, isNumeric, Nat.not_lt.mpr beyond] using alphanumeric
  have outside : CharSet.contains ⟨wideSpaces⟩ c = false :=
    listed.elim (CharSet.not_contains_of_apart letterApart)
      (CharSet.not_contains_of_apart numberApart)
  refine Bool.eq_false_iff.mpr fun space => Bool.eq_false_iff.mp outside ?_
  exact CharSet.contains_iff.mpr (exists_wideSpaces space beyond)

theorem isWordChar_of_continuesIdentifier {c : Char} (continues : continuesIdentifier c = true) :
    isWordChar c = true := by
  have marks : ∀ c ∈ reserved, c.toNat < 128 := by simp [reserved]
  by_cases small : c.toNat < 128
  · have every : continuesIdentifier c = true → isWordChar c = true :=
      ascii_forall (p := fun c => continuesIdentifier c = true → isWordChar c = true)
        (by decide +kernel) small
    exact every continues
  · have notMark : c ∉ reserved := fun listed => small (marks c listed)
    have alphanumeric : isAlphanumeric c = true := by
      simp only [continuesIdentifier, Bool.or_eq_true, beq_iff_eq] at continues
      rcases continues with (alphanumeric | rfl) | rfl
      · exact alphanumeric
      · exact absurd small (by decide)
      · exact absurd small (by decide)
    have notSpace := isSpace_of_isAlphanumeric (by omega) alphanumeric
    have visible : 32 < c.toNat := by omega
    simp [isWordChar, notSpace, notMark, visible]

theorem startsWord_of_startsIdentifier {c : Char} (starts : startsIdentifier c = true) :
    startsWord c = true := by
  have wordChar :=
    isWordChar_of_continuesIdentifier (continuesIdentifier_of_startsIdentifier starts)
  have notDigit : c.isDigit = false := by
    by_contra digit
    have isDigit : c.isDigit = true := by simpa using digit
    have small : c.toNat < 128 := by
      have most := (Char.isDigit_iff_toNat.mp isDigit).2
      exact Nat.lt_of_le_of_lt most (by decide)
    have apart : c.isDigit = true → startsIdentifier c = false :=
      ascii_forall (p := fun c => c.isDigit = true → startsIdentifier c = false)
        (by decide +kernel) small
    rw [apart isDigit] at starts
    cases starts
  rw [startsWord, wordChar, notDigit]
  rfl

theorem lexeme_identifier (state : LexicalState) {c : Char} {text : List Char}
    (identifier : isIdentifier (c :: text) = true) (rest : List Char) :
    lexeme state c (text ++ ':' :: rest) = (.word, text.length + 1) := by
  obtain ⟨first, others⟩ := Bool.and_eq_true_iff.mp identifier
  have starts := startsWord_of_startsIdentifier first
  have notSpace : isSpace c = false := by
    simp only [startsWord, isWordChar, Bool.and_eq_true, Bool.not_eq_true'] at starts
    exact starts.1.1.2
  have inside : ∀ d ∈ text, isWordChar d = true := fun d listed =>
    isWordChar_of_continuesIdentifier (List.all_eq_true.mp others d listed)
  have taken : countWhile isWordChar (text ++ ':' :: rest) = text.length := by
    rw [countWhile, List.takeWhile_append_of_pos inside]
    simp [isWordChar, reserved]
  unfold lexeme
  rw [if_neg (by rw [notSpace]; decide), if_pos starts, taken, Nat.add_comm]

/-! A word or a string before a colon is the name of a property, whatever word it is. -/

def colon : Token :=
  ⟨.mark, [':']⟩

/-- A token that is the name of a property by itself. -/
inductive Names : Token → PropertyName → Prop
  | word (text : List Char) : Names ⟨.word, text⟩ (.plain (String.ofList text))
  | string (text : List Char) : Names ⟨.string, text⟩ (.quoted (String.ofList text))

variable {before gap : List Token} {token : Token} {name : PropertyName} {others : List Lexeme}

theorem Names.isMark (names : Names token name) (mark : String) : token.isMark mark = false := by
  cases names <;> rfl

theorem Names.isMarkOf (names : Names token name) (marks : List String) :
    (Lexeme.mk before token).isMarkOf marks = false := by
  simp [Lexeme.isMarkOf, names.isMark]

namespace Grammar

theorem opensConstruct_name :
    opensConstruct (⟨before, token⟩ :: ⟨gap, colon⟩ :: others) = false := by
  cases others <;>
    simp [opensConstruct, opensMethod, Lexeme.isMark, Lexeme.isWord, Token.isMark, Token.isWord,
      colon]

theorem indexStart_name (names : Names token name) :
    indexStart? (⟨before, token⟩ :: ⟨gap, colon⟩ :: others) = none := by
  cases others with
  | nil => simp [indexStart?]
  | cons third rest =>
      -- The name may be the word `readonly`, after which the reader looks on.
      have afterReadonly : indexStart? (⟨gap, colon⟩ :: third :: rest) = none := by
        cases rest <;>
          simp [indexStart?, colon, Lexeme.isMark, Lexeme.isWord, Lexeme.isMarkOf, Token.isMark,
            Token.isWord]
      simp [indexStart?, afterReadonly, Lexeme.isMark, names.isMark, names.isMarkOf]

theorem afterModifiers_name (modifiers : List String) :
    afterModifiers modifiers (⟨before, token⟩ :: ⟨gap, colon⟩ :: others) =
      (⟨before, token⟩ :: ⟨gap, colon⟩ :: others, false) := by
  simp [afterModifiers, startsPropertyName, Lexeme.isName, Lexeme.isMark, Token.isMark, colon]

theorem run_propertyName (names : Names token name) :
    propertyName.run (⟨before, token⟩ :: others) = some (name, others) := by
  cases names <;> simp [propertyName, Reader.next, Lexeme.isMark, Token.isMark]

theorem run_namedItem (names : Names token name) (fuel : Nat) :
    (namedItem (fuel + 1)).run (⟨before, token⟩ :: ⟨gap, colon⟩ :: others) =
      ((typeTree fuel true).run others).map fun (tree, rest) =>
        (.property name false (some tree), rest) := by
  have colonMarks : colon.isMark "?" = false ∧ colon.isMark ":" = true ∧
      opensMethod ⟨gap, colon⟩ = false := by
    simp [colon, Token.isMark, opensMethod, Lexeme.isMark]
  simp [namedItem, acceptModifiers, afterModifiers_name, Reader.accept, Reader.acceptIf,
    Reader.nextIs, Lexeme.isMark, names.isMark, run_propertyName names, colonMarks]

theorem run_bodyItem (names : Names token name) (fuel : Nat) :
    (bodyItem (fuel + 2)).run (⟨before, token⟩ :: ⟨gap, colon⟩ :: others) =
      ((typeTree fuel true).run others).map fun (tree, rest) =>
        (.property name false (some tree), rest) := by
  simp [bodyItem, Reader.nextIs, names.isMarkOf, opensConstruct_name, indexStart_name names,
    run_namedItem names]

end Grammar

/-- A text is read as the name of a property with a key, in the body of an object type and before a
colon, whatever stands before and after. -/
def ReadAsKey (text : List Char) (key : String) : Prop :=
  ∃ token name, PropertyName.key name = .ok key ∧
    (∀ fuel state rest, tokensFrom (fuel + 2) state (text ++ ':' :: rest) =
      token :: colon :: tokensFrom fuel ((state.after token).after colon) rest) ∧
    ∀ fuel before gap others,
      (Grammar.bodyItem (fuel + 2)).run (⟨before, token⟩ :: ⟨gap, colon⟩ :: others) =
        ((Grammar.typeTree fuel true).run others).map fun (tree, rest) =>
          (.property name false (some tree), rest)

theorem readAsKey_of_names {kind : TokenKind} {c : Char} {text : List Char} {name : PropertyName}
    {key : String} (names : Names ⟨kind, c :: text⟩ name) (named : name.key = .ok key)
    (taken : ∀ state rest, lexeme state c (text ++ ':' :: rest) = (kind, text.length + 1)) :
    ReadAsKey (c :: text) key := by
  refine ⟨⟨kind, c :: text⟩, name, named, ?_, ?_⟩
  · intro fuel state rest
    have atColon : ∀ state, lexeme state ':' ([] ++ rest) = (.mark, 1) := fun _ => rfl
    rw [tokensFrom_cons (taken state rest)]
    exact congrArg _ (tokensFrom_cons (atColon _) fuel)
  · intro fuel before gap others
    exact Grammar.run_bodyItem names fuel

theorem readAsKey_writeKey (key : String) : ReadAsKey (writeKey key) key := by
  unfold writeKey
  split
  next identifier =>
    cases form : key.toList with
    | nil =>
        rw [form] at identifier
        cases identifier
    | cons c text =>
        rw [form] at identifier
        have whole : String.ofList (c :: text) = key := by rw [← form, String.ofList_toList]
        refine readAsKey_of_names (.word (c :: text)) ?_ fun state rest =>
          lexeme_identifier state identifier rest
        rw [PropertyName.key, whole]
  next =>
    refine readAsKey_of_names (.string (quote key.toList)) ?_ fun state rest =>
      lexeme_quote state key.toList (':' :: rest)
    rw [PropertyName.key, stringValue_quote]

/-- Text that is written between quotes, or as a key, comes back as it was. -/
theorem written_reads_back :
    (∀ text : String, ∃ body, quote text.toList = '"' :: body ++ ['"'] ∧ EscapesQuotes body ∧
      (∀ c ∈ quote text.toList, isControl c = false ∧ isLineEnd c = false) ∧
      stringValue (String.ofList (quote text.toList)) = text) ∧
    ∀ key : String, ReadAsKey (writeKey key) key := by
  refine ⟨fun text => ?_, readAsKey_writeKey⟩
  refine ⟨_, rfl, escapesQuotes_body text.toList, ?_, stringValue_quote text⟩
  intro c listed
  obtain ⟨printable, notLine, notParagraph⟩ := quote_printable text.toList c listed
  have notBreak : c ≠ '\n' ∧ c ≠ '\r' := by
    constructor <;> rintro rfl <;> exact absurd printable (by decide)
  simp [isLineEnd, printable, notLine, notParagraph, notBreak]

end TypeSchema.TypeScript
