import TypeSchema.Proofs.DocComment
import TypeSchema.Proofs.Pattern.Literal
import TypeSchema.Proofs.Schema.Rendering

/-!
The lines of a schema expression. Line feeds stand only between the members of an object and after
the lines of comments, and every member and every comment line begins with the blanks of its level,
so that no line is empty.
-/

namespace TypeSchema

open Text

/-- Any comments, and numbers on one line. -/
def Vocabulary.onOneLine : Vocabulary where
  literal
    | .number text => '\n' ∉ text.toList
    | _ => True
  comment _ := True

theorem Text.IsWord.oneLine {word : List Char} (isWord : IsWord word) : '\n' ∉ word := by
  intro listed
  cases isWord.undelimited _ listed

theorem Text.quote_oneLine (text : List Char) : '\n' ∉ quote text := by
  intro listed
  cases (quote_printable text _ listed).1

theorem writeKey_oneLine (key : String) : '\n' ∉ writeKey key := by
  unfold writeKey
  split
  next bare => exact (isWord_of_isIdentifier bare).oneLine
  next => exact quote_oneLine _

theorem Pattern.literal_oneLine (pattern : Pattern) : '\n' ∉ pattern.literal := by
  have escaped := escapeDelimiters_onLine false pattern.source.toList
  simp only [literal, List.mem_append, List.mem_cons, List.not_mem_nil, Char.reduceEq, false_or,
    or_false]
  exact fun listed => escaped _ listed List.mem_cons_self

theorem Literal.write_inline {value : Literal} (allowed : Vocabulary.onOneLine.literal value) :
    Inline value.write := by
  cases value with
  | string text => exact inline_of_oneLine (quote_oneLine _)
  | number text => exact inline_of_oneLine allowed
  | boolean value => cases value <;> exact inline_of_oneLine (by decide)

theorem indentation_paragraph (level : Nat) : Paragraph (indentation (level + 1)) := by
  have blanks : Inline (List.replicate (4 * level + 3) ' ') := by
    refine inline_of_oneLine fun listed => ?_
    cases List.eq_of_mem_replicate listed
  exact blanks.paragraph (by decide)

theorem indentation_then (level : Nat) {c : Char} (onLine : c ≠ '\n') :
    Paragraph (indentation level ++ [c]) := by
  have inline : Inline [c] := inline_nil.cons onLine
  cases level with
  | zero => exact inline_nil.paragraph onLine
  | succ level => exact (indentation_paragraph level).append inline

section

variable {α : Type} {write : α → List Char} {item : α} {others : List α}

theorem commaSeparated_inline {items : List α} (each : ∀ item ∈ items, Inline (write item)) :
    Inline (commaSeparated ' ' write items) := by
  cases items with
  | nil => exact inline_nil
  | cons item items =>
      obtain ⟨head, tail⟩ := List.forall_mem_cons.mp each
      rw [commaSeparated_cons]
      refine head.append (inline_flatMap fun other listed => ?_)
      exact ((tail other listed).cons (by decide)).cons (by decide)

theorem commaSeparated_paragraph (each : ∀ other ∈ item :: others, Paragraph (write other)) :
    Paragraph (commaSeparated '\n' write (item :: others)) := by
  obtain ⟨head, tail⟩ := List.forall_mem_cons.mp each
  rw [commaSeparated_cons]
  exact head.append (inline_flatMap fun other listed => (tail other listed).inline.cons (by decide))

end

theorem writeMask_inline (keys : List String) : Inline (writeMask keys) := by
  rw [writeMask_eq]
  refine commaSeparated_inline fun key _ => ?_
  exact (inline_of_oneLine (quote_oneLine _)).append (inline_of_oneLine (by decide))

variable {library : List Char} {level : Nat}

theorem ShapeEntry.write_paragraph {entry : ShapeEntry}
    (inline : Inline (entry.schema.write library (level + 1))) :
    Paragraph (entry.write library (level + 1)) := by
  obtain ⟨key, comment, schema⟩ := entry
  have indented := indentation_paragraph level
  have commented : WholeLines (comment.elim [] (DocComment.layout (indentation (level + 1)))) := by
    cases comment with
    | none => exact wholeLines_nil
    | some text => exact DocComment.layout_wholeLines indented text
  have after : Inline (':' :: ' ' :: schema.write library (level + 1)) :=
    (inline.cons (by decide)).cons (by decide)
  rw [write, List.append_assoc, List.append_assoc]
  refine commented.paragraph (indented.append ?_)
  exact (inline_of_oneLine (writeKey_oneLine key)).append after

theorem braces_inline : Inline ['{', '}'] := inline_of_oneLine (by decide)

theorem Argument.shape_inline {entries : List ShapeEntry}
    (each : ∀ entry ∈ entries, Inline (entry.schema.write library (level + 1))) :
    Inline (Argument.write library level (.shape entries)) := by
  cases entries with
  | nil => exact braces_inline
  | cons entry others =>
      have lines : WholeLines (ShapeEntry.writeAll library (level + 1) (entry :: others)) := by
        rw [ShapeEntry.writeAll_eq]
        refine (commaSeparated_paragraph fun entry listed => ?_).ended
        exact ShapeEntry.write_paragraph (each entry listed)
      have closed := lines.paragraph (indentation_then level (c := '}') (by decide))
      rw [← List.append_assoc] at closed
      exact closed.inline.cons (by decide)

theorem Schema.writeChain_inline {chain : List Call}
    (each : ∀ call ∈ chain, Inline (call.write library level)) :
    Inline (writeChain library level chain) := by
  induction chain with
  | nil => exact inline_nil
  | cons call others induction =>
      obtain ⟨head, tail⟩ := List.forall_mem_cons.mp each
      exact (head.append (induction tail)).cons (by decide)

theorem Call.write_inline {table : List (String × ArgumentForm)} {name : String}
    {form : ArgumentForm} (words : ∀ entry ∈ table, IsWord entry.1.toList)
    (known : table.lookup name = some form) {arguments : List Argument}
    (inline : Inline (writeArguments library level arguments)) :
    Inline (Call.write library level ⟨name, arguments⟩) := by
  have closing : Inline [')'] := inline_nil.cons (by decide)
  have word := inline_of_oneLine (isWord_of_lookup words known).oneLine
  have opened : Inline ('(' :: writeArguments library level arguments) := inline.cons (by decide)
  rw [write]
  exact (word.append opened).append closing

mutual

theorem Schema.Formed.inline (oneLine : '\n' ∉ library) {schema : Schema}
    (formed : schema.Formed .onOneLine) (level : Nat) : Inline (schema.write library level) := by
  match formed with
  | .mk (.call constructs) chainFormed =>
      have call := constructs.inline oneLine SchemaLibrary.constructors_words level
      have chain := Schema.writeChain_inline fun call listed =>
        (chainFormed call listed).inline oneLine SchemaLibrary.methods_words level
      exact ((inline_of_oneLine oneLine).append (call.cons (by decide))).append chain
  | .mk (.reference declared) chainFormed =>
      have chain := Schema.writeChain_inline fun call listed =>
        (chainFormed call listed).inline oneLine SchemaLibrary.methods_words level
      exact (inline_of_oneLine (Name.schemaName_isWord declared).oneLine).append chain

theorem Call.Formed.inline (oneLine : '\n' ∉ library) {table : List (String × ArgumentForm)}
    {call : Call} (formed : call.Formed .onOneLine table)
    (words : ∀ entry ∈ table, IsWord entry.1.toList) (level : Nat) :
    Inline (call.write library level) := by
  match formed with
  | .mk known fit => exact Call.write_inline words known (fit.inline oneLine level)

theorem Argument.Fit.inline (oneLine : '\n' ∉ library) {form : ArgumentForm}
    {arguments : List Argument} (fit : Argument.Fit .onOneLine form arguments) (level : Nat) :
    Inline (Call.writeArguments library level arguments) := by
  match fit with
  | .nothing => exact inline_nil
  | .schema formed => exact formed.inline oneLine level
  | .schemas formed =>
      have inside := commaSeparated_inline fun schema listed =>
        (formed schema listed).inline oneLine level
      rw [← Schema.writeAll_eq] at inside
      exact (inside.append (inline_nil.cons (by decide))).cons (by decide)
  | .shape comments formed =>
      exact Argument.shape_inline fun entry listed =>
        (formed entry listed).inline oneLine (level + 1)
  | .mask [] => exact braces_inline
  | .mask (key :: keys) =>
      have inside := writeMask_inline (key :: keys)
      exact ((inside.append (inline_of_oneLine (by decide))).cons (by decide)).cons (by decide)
  | .literal allowed => exact Literal.write_inline allowed
  | .number bound => exact inline_of_oneLine fun listed => bound.chars rfl _ listed rfl
  | .pattern ends => exact inline_of_oneLine (Pattern.literal_oneLine _)

end

end TypeSchema
