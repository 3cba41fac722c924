import TypeSchema.Schema.Render

/-!
Schema expressions written from left to right. The level of the lines to come is kept beside the text that
stands already: it goes up before the members of an object and down after them, so that an expression
leaves it as it found it.
-/

namespace TypeSchema

/-- A text that is being written, and the level of its next line. -/
structure Draft where
  text : List Char
  level : Nat
deriving DecidableEq

namespace Draft

def add (draft : Draft) (more : List Char) : Draft :=
  { draft with text := draft.text ++ more }

def indent (draft : Draft) : Draft :=
  draft.add (indentation draft.level)

def enter (draft : Draft) : Draft :=
  { draft with level := draft.level + 1 }

def leave (draft : Draft) : Draft :=
  { draft with level := draft.level - 1 }

/-- The lines of a comment, `first` telling whether they begin it. -/
def commentLines (first : Bool) : List (List Char) → Draft → Draft
  | [], draft => draft
  | line :: others, draft =>
    let text := Text.trim line
    let margin := if !first && text.head? == some '*' then [' '] else []
    commentLines false others (((draft.indent.add margin).add text).add ['\n'])

def comment (text : String) (draft : Draft) : Draft :=
  draft.commentLines true (Text.lines (Text.trim text.toList))

end Draft

mutual

def Schema.draft (library : List Char) : Schema → Draft → Draft
  | ⟨base, chain⟩, draft => Schema.draftChain library chain (base.draft library draft)

def SchemaBase.draft (library : List Char) : SchemaBase → Draft → Draft
  | .call call, draft => call.draft library ((draft.add library).add ['.'])
  | .reference identifier, draft => draft.add identifier.toList

def Schema.draftChain (library : List Char) : List Call → Draft → Draft
  | [], draft => draft
  | call :: others, draft => Schema.draftChain library others (call.draft library (draft.add ['.']))

def Call.draft (library : List Char) : Call → Draft → Draft
  | ⟨name, arguments⟩, draft =>
    (Call.draftArguments library arguments ((draft.add name.toList).add ['('])).add [')']

def Call.draftArguments (library : List Char) : List Argument → Draft → Draft
  | [], draft => draft
  | [argument], draft => argument.draft library draft
  | argument :: others, draft =>
    Call.draftArguments library others ((argument.draft library draft).add [',', ' '])

def Argument.draft (library : List Char) : Argument → Draft → Draft
  | .schema schema, draft => schema.draft library draft
  | .schemas schemas, draft => (Schema.draftAll library schemas (draft.add ['['])).add [']']
  | .shape [], draft => draft.add ['{', '}']
  | .shape entries, draft =>
    (ShapeEntry.draftAll library entries (draft.add ['{', '\n']).enter).leave.indent.add ['}']
  | .mask [], draft => draft.add ['{', '}']
  | .mask keys, draft => ((draft.add ['{', ' ']).add (writeMask keys)).add [' ', '}']
  | .literal literal, draft => draft.add literal.write
  | .number text, draft => draft.add text.toList
  | .pattern pattern, draft => draft.add pattern.literal

def Schema.draftAll (library : List Char) : List Schema → Draft → Draft
  | [], draft => draft
  | [schema], draft => schema.draft library draft
  | schema :: others, draft =>
    Schema.draftAll library others ((schema.draft library draft).add [',', ' '])

def ShapeEntry.draftAll (library : List Char) : List ShapeEntry → Draft → Draft
  | [], draft => draft
  | [entry], draft => (entry.draft library draft).add ['\n']
  | entry :: others, draft =>
    ShapeEntry.draftAll library others (((entry.draft library draft).add [',']).add ['\n'])

def ShapeEntry.draft (library : List Char) : ShapeEntry → Draft → Draft
  | ⟨key, none, schema⟩, draft =>
    schema.draft library ((draft.indent.add (writeKey key)).add [':', ' '])
  | ⟨key, some comment, schema⟩, draft =>
    schema.draft library (((draft.comment comment).indent.add (writeKey key)).add [':', ' '])

end

namespace Draft

@[simp] theorem add_level (draft : Draft) (more : List Char) : (draft.add more).level = draft.level :=
  rfl

@[simp] theorem add_nil (draft : Draft) : draft.add [] = draft := by
  rw [add, List.append_nil]

@[simp] theorem add_add (draft : Draft) (first second : List Char) :
    (draft.add first).add second = draft.add (first ++ second) := by
  simp only [add, List.append_assoc]

@[simp] theorem enter_level (draft : Draft) : draft.enter.level = draft.level + 1 := rfl

@[simp] theorem leave_enter_add (draft : Draft) (more : List Char) :
    (draft.enter.add more).leave = draft.add more := rfl

theorem commentLines_eq (first : Bool) (lines : List (List Char)) (draft : Draft) :
    draft.commentLines first lines =
      draft.add (DocComment.layoutLines (indentation draft.level) first lines) := by
  induction lines generalizing first draft with
  | nil => exact draft.add_nil.symm
  | cons line others induction =>
      rw [commentLines, induction]
      simp [indent, DocComment.layoutLines, DocComment.layoutLine]

@[simp] theorem comment_eq (text : String) (draft : Draft) :
    draft.comment text = draft.add (DocComment.layout (indentation draft.level) text) :=
  draft.commentLines_eq true _

end Draft

variable {library : List Char}

/-! Lists of two items or more, which are written with something between the items. -/

section

variable {level : Nat}

theorem Call.writeArguments_cons_cons (argument next : Argument) (others : List Argument) :
    writeArguments library level (argument :: next :: others) =
      argument.write library level ++ ',' :: ' ' :: writeArguments library level (next :: others) :=
  rfl

theorem Schema.writeAll_cons_cons (schema next : Schema) (others : List Schema) :
    writeAll library level (schema :: next :: others) =
      schema.write library level ++ ',' :: ' ' :: writeAll library level (next :: others) :=
  rfl

theorem ShapeEntry.writeAll_cons_cons (entry next : ShapeEntry) (others : List ShapeEntry) :
    writeAll library level (entry :: next :: others) =
      entry.write library level ++ ',' :: '\n' :: writeAll library level (next :: others) :=
  rfl

end

mutual

/-- What is added to a draft is the expression at the level of the draft, and the level stays. -/
theorem Schema.draft_eq (schema : Schema) (draft : Draft) :
    schema.draft library draft = draft.add (schema.write library draft.level) := by
  match schema with
  | ⟨base, chain⟩ =>
      rw [Schema.draft, base.draft_eq, Schema.draftChain_eq chain, Schema.write]
      simp

theorem SchemaBase.draft_eq (base : SchemaBase) (draft : Draft) :
    base.draft library draft = draft.add (base.write library draft.level) := by
  match base with
  | .call call =>
      rw [SchemaBase.draft, call.draft_eq, SchemaBase.write]
      simp
  | .reference identifier => rw [SchemaBase.draft, SchemaBase.write]

theorem Schema.draftChain_eq (chain : List Call) (draft : Draft) :
    Schema.draftChain library chain draft =
      draft.add (Schema.writeChain library draft.level chain) := by
  match chain with
  | [] => exact draft.add_nil.symm
  | call :: others =>
      rw [Schema.draftChain, call.draft_eq, Schema.draftChain_eq others, Schema.writeChain]
      simp

theorem Call.draft_eq (call : Call) (draft : Draft) :
    call.draft library draft = draft.add (call.write library draft.level) := by
  match call with
  | ⟨name, arguments⟩ =>
      rw [Call.draft, Call.draftArguments_eq arguments, Call.write]
      simp

theorem Call.draftArguments_eq (arguments : List Argument) (draft : Draft) :
    Call.draftArguments library arguments draft =
      draft.add (Call.writeArguments library draft.level arguments) := by
  match arguments with
  | [] => exact draft.add_nil.symm
  | [argument] => rw [Call.draftArguments, argument.draft_eq, Call.writeArguments]
  | argument :: next :: more =>
      rw [Call.draftArguments, argument.draft_eq, Call.draftArguments_eq (next :: more),
        Call.writeArguments_cons_cons]
      · simp
      · exact List.cons_ne_nil next more

theorem Argument.draft_eq (argument : Argument) (draft : Draft) :
    argument.draft library draft = draft.add (argument.write library draft.level) := by
  match argument with
  | .schema schema => rw [Argument.draft, schema.draft_eq, Argument.write]
  | .schemas schemas =>
      rw [Argument.draft, Schema.draftAll_eq schemas, Argument.write]
      simp
  | .shape [] => rw [Argument.draft, Argument.write]
  | .shape (entry :: others) =>
      rw [Argument.draft, Argument.write, ShapeEntry.draftAll_eq (entry :: others)]
      · simp [Draft.indent]
      · exact List.cons_ne_nil entry others
      · exact List.cons_ne_nil entry others
  | .mask [] => rw [Argument.draft, Argument.write]
  | .mask (key :: others) =>
      rw [Argument.draft, Argument.write]
      · simp
      · exact List.cons_ne_nil key others
      · exact List.cons_ne_nil key others
  | .literal literal => rw [Argument.draft, Argument.write]
  | .number text => rw [Argument.draft, Argument.write]
  | .pattern pattern => rw [Argument.draft, Argument.write]

theorem Schema.draftAll_eq (schemas : List Schema) (draft : Draft) :
    Schema.draftAll library schemas draft =
      draft.add (Schema.writeAll library draft.level schemas) := by
  match schemas with
  | [] => exact draft.add_nil.symm
  | [schema] => rw [Schema.draftAll, schema.draft_eq, Schema.writeAll]
  | schema :: next :: more =>
      rw [Schema.draftAll, schema.draft_eq, Schema.draftAll_eq (next :: more),
        Schema.writeAll_cons_cons]
      · simp
      · exact List.cons_ne_nil next more

theorem ShapeEntry.draftAll_eq (entries : List ShapeEntry) (draft : Draft) :
    ShapeEntry.draftAll library entries draft =
      draft.add (ShapeEntry.writeAll library draft.level entries) := by
  match entries with
  | [] => exact draft.add_nil.symm
  | [entry] =>
      rw [ShapeEntry.draftAll, entry.draft_eq, ShapeEntry.writeAll]
      simp
  | entry :: next :: more =>
      rw [ShapeEntry.draftAll, entry.draft_eq, ShapeEntry.draftAll_eq (next :: more),
        ShapeEntry.writeAll_cons_cons]
      · simp
      · exact List.cons_ne_nil next more

theorem ShapeEntry.draft_eq (entry : ShapeEntry) (draft : Draft) :
    entry.draft library draft = draft.add (entry.write library draft.level) := by
  match entry with
  | ⟨key, none, schema⟩ =>
      rw [ShapeEntry.draft, schema.draft_eq, ShapeEntry.write]
      simp [Draft.indent]
  | ⟨key, some comment, schema⟩ =>
      rw [ShapeEntry.draft, schema.draft_eq, ShapeEntry.write]
      simp [Draft.indent]

end

/-- A draft that starts with nothing ends with the source text of the expression. -/
theorem Schema.draft_start (library : String) (schema : Schema) :
    schema.draft library.toList ⟨[], 0⟩ = ⟨(schema.render library).toList, 0⟩ := by
  rw [schema.draft_eq, Schema.render, String.toList_ofList]
  rfl

end TypeSchema
