import TypeSchema.Proofs.DocComment.Layout
import TypeSchema.Proofs.Schema.Details
import TypeSchema.Proofs.Schema.Draft
import TypeSchema.Proofs.Schema.Lines

/-!
Schema expressions at a level. If no name or number in an expression breaks the line, the expression is
written at every level as it is at the left margin, with the blanks of the level after each line feed.
-/

namespace TypeSchema

open Text

/-- A text with the blanks of a level after each line feed. -/
def shifted (level : Nat) (text : List Char) : List Char :=
  text.flatMap fun c => if c = '\n' then '\n' :: indentation level else [c]

/-- What an expression has of its source and writes unquoted stands on one line. -/
def Detail.OnOneLine : Detail → Prop
  | .callee name => '\n' ∉ name.toList
  | .reference identifier => '\n' ∉ identifier.toList
  | .literal (.number text) => '\n' ∉ text.toList
  | .number text => '\n' ∉ text.toList
  | _ => True

instance : DecidablePred Detail.OnOneLine
  | .callee name => inferInstanceAs (Decidable ('\n' ∉ name.toList))
  | .reference identifier => inferInstanceAs (Decidable ('\n' ∉ identifier.toList))
  | .literal (.number text) => inferInstanceAs (Decidable ('\n' ∉ text.toList))
  | .number text => inferInstanceAs (Decidable ('\n' ∉ text.toList))
  | .literal (.string _) | .literal (.boolean _) | .member .. | .mask _ | .pattern _ =>
    inferInstanceAs (Decidable True)

section

variable {level : Nat}

@[simp] theorem shifted_nil : shifted level [] = [] := rfl

@[simp] theorem shifted_append (first second : List Char) :
    shifted level (first ++ second) = shifted level first ++ shifted level second :=
  List.flatMap_append

@[simp] theorem shifted_cons {c : Char} (onLine : c ≠ '\n') (text : List Char) :
    shifted level (c :: text) = c :: shifted level text := by
  rw [shifted, List.flatMap_cons, if_neg onLine]
  rfl

@[simp] theorem shifted_feed (text : List Char) :
    shifted level ('\n' :: text) = '\n' :: (indentation level ++ shifted level text) := rfl

theorem shifted_oneLine {text : List Char} (oneLine : '\n' ∉ text) : shifted level text = text := by
  induction text with
  | nil => rfl
  | cons c rest induction =>
      rw [List.mem_cons, not_or] at oneLine
      rw [shifted_cons (Ne.symm oneLine.1), induction oneLine.2]

end

theorem shifted_indentation (level more : Nat) :
    shifted more (indentation level) = indentation level :=
  shifted_oneLine (indentation_oneLine level)

/-- Further levels come before the blanks of a level as well as after them. -/
theorem indentation_add (level more : Nat) :
    indentation (level + more) = indentation more ++ indentation level := by
  rw [indentation, indentation, indentation, List.replicate_append_replicate]
  congr 1
  omega

namespace DocComment

theorem layoutLines_shifted (level more : Nat) (first : Bool) {lines : List (List Char)}
    (oneLine : ∀ line ∈ lines, '\n' ∉ line) :
    layoutLines (indentation (level + more)) first lines ++ indentation more =
      indentation more ++ shifted more (layoutLines (indentation level) first lines) := by
  induction lines generalizing first with
  | nil => exact (List.append_nil _).symm
  | cons line others induction =>
      obtain ⟨head, tail⟩ := List.forall_mem_cons.mp oneLine
      have trimmed : '\n' ∉ trim line := fun listed => head ((trim_sublist line).subset listed)
      have margin : '\n' ∉ (if !first && (trim line).head? == some '*' then [' '] else []) := by
        split <;> decide
      rw [layoutLines, layoutLines, layoutLine, layoutLine, List.append_assoc, induction false tail,
        indentation_add]
      simp only [shifted_append, shifted_feed, shifted_oneLine trimmed,
        shifted_oneLine margin, shifted_indentation, List.append_assoc, List.cons_append,
        List.nil_append]

theorem layout_shifted (level more : Nat) (comment : String) :
    layout (indentation (level + more)) comment ++ indentation more =
      indentation more ++ shifted more (layout (indentation level) comment) :=
  layoutLines_shifted level more true (lines_oneLine _)

end DocComment

theorem writeMask_oneLine (keys : List String) : '\n' ∉ writeMask keys := by
  induction keys with
  | nil => exact List.not_mem_nil
  | cons key others induction =>
      cases others with
      | nil =>
          rw [writeMask]
          exact List.not_mem_append (quote_oneLine _) (by decide)
      | cons next more =>
          rw [writeMask]
          · refine List.not_mem_append (List.not_mem_append (quote_oneLine _) (by decide)) induction
          · exact List.cons_ne_nil next more

theorem Literal.write_oneLine {value : Literal} (oneLine : (Detail.literal value).OnOneLine) :
    '\n' ∉ value.write := by
  cases value with
  | string text => exact quote_oneLine _
  | number text => exact oneLine
  | boolean value => cases value <;> decide

variable {library : List Char}

mutual

theorem Schema.write_shifted (named : '\n' ∉ library) (schema : Schema)
    (oneLine : ∀ detail ∈ schema.details, detail.OnOneLine) (level more : Nat) :
    schema.write library (level + more) = shifted more (schema.write library level) := by
  match schema with
  | ⟨base, chain⟩ =>
      obtain ⟨baseLine, chainLine⟩ := List.forall_mem_append.mp oneLine
      rw [Schema.write, Schema.write, base.write_shifted named baseLine,
        Schema.writeChain_shifted named chain chainLine, shifted_append]

theorem SchemaBase.write_shifted (named : '\n' ∉ library) (base : SchemaBase)
    (oneLine : ∀ detail ∈ base.details, detail.OnOneLine) (level more : Nat) :
    base.write library (level + more) = shifted more (base.write library level) := by
  match base with
  | .call call =>
      rw [SchemaBase.write, SchemaBase.write, call.write_shifted named oneLine]
      simp [shifted_oneLine named]
  | .reference identifier =>
      exact (shifted_oneLine (oneLine _ List.mem_cons_self)).symm

theorem Schema.writeChain_shifted (named : '\n' ∉ library) (chain : List Call)
    (oneLine : ∀ detail ∈ Call.detailsAll chain, detail.OnOneLine) (level more : Nat) :
    Schema.writeChain library (level + more) chain =
      shifted more (Schema.writeChain library level chain) := by
  match chain with
  | [] => rfl
  | call :: others =>
      obtain ⟨callLine, othersLine⟩ := List.forall_mem_append.mp oneLine
      rw [Schema.writeChain, Schema.writeChain, call.write_shifted named callLine,
        Schema.writeChain_shifted named others othersLine]
      simp

theorem Call.write_shifted (named : '\n' ∉ library) (call : Call)
    (oneLine : ∀ detail ∈ call.details, detail.OnOneLine) (level more : Nat) :
    call.write library (level + more) = shifted more (call.write library level) := by
  match call with
  | ⟨name, arguments⟩ =>
      obtain ⟨nameLine, argumentsLine⟩ := List.forall_mem_cons.mp oneLine
      rw [Call.write, Call.write, Call.writeArguments_shifted named arguments argumentsLine]
      simp [shifted_oneLine nameLine]

theorem Call.writeArguments_shifted (named : '\n' ∉ library) (arguments : List Argument)
    (oneLine : ∀ detail ∈ Argument.detailsAll arguments, detail.OnOneLine) (level more : Nat) :
    Call.writeArguments library (level + more) arguments =
      shifted more (Call.writeArguments library level arguments) := by
  match arguments with
  | [] => rfl
  | [argument] =>
      exact argument.write_shifted named (List.forall_mem_append.mp oneLine).1 level more
  | argument :: next :: others =>
      obtain ⟨argumentLine, othersLine⟩ := List.forall_mem_append.mp oneLine
      rw [Call.writeArguments_cons_cons, Call.writeArguments_cons_cons,
        argument.write_shifted named argumentLine,
        Call.writeArguments_shifted named (next :: others) othersLine]
      simp

theorem Argument.write_shifted (named : '\n' ∉ library) (argument : Argument)
    (oneLine : ∀ detail ∈ argument.details, detail.OnOneLine) (level more : Nat) :
    argument.write library (level + more) = shifted more (argument.write library level) := by
  match argument with
  | .schema schema => exact schema.write_shifted named oneLine level more
  | .schemas schemas =>
      rw [Argument.write, Argument.write, Schema.writeAll_shifted named schemas oneLine]
      simp
  | .shape [] => rfl
  | .shape (entry :: others) =>
      have inside := ShapeEntry.writeAll_shifted named (entry :: others) oneLine (level + 1) more
      rw [Argument.write, Argument.write, indentation_add, Nat.add_right_comm level more 1,
        ← List.append_assoc _ (indentation more)]
      · simp only [List.cons_append, inside]
        simp [shifted_indentation]
      · exact List.cons_ne_nil entry others
      · exact List.cons_ne_nil entry others
  | .mask [] => rfl
  | .mask (key :: others) =>
      rw [Argument.write, Argument.write]
      · simp [shifted_oneLine (writeMask_oneLine (key :: others))]
      · exact List.cons_ne_nil key others
      · exact List.cons_ne_nil key others
  | .literal literal =>
      exact (shifted_oneLine (Literal.write_oneLine (oneLine _ List.mem_cons_self))).symm
  | .number text => exact (shifted_oneLine (oneLine _ List.mem_cons_self)).symm
  | .pattern pattern => exact (shifted_oneLine (Pattern.literal_oneLine pattern)).symm

theorem Schema.writeAll_shifted (named : '\n' ∉ library) (schemas : List Schema)
    (oneLine : ∀ detail ∈ Schema.detailsAll schemas, detail.OnOneLine) (level more : Nat) :
    Schema.writeAll library (level + more) schemas =
      shifted more (Schema.writeAll library level schemas) := by
  match schemas with
  | [] => rfl
  | [schema] => exact schema.write_shifted named (List.forall_mem_append.mp oneLine).1 level more
  | schema :: next :: others =>
      obtain ⟨schemaLine, othersLine⟩ := List.forall_mem_append.mp oneLine
      rw [Schema.writeAll_cons_cons, Schema.writeAll_cons_cons,
        schema.write_shifted named schemaLine,
        Schema.writeAll_shifted named (next :: others) othersLine]
      simp

theorem ShapeEntry.writeAll_shifted (named : '\n' ∉ library) (entries : List ShapeEntry)
    (oneLine : ∀ detail ∈ ShapeEntry.detailsAll entries, detail.OnOneLine) (level more : Nat) :
    ShapeEntry.writeAll library (level + more) entries ++ indentation more =
      indentation more ++ shifted more (ShapeEntry.writeAll library level entries) := by
  match entries with
  | [] => exact (List.append_nil _).symm
  | [entry] =>
      have entryLine := (List.forall_mem_append.mp oneLine).1
      rw [ShapeEntry.writeAll, ShapeEntry.writeAll, entry.write_shifted named entryLine]
      simp
  | entry :: next :: others =>
      obtain ⟨entryLine, othersLine⟩ := List.forall_mem_append.mp oneLine
      have tail := ShapeEntry.writeAll_shifted named (next :: others) othersLine level more
      rw [ShapeEntry.writeAll_cons_cons, ShapeEntry.writeAll_cons_cons,
        entry.write_shifted named entryLine, List.append_assoc, List.cons_append, List.cons_append,
        tail]
      simp

theorem ShapeEntry.write_shifted (named : '\n' ∉ library) (entry : ShapeEntry)
    (oneLine : ∀ detail ∈ entry.details, detail.OnOneLine) (level more : Nat) :
    entry.write library (level + more) = indentation more ++ shifted more (entry.write library level) := by
  match entry with
  | ⟨key, comment, schema⟩ =>
      have schemaLine := (List.forall_mem_cons.mp oneLine).2
      have commented : comment.elim [] (DocComment.layout (indentation (level + more))) ++
            indentation more =
          indentation more ++
            shifted more (comment.elim [] (DocComment.layout (indentation level))) := by
        cases comment with
        | none => exact (List.append_nil _).symm
        | some text => exact DocComment.layout_shifted level more text
      rw [ShapeEntry.write, ShapeEntry.write, schema.write_shifted named schemaLine]
      nth_rewrite 2 [indentation_add]
      rw [← List.append_assoc _ (indentation more), commented]
      simp [shifted_indentation, shifted_oneLine (writeKey_oneLine key)]

end

theorem commaSeparated_congr {α : Type} {gap : Char} {first second : α → List Char} {items : List α}
    (same : ∀ item ∈ items, first item = second item) :
    commaSeparated gap first items = commaSeparated gap second items := by
  cases items with
  | nil => rfl
  | cons item others =>
      obtain ⟨head, tail⟩ := List.forall_mem_cons.mp same
      rw [commaSeparated_cons, commaSeparated_cons, head]
      congr 1
      exact List.flatMap_congr fun other listed => by rw [tail other listed]

/-- A schema expression at a level, as it is written on its own with its lines moved in. -/
def Schema.placed (library : String) (level : Nat) (schema : Schema) : List Char :=
  shifted level (schema.render library).toList

/-- A member of an object at a level: its comment, its key and its schema as they are written at the left
margin, with their lines moved in. -/
def ShapeEntry.placed (library : String) (level : Nat) (entry : ShapeEntry) : List Char :=
  indentation level ++ shifted level (entry.write library.toList 0)

/-- An argument at a level, made of its parts as they are written on their own. -/
def Argument.placed (library : String) (level : Nat) : Argument → List Char
  | .schema part => part.placed library level
  | .schemas parts => '[' :: commaSeparated ' ' (Schema.placed library level) parts ++ [']']
  | .shape [] => ['{', '}']
  | .shape entries =>
    '{' :: '\n' :: commaSeparated '\n' (ShapeEntry.placed library (level + 1)) entries ++
      '\n' :: indentation level ++ ['}']
  | argument => argument.write library.toList 0

section

variable {library : String} (named : '\n' ∉ library.toList)

include named

theorem Schema.write_eq_placed (schema : Schema)
    (oneLine : ∀ detail ∈ schema.details, detail.OnOneLine) (level : Nat) :
    schema.write library.toList level = schema.placed library level := by
  have law := schema.write_shifted named oneLine 0 level
  rwa [Nat.zero_add, ← String.toList_ofList (l := schema.write library.toList 0)] at law

theorem ShapeEntry.write_eq_placed (entry : ShapeEntry)
    (oneLine : ∀ detail ∈ entry.details, detail.OnOneLine) (level : Nat) :
    entry.write library.toList level = entry.placed library level := by
  have law := entry.write_shifted named oneLine 0 level
  rwa [Nat.zero_add] at law

theorem Argument.write_eq_placed (argument : Argument)
    (oneLine : ∀ detail ∈ argument.details, detail.OnOneLine) (level : Nat) :
    argument.write library.toList level = argument.placed library level := by
  match argument with
  | .schema part => exact part.write_eq_placed named oneLine level
  | .schemas parts =>
      rw [Argument.details, Schema.detailsAll_eq_flatMap, List.forall_mem_flatMap] at oneLine
      have placed : commaSeparated ' ' (Schema.write library.toList level) parts =
          commaSeparated ' ' (Schema.placed library level) parts :=
        commaSeparated_congr fun part listed =>
          part.write_eq_placed named (oneLine part listed) level
      rw [Argument.write, Argument.placed, Schema.writeAll_eq, placed]
  | .shape [] => rfl
  | .shape (entry :: others) =>
      rw [Argument.details, ShapeEntry.detailsAll_eq_flatMap, List.forall_mem_flatMap] at oneLine
      have placed : commaSeparated '\n' (ShapeEntry.write library.toList (level + 1))
            (entry :: others) =
          commaSeparated '\n' (ShapeEntry.placed library (level + 1)) (entry :: others) :=
        commaSeparated_congr fun entry listed =>
          entry.write_eq_placed named (oneLine entry listed) (level + 1)
      rw [Argument.write, Argument.placed, ShapeEntry.writeAll_eq, placed]
      · simp
      · exact List.cons_ne_nil entry others
      · exact List.cons_ne_nil entry others
  | .mask [] => rfl
  | .mask (key :: others) => rfl
  | .literal _ => rfl
  | .number _ => rfl
  | .pattern _ => rfl

end

theorem Schema.writeChain_append {level : Nat} (chain others : List Call) :
    writeChain library level (chain ++ others) =
      writeChain library level chain ++ writeChain library level others := by
  induction chain with
  | nil => rfl
  | cons call more induction =>
      rw [List.cons_append, writeChain, writeChain, induction, List.append_assoc]

theorem Schema.write_and {level : Nat} (left right : Schema) :
    (left.and right).write library level =
      left.write library level ++ ".and(".toList ++ right.write library level ++ [')'] := by
  obtain ⟨base, chain⟩ := left
  simp [Schema.and, chained, Schema.write, writeChain_append, writeChain, Call.write,
    Call.writeArguments, Argument.write]

/-- An expression adds to a draft what it is written as on its own, with the blanks of the draft's level
after each line feed, and leaves the level as it was. So it is with the parts of an argument and with
both operands of an intersection. -/
theorem Schema.draft_eq_shifted {library : String} (named : '\n' ∉ library.toList) :
    (∀ (schema : Schema) (draft : Draft), (∀ detail ∈ schema.details, detail.OnOneLine) →
      schema.draft library.toList draft =
        ⟨draft.text ++ shifted draft.level (schema.draft library.toList ⟨[], 0⟩).text,
          draft.level⟩) ∧
    (∀ (argument : Argument) (draft : Draft), (∀ detail ∈ argument.details, detail.OnOneLine) →
      argument.draft library.toList draft = draft.add (argument.placed library draft.level)) ∧
    ∀ (left right : Schema) (draft : Draft),
      (∀ detail ∈ (left.and right).details, detail.OnOneLine) →
      (left.and right).draft library.toList draft =
        draft.add (left.placed library draft.level ++ ".and(".toList ++
          right.placed library draft.level ++ [')']) := by
  refine ⟨fun schema draft oneLine => ?_, fun argument draft oneLine => ?_,
    fun left right draft oneLine => ?_⟩
  · rw [schema.draft_eq, schema.write_eq_placed named oneLine, schema.draft_start]
    rfl
  · rw [argument.draft_eq, argument.write_eq_placed named oneLine]
  · rw [details_and] at oneLine
    obtain ⟨leftLine, othersLine⟩ := List.forall_mem_append.mp oneLine
    have rightLine := (List.forall_mem_cons.mp othersLine).2
    rw [Schema.draft_eq, Schema.write_and, left.write_eq_placed named leftLine,
      right.write_eq_placed named rightLine]

theorem Schema.draft_eq_shifted_commented :
    let hero : Schema := .objectOf [⟨"name", some "/** The name.\n*/", .bare "string"⟩]
    '\n' ∉ "z".toList ∧ (∀ detail ∈ hero.details, detail.OnOneLine) ∧
      hero.draft "z".toList ⟨[], 2⟩ =
        ⟨shifted 2 "z.object(\x7b\n    /** The name.\n     */\n    name: z.string()\n\x7d)".toList,
          2⟩ := by
  intro hero
  have oneLine : ∀ detail ∈ hero.details, detail.OnOneLine := by decide
  refine ⟨by decide, oneLine, ?_⟩
  exact ((Schema.draft_eq_shifted (by decide)).1 hero ⟨[], 2⟩ oneLine).trans (by decide +kernel)

/-- A call's name that breaks the line is written as it is, and what follows starts at the margin. -/
theorem Schema.draft_callee_twoLines :
    let broken : Schema := .bare "x\ny"
    '\n' ∉ "z".toList ∧ broken.details = [.callee "x\ny"] ∧
      broken.draft "z".toList ⟨[], 0⟩ = ⟨"z.x\ny()".toList, 0⟩ ∧
      broken.draft "z".toList ⟨[], 1⟩ ≠ ⟨shifted 1 "z.x\ny()".toList, 1⟩ ∧
      (Schema.objectOf [⟨"a", none, broken⟩]).render "z" =
        "z.object(\x7b\n    a: z.x\ny()\n\x7d)" := by
  decide +kernel

end TypeSchema
