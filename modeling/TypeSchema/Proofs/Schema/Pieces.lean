import TypeSchema.Proofs.TypeNode.Atoms
import TypeSchema.Schema.Render

/-!
Source text in pieces. Comments and numbers are written as they were given, everything else is made or
quoted by the writer. The main statement is that the comments and the number literals of the text are
those of the schema, in order, and that all other numbers are bounds.
-/

namespace TypeSchema

/-- A text that is written as it was given, layout aside. -/
inductive GivenText where
  | comment (text : String)
  | number (text : String)
deriving DecidableEq

/-- A stretch of source text. -/
inductive Piece where
  | code (text : List Char)
  /-- The comment before a member at a level. -/
  | comment (level : Nat) (text : String)
  /-- A number literal. -/
  | number (text : String)
  /-- The number in a refinement. -/
  | bound (text : String)
deriving DecidableEq

namespace Piece

def text : Piece → List Char
  | code text => text
  | comment level text => DocComment.layout (indentation level) text
  | number text => text.toList
  | bound text => text.toList

def given? : Piece → Option GivenText
  | comment _ text => some (.comment text)
  | number text => some (.number text)
  | _ => none

/-- Any number in a refinement is a bound. -/
def Bounded : Piece → Prop
  | bound text => IsBound text
  | _ => True

end Piece

/-- The text that an atom gives, the comment of a member by `comment?`. -/
def Atom.given? {Entry : Type} (comment? : Entry → Option String) : Atom Entry → Option GivenText
  | .member entry => (comment? entry).map .comment
  | .literal (.number text) => some (.number text)
  | _ => none

/-! The pieces of a schema, as it is written. -/

mutual

def Schema.pieces (library : List Char) (level : Nat) : Schema → List Piece
  | ⟨base, chain⟩ => base.pieces library level ++ Schema.chainPieces library level chain

def SchemaBase.pieces (library : List Char) (level : Nat) : SchemaBase → List Piece
  | .call call => .code (library ++ ['.']) :: call.pieces library level
  | .reference identifier => [.code identifier.toList]

def Schema.chainPieces (library : List Char) (level : Nat) : List Call → List Piece
  | [] => []
  | call :: others =>
    .code ['.'] :: call.pieces library level ++ Schema.chainPieces library level others

def Call.pieces (library : List Char) (level : Nat) : Call → List Piece
  | ⟨name, arguments⟩ =>
    .code (name.toList ++ ['(']) :: Call.argumentPieces library level arguments ++ [.code [')']]

def Call.argumentPieces (library : List Char) (level : Nat) : List Argument → List Piece
  | [] => []
  | [argument] => argument.pieces library level
  | argument :: others =>
    argument.pieces library level ++ .code [',', ' '] ::
      Call.argumentPieces library level others

def Argument.pieces (library : List Char) (level : Nat) : Argument → List Piece
  | .schema schema => schema.pieces library level
  | .schemas schemas =>
    .code ['['] :: Schema.allPieces library level schemas ++ [.code [']']]
  | .shape [] => [.code ['{', '}']]
  | .shape entries =>
    .code ['{', '\n'] :: ShapeEntry.allPieces library (level + 1) entries ++
      [.code (indentation level ++ ['}'])]
  | .literal (.number text) => [.number text]
  | .number text => [.bound text]
  | argument => [.code (argument.write library level)]

def Schema.allPieces (library : List Char) (level : Nat) : List Schema → List Piece
  | [] => []
  | [schema] => schema.pieces library level
  | schema :: others =>
    schema.pieces library level ++ .code [',', ' '] :: Schema.allPieces library level others

def ShapeEntry.allPieces (library : List Char) (level : Nat) : List ShapeEntry → List Piece
  | [] => []
  | [entry] => entry.pieces library level ++ [.code ['\n']]
  | entry :: others =>
    entry.pieces library level ++ .code [',', '\n'] ::
      ShapeEntry.allPieces library level others

def ShapeEntry.pieces (library : List Char) (level : Nat) : ShapeEntry → List Piece
  | ⟨key, comment, schema⟩ =>
    (comment.map (.comment level)).toList ++
      .code (indentation level ++ writeKey key ++ [':', ' ']) :: schema.pieces library level

end

/-- Pieces of a text in which stand the texts that atoms give, in order. -/
structure PiecesOf (pieces : List Piece) (text : List Char) (atoms : List (Atom ShapeEntry)) : Prop where
  text : pieces.flatMap Piece.text = text
  given : pieces.filterMap Piece.given? = atoms.filterMap (Atom.given? (·.comment))
  bounded : ∀ piece ∈ pieces, piece.Bounded

namespace PiecesOf

variable {pieces more : List Piece} {text others : List Char} {atoms later : List (Atom ShapeEntry)}

theorem nil : PiecesOf [] [] [] :=
  ⟨rfl, rfl, fun _ listed => absurd listed List.not_mem_nil⟩

theorem append (before : PiecesOf pieces text atoms) (after : PiecesOf more others later) :
    PiecesOf (pieces ++ more) (text ++ others) (atoms ++ later) where
  text := by rw [List.flatMap_append, before.text, after.text]
  given := by rw [List.filterMap_append, List.filterMap_append, before.given, after.given]
  bounded := List.forall_mem_append.mpr ⟨before.bounded, after.bounded⟩

theorem code (text : List Char) : PiecesOf [.code text] text [] :=
  ⟨List.append_nil text, rfl, List.forall_mem_singleton.mpr trivial⟩

theorem cons (text : List Char) (after : PiecesOf more others later) :
    PiecesOf (.code text :: more) (text ++ others) later :=
  (code text).append after

/-- Atoms that give no text may stand before the others. -/
theorem silent (made : PiecesOf pieces text atoms) {quiet : List (Atom ShapeEntry)}
    (none : quiet.filterMap (Atom.given? (·.comment)) = []) :
    PiecesOf pieces text (quiet ++ atoms) where
  text := made.text
  given := by rw [List.filterMap_append, none, List.nil_append, made.given]
  bounded := made.bounded

end PiecesOf

variable {library : List Char} {level : Nat}

theorem ShapeEntry.piecesOf (key : String) (comment : Option String) {schema : Schema}
    (inside : PiecesOf (schema.pieces library level) (schema.write library level) schema.atoms) :
    PiecesOf (ShapeEntry.pieces library level ⟨key, comment, schema⟩)
      (ShapeEntry.write library level ⟨key, comment, schema⟩)
      (.member ⟨key, comment, schema⟩ :: schema.atoms) := by
  have commented : PiecesOf (comment.map (.comment level)).toList
      (comment.elim [] (DocComment.layout (indentation level)))
      [.member ⟨key, comment, schema⟩] := by
    cases comment with
    | none => exact ⟨rfl, rfl, fun _ listed => absurd listed List.not_mem_nil⟩
    | some text => exact ⟨List.append_nil _, rfl, List.forall_mem_singleton.mpr trivial⟩
  have keyed := inside.cons (indentation level ++ writeKey key ++ [':', ' '])
  have whole := commented.append keyed
  rw [ShapeEntry.write, ShapeEntry.pieces]
  simpa only [List.append_assoc, List.cons_append, List.nil_append] using whole

theorem ShapeEntry.all_piecesOf {entries : List ShapeEntry}
    (each : ∀ entry ∈ entries, PiecesOf (entry.schema.pieces library level)
      (entry.schema.write library level) entry.schema.atoms) :
    PiecesOf (ShapeEntry.allPieces library level entries) (ShapeEntry.writeAll library level entries)
      (ShapeEntry.atomsAll entries) := by
  induction entries with
  | nil => exact .nil
  | cons entry others induction =>
      obtain ⟨key, comment, schema⟩ := entry
      obtain ⟨head, tail⟩ := List.forall_mem_cons.mp each
      have first := ShapeEntry.piecesOf key comment head
      cases others with
      | nil => exact first.append (.code ['\n'])
      | cons next more => exact first.append ((induction tail).cons [',', '\n'])

theorem Schema.all_piecesOf {schemas : List Schema}
    (each : ∀ schema ∈ schemas,
      PiecesOf (schema.pieces library level) (schema.write library level) schema.atoms) :
    PiecesOf (Schema.allPieces library level schemas) (Schema.writeAll library level schemas)
      (Schema.atomsAll schemas) := by
  induction schemas with
  | nil => exact .nil
  | cons schema others induction =>
      obtain ⟨head, tail⟩ := List.forall_mem_cons.mp each
      cases others with
      | nil =>
          rw [Schema.atomsAll, Schema.atomsAll, List.append_nil]
          exact head
      | cons next more => exact head.append ((induction tail).cons [',', ' '])

theorem Argument.shape_piecesOf {entries : List ShapeEntry}
    (each : ∀ entry ∈ entries, PiecesOf (entry.schema.pieces library (level + 1))
      (entry.schema.write library (level + 1)) entry.schema.atoms) :
    PiecesOf (Argument.pieces library level (.shape entries))
      (Argument.write library level (.shape entries)) (ShapeEntry.atomsAll entries) := by
  cases entries with
  | nil => exact .code ['{', '}']
  | cons entry others =>
      have opened := (ShapeEntry.all_piecesOf each).cons ['{', '\n']
      have closed := opened.append (.code (indentation level ++ ['}']))
      rw [List.append_nil, ← List.append_assoc] at closed
      exact closed

theorem Call.piecesOf {name : String} {arguments : List Argument}
    (inside : PiecesOf (Call.argumentPieces library level arguments)
      (Call.writeArguments library level arguments) (Argument.atomsAll arguments)) :
    PiecesOf (Call.pieces library level ⟨name, arguments⟩) (Call.write library level ⟨name, arguments⟩)
      (Argument.atomsAll arguments) := by
  have closed := (inside.cons (name.toList ++ ['('])).append (.code [')'])
  rw [List.append_nil, List.append_assoc name.toList] at closed
  exact closed

theorem Schema.chain_piecesOf {chain : List Call}
    (each : ∀ call ∈ chain,
      PiecesOf (call.pieces library level) (call.write library level)
        (Argument.atomsAll call.arguments)) :
    PiecesOf (Schema.chainPieces library level chain) (Schema.writeChain library level chain)
      (Call.chainAtoms chain) := by
  induction chain with
  | nil => exact .nil
  | cons call others induction =>
      obtain ⟨name, arguments⟩ := call
      obtain ⟨head, tail⟩ := List.forall_mem_cons.mp each
      have quiet : (if name = "and" then [] else [Atom.call ⟨name, arguments⟩]).filterMap
          (Atom.given? ShapeEntry.comment) = [] := by
        split <;> rfl
      exact ((head.cons ['.']).silent quiet).append (induction tail)

theorem Schema.piecesOf_call {call : Call} {chain : List Call}
    (base : PiecesOf (call.pieces library level) (call.write library level)
      (Argument.atomsAll call.arguments))
    (more : PiecesOf (Schema.chainPieces library level chain) (Schema.writeChain library level chain)
      (Call.chainAtoms chain)) :
    PiecesOf (Schema.pieces library level ⟨.call call, chain⟩)
      (Schema.write library level ⟨.call call, chain⟩) (Schema.atoms ⟨.call call, chain⟩) := by
  obtain ⟨name, arguments⟩ := call
  have quiet : ((Primitive.ofKeyword? name).map Atom.primitive).toList.filterMap
      (Atom.given? ShapeEntry.comment) = [] := by
    cases Primitive.ofKeyword? name <;> rfl
  have named := base.cons (library ++ ['.'])
  rw [List.append_assoc] at named
  exact (named.silent quiet).append more

/-- An argument that stands alone between its parentheses. -/
theorem Argument.piecesOf_alone {argument : Argument} {atoms : List (Atom ShapeEntry)}
    (made : PiecesOf (argument.pieces library level) (argument.write library level) atoms)
    (same : argument.atoms = atoms) :
    PiecesOf (Call.argumentPieces library level [argument])
      (Call.writeArguments library level [argument]) (Argument.atomsAll [argument]) := by
  rw [Argument.atomsAll, same, Argument.atomsAll, List.append_nil]
  exact made

theorem Argument.piecesOf_literal (value : Literal) :
    PiecesOf (Argument.pieces library level (.literal value))
      (Argument.write library level (.literal value)) [.literal value] := by
  cases value with
  | number text => exact ⟨List.append_nil _, rfl, List.forall_mem_singleton.mpr trivial⟩
  | string text => exact ⟨List.append_nil _, rfl, List.forall_mem_singleton.mpr trivial⟩
  | boolean value => exact ⟨List.append_nil _, rfl, List.forall_mem_singleton.mpr trivial⟩

/-- Any literals and any comments. -/
def Vocabulary.unrestricted : Vocabulary where
  literal _ := True
  comment _ := True

mutual

theorem Schema.Formed.piecesOf {schema : Schema} (formed : schema.Formed .unrestricted) (level : Nat) :
    PiecesOf (schema.pieces library level) (schema.write library level) schema.atoms := by
  match formed with
  | .mk (.call constructs) chainFormed =>
      have chain := Schema.chain_piecesOf fun call listed => (chainFormed call listed).piecesOf level
      exact Schema.piecesOf_call (constructs.piecesOf level) chain
  | .mk (.reference declared) chainFormed =>
      have chain := Schema.chain_piecesOf fun call listed => (chainFormed call listed).piecesOf level
      have named : PiecesOf [.code (Name.schemaName declared).toList] (Name.schemaName declared).toList
          [.reference (Name.schemaName declared)] :=
        ⟨List.append_nil _, rfl, List.forall_mem_singleton.mpr trivial⟩
      exact named.append chain

theorem Call.Formed.piecesOf {table : List (String × ArgumentForm)} {call : Call}
    (formed : call.Formed .unrestricted table) (level : Nat) :
    PiecesOf (call.pieces library level) (call.write library level)
      (Argument.atomsAll call.arguments) := by
  match formed with
  | .mk known fit => exact Call.piecesOf (fit.piecesOf level)

theorem Argument.Fit.piecesOf {form : ArgumentForm} {arguments : List Argument}
    (fit : Argument.Fit .unrestricted form arguments) (level : Nat) :
    PiecesOf (Call.argumentPieces library level arguments)
      (Call.writeArguments library level arguments) (Argument.atomsAll arguments) := by
  match fit with
  | .nothing => exact .nil
  | .schema formed => exact Argument.piecesOf_alone (formed.piecesOf level) rfl
  | .schemas formed =>
      have inside := Schema.all_piecesOf fun schema listed => (formed schema listed).piecesOf level
      have closed := (inside.cons ['[']).append (.code [']'])
      rw [List.append_nil] at closed
      exact Argument.piecesOf_alone closed rfl
  | .shape comments formed =>
      have inside := Argument.shape_piecesOf fun entry listed =>
        (formed entry listed).piecesOf (level + 1)
      exact Argument.piecesOf_alone inside rfl
  | .mask [] => exact Argument.piecesOf_alone (.code _) rfl
  | .mask (key :: keys) => exact Argument.piecesOf_alone (.code _) rfl
  | @Argument.Fit.literal _ value _ =>
      exact Argument.piecesOf_alone (Argument.piecesOf_literal value) rfl
  | .number bound =>
      have shown : PiecesOf (Argument.pieces library level (.number _))
          (Argument.write library level (.number _)) [] :=
        ⟨List.append_nil _, rfl, List.forall_mem_singleton.mpr bound⟩
      exact Argument.piecesOf_alone shown rfl
  | .pattern ends => exact Argument.piecesOf_alone (.code _) rfl

end

end TypeSchema
