import Mathlib.Data.List.Forall2
import TypeSchema.Schema.Render

/-!
The name of the schema library in source text. It stands before the constructors that a schema expression
calls, at any depth, and nowhere else; the text between two of its places is the same under every name.
-/

namespace TypeSchema

/-! The constructors that are called, in the order in which they are written. -/

mutual

def Schema.constructors : Schema → List String
  | ⟨base, chain⟩ => base.constructors ++ Call.constructorsAll chain

def SchemaBase.constructors : SchemaBase → List String
  | .call ⟨name, arguments⟩ => name :: Argument.constructorsAll arguments
  | .reference _ => []

/-- The constructors in the arguments of chained calls. -/
def Call.constructorsAll : List Call → List String
  | [] => []
  | ⟨_, arguments⟩ :: others => Argument.constructorsAll arguments ++ Call.constructorsAll others

def Argument.constructorsAll : List Argument → List String
  | [] => []
  | argument :: others => argument.constructors ++ Argument.constructorsAll others

def Argument.constructors : Argument → List String
  | .schema schema => schema.constructors
  | .schemas schemas => Schema.constructorsAll schemas
  | .shape entries => ShapeEntry.constructorsAll entries
  | .mask _ => []
  | .literal _ => []
  | .number _ => []
  | .pattern _ => []

def Schema.constructorsAll : List Schema → List String
  | [] => []
  | schema :: others => schema.constructors ++ Schema.constructorsAll others

def ShapeEntry.constructorsAll : List ShapeEntry → List String
  | [] => []
  | entry :: others => entry.constructors ++ ShapeEntry.constructorsAll others

def ShapeEntry.constructors : ShapeEntry → List String
  | ⟨_, _, schema⟩ => schema.constructors

end

/-- How the text after a place of the library's name goes on, by the constructor that is called. -/
def Calls (name : String) (text : List Char) : Prop :=
  '.' :: name.toList ++ ['('] <+: text

/-- A text, by the name of the library, with a place for that name before each of the constructors. -/
def Segmented (constructors : List String) (text : List Char → List Char) : Prop :=
  ∃ first later, List.Forall₂ Calls constructors later ∧
    ∀ library, text library = first ++ later.flatMap (library ++ ·)

/-- A text, by the name of the library, put together from fixed texts and the beginnings of constructor
calls. -/
inductive LibraryText : List String → (List Char → List Char) → Prop
  | fixed (text : List Char) : LibraryText [] fun _ => text
  | call (name : String) : LibraryText [name] fun library => library ++ '.' :: name.toList ++ ['(']
  | append {constructors more : List String} {text others : List Char → List Char}
      (before : LibraryText constructors text) (after : LibraryText more others) :
      LibraryText (constructors ++ more) fun library => text library ++ others library

namespace LibraryText

variable {constructors more : List String} {text others : List Char → List Char}

theorem prepend (made : LibraryText constructors text) (after : Segmented more others) :
    Segmented (constructors ++ more) fun library => text library ++ others library := by
  -- whatever comes after: of two parts, the second comes after the first
  induction made generalizing more others with
  | fixed text =>
      obtain ⟨first, later, calls, written⟩ := after
      exact ⟨text ++ first, later, calls, fun library => by
        simp only [written, List.append_assoc]⟩
  | call name =>
      obtain ⟨first, later, calls, written⟩ := after
      have here : Calls name ('.' :: name.toList ++ ['('] ++ first) := List.prefix_append _ first
      exact ⟨[], _, .cons here calls, fun library => by
        simp only [written, List.flatMap_cons, List.append_assoc, List.nil_append, List.cons_append]⟩
  | append _ _ before behind => simpa only [List.append_assoc] using before (behind after)

theorem segmented (made : LibraryText constructors text) : Segmented constructors text := by
  have whole := made.prepend ⟨[], [], .nil, fun _ => rfl⟩
  simpa only [List.flatMap_nil, List.append_nil] using whole

theorem opened (made : LibraryText constructors text) (opening : List Char) :
    LibraryText constructors fun library => opening ++ text library :=
  (fixed opening).append made

theorem closed (made : LibraryText constructors text) (closing : List Char) :
    LibraryText constructors fun library => text library ++ closing := by
  have whole := made.append (fixed closing)
  rwa [List.append_nil] at whole

end LibraryText

mutual

theorem Schema.libraryText (schema : Schema) (level : Nat) :
    LibraryText schema.constructors fun library => schema.write library level := by
  match schema with
  | ⟨base, chain⟩ => exact (base.libraryText level).append (Call.libraryText_chain chain level)

theorem SchemaBase.libraryText (base : SchemaBase) (level : Nat) :
    LibraryText base.constructors fun library => base.write library level := by
  match base with
  | .call ⟨name, arguments⟩ =>
      have whole := (LibraryText.call name).append
        ((Argument.libraryText_all arguments level).closed [')'])
      simpa [SchemaBase.write, Call.write, SchemaBase.constructors] using whole
  | .reference identifier => exact .fixed identifier.toList

theorem Call.libraryText_chain (chain : List Call) (level : Nat) :
    LibraryText (Call.constructorsAll chain) fun library => Schema.writeChain library level chain := by
  match chain with
  | [] => exact .fixed []
  | ⟨name, arguments⟩ :: others =>
      have method := ((Argument.libraryText_all arguments level).opened
        ('.' :: name.toList ++ ['('])).closed [')']
      have whole := method.append (Call.libraryText_chain others level)
      simpa [Schema.writeChain, Call.write, Call.constructorsAll] using whole

theorem Argument.libraryText_all (arguments : List Argument) (level : Nat) :
    LibraryText (Argument.constructorsAll arguments) fun library =>
      Call.writeArguments library level arguments := by
  match arguments with
  | [] => exact .fixed []
  | [argument] =>
      rw [Argument.constructorsAll, Argument.constructorsAll, List.append_nil]
      exact argument.libraryText level
  | argument :: next :: others =>
      exact (argument.libraryText level).append
        ((Argument.libraryText_all (next :: others) level).opened [',', ' '])

theorem Argument.libraryText (argument : Argument) (level : Nat) :
    LibraryText argument.constructors fun library => argument.write library level := by
  match argument with
  | .schema schema => exact schema.libraryText level
  | .schemas schemas => exact ((Schema.libraryText_all schemas level).opened ['[']).closed [']']
  | .shape [] => exact .fixed ['{', '}']
  | .shape (entry :: others) =>
      have entries := ShapeEntry.libraryText_all (entry :: others) (level + 1)
      exact ((entries.opened ['{', '\n']).closed (indentation level)).closed ['}']
  | .mask [] => exact .fixed ['{', '}']
  | .mask (key :: others) => exact .fixed ('{' :: ' ' :: writeMask (key :: others) ++ [' ', '}'])
  | .literal literal => exact .fixed literal.write
  | .number text => exact .fixed text.toList
  | .pattern pattern => exact .fixed pattern.literal

theorem Schema.libraryText_all (schemas : List Schema) (level : Nat) :
    LibraryText (Schema.constructorsAll schemas) fun library =>
      Schema.writeAll library level schemas := by
  match schemas with
  | [] => exact .fixed []
  | [schema] =>
      rw [Schema.constructorsAll, Schema.constructorsAll, List.append_nil]
      exact schema.libraryText level
  | schema :: next :: others =>
      exact (schema.libraryText level).append
        ((Schema.libraryText_all (next :: others) level).opened [',', ' '])

theorem ShapeEntry.libraryText_all (entries : List ShapeEntry) (level : Nat) :
    LibraryText (ShapeEntry.constructorsAll entries) fun library =>
      ShapeEntry.writeAll library level entries := by
  match entries with
  | [] => exact .fixed []
  | [entry] =>
      rw [ShapeEntry.constructorsAll, ShapeEntry.constructorsAll, List.append_nil]
      exact (entry.libraryText level).closed ['\n']
  | entry :: next :: others =>
      exact (entry.libraryText level).append
        ((ShapeEntry.libraryText_all (next :: others) level).opened [',', '\n'])

theorem ShapeEntry.libraryText (entry : ShapeEntry) (level : Nat) :
    LibraryText entry.constructors fun library => entry.write library level := by
  match entry with
  | ⟨key, comment, schema⟩ =>
      exact ((schema.libraryText level).opened [':', ' ']).opened
        (comment.elim [] (DocComment.layout (indentation level)) ++ indentation level ++ writeKey key)

end

end TypeSchema
