import TypeSchema.Name
import TypeSchema.Refinement

/-!
The grammar of generated schemas: which constructors and methods of the schema library they call, and
with what arguments. What may be said about literals and comments is left open, as a vocabulary.
-/

namespace TypeSchema

/-- What a call takes between its parentheses. -/
inductive ArgumentForm where
  | nothing
  | schema
  | schemas
  | shape
  | mask
  | literal
  | number
  | pattern
deriving DecidableEq

namespace SchemaLibrary

def constructors : List (String × ArgumentForm) :=
  Primitive.all.map (fun keyword => (keyword.keyword, .nothing)) ++
    [("literal", .literal), ("array", .schema), ("record", .schema), ("tuple", .schemas),
      ("union", .schemas), ("object", .shape)]

def methods : List (String × ArgumentForm) :=
  [("and", .schema), ("partial", .nothing), ("required", .nothing), ("pick", .mask),
    ("omit", .mask), ("optional", .nothing), ("regex", .pattern), ("min", .number),
    ("max", .number), ("email", .nothing), ("url", .nothing), ("uuid", .nothing),
    ("cuid", .nothing), ("datetime", .nothing)]

theorem constructors_primitive (keyword : Primitive) :
    constructors.lookup keyword.keyword = some .nothing := by
  cases keyword <;> rfl

theorem constructor_ne_method {constructor method : String} {taken given : ArgumentForm}
    (constructs : constructors.lookup constructor = some taken)
    (isMethod : methods.lookup method = some given) : constructor ≠ method := by
  have apart : ∀ entry ∈ constructors, methods.lookup entry.1 = none := by decide
  rintro rfl
  obtain ⟨before, after, split, -⟩ := List.lookup_eq_some_iff.mp constructs
  have absent := apart (constructor, taken) (by rw [split]; simp)
  rw [isMethod] at absent
  cases absent

end SchemaLibrary

/-- What the literals and the comments of a schema may be. -/
structure Vocabulary where
  literal : Literal → Prop
  comment : Option String → Prop

/-- A bound that a directive may set: a number of finite size, or a length in its shortest form. -/
inductive IsBound : String → Prop
  | number {text : String} (finite : Text.isFiniteNumeral text.toList = true) : IsBound text
  | length (length : Nat) : IsBound (String.ofList (Nat.toDigits 10 length))

/-- A call that a directive may add. -/
inductive Call.Refines : Call → Prop
  | format {name : String} (listed : name ∈ ["email", "url", "uuid", "cuid", "datetime"]) :
      Call.Refines (.bare name)
  | pattern {pattern : Pattern} (ends : Refinement.endsPending pattern.source.toList = false) :
      Call.Refines ⟨"regex", [.pattern pattern]⟩
  | least {text : String} (bound : IsBound text) : Call.Refines ⟨"min", [.number text]⟩
  | most {text : String} (bound : IsBound text) : Call.Refines ⟨"max", [.number text]⟩

def Call.refinementNames : List String :=
  ["email", "url", "uuid", "cuid", "datetime"] ++ ["regex", "min", "max"]

theorem Call.Refines.name_ne {call : Call} {name : String} (refines : call.Refines)
    (other : name ∉ refinementNames) : call.name ≠ name := by
  rintro rfl
  apply other
  cases refines with
  | format listed => exact List.mem_append_left _ listed
  | pattern => exact (by decide : "regex" ∈ refinementNames)
  | least => exact (by decide : "min" ∈ refinementNames)
  | most => exact (by decide : "max" ∈ refinementNames)

mutual

inductive Schema.Formed (vocabulary : Vocabulary) : Schema → Prop
  | mk {base : SchemaBase} {chain : List Call} (baseFormed : base.Formed vocabulary)
      (chainFormed : ∀ call ∈ chain, call.Formed vocabulary SchemaLibrary.methods) :
      Schema.Formed vocabulary ⟨base, chain⟩

inductive SchemaBase.Formed (vocabulary : Vocabulary) : SchemaBase → Prop
  | call {call : Call} (formed : call.Formed vocabulary SchemaLibrary.constructors) :
      SchemaBase.Formed vocabulary (.call call)
  | reference (declared : String) :
      SchemaBase.Formed vocabulary (.reference (Name.schemaName declared))

/-- A call that a table knows, with the arguments that go with its name. -/
inductive Call.Formed (vocabulary : Vocabulary) : List (String × ArgumentForm) → Call → Prop
  | mk {table : List (String × ArgumentForm)} {name : String} {form : ArgumentForm}
      {arguments : List Argument} (known : table.lookup name = some form)
      (fit : Argument.Fit vocabulary form arguments) :
      Call.Formed vocabulary table ⟨name, arguments⟩

inductive Argument.Fit (vocabulary : Vocabulary) : ArgumentForm → List Argument → Prop
  | nothing : Argument.Fit vocabulary .nothing []
  | schema {schema : Schema} (formed : schema.Formed vocabulary) :
      Argument.Fit vocabulary .schema [.schema schema]
  | schemas {schemas : List Schema} (formed : ∀ schema ∈ schemas, schema.Formed vocabulary) :
      Argument.Fit vocabulary .schemas [.schemas schemas]
  | shape {entries : List ShapeEntry}
      (comments : ∀ entry ∈ entries, vocabulary.comment entry.comment)
      (formed : ∀ entry ∈ entries, entry.schema.Formed vocabulary) :
      Argument.Fit vocabulary .shape [.shape entries]
  | mask (keys : List String) : Argument.Fit vocabulary .mask [.mask keys]
  | literal {value : Literal} (allowed : vocabulary.literal value) :
      Argument.Fit vocabulary .literal [.literal value]
  | number {text : String} (bound : IsBound text) :
      Argument.Fit vocabulary .number [.number text]
  | pattern {pattern : Pattern} (ends : Refinement.endsPending pattern.source.toList = false) :
      Argument.Fit vocabulary .pattern [.pattern pattern]

end

variable {vocabulary : Vocabulary}

namespace Schema

theorem Formed.chainedAll {schema : Schema} {calls : List Call} (formed : schema.Formed vocabulary)
    (callsFormed : ∀ call ∈ calls, call.Formed vocabulary SchemaLibrary.methods) :
    (schema.chainedAll calls).Formed vocabulary := by
  obtain ⟨baseFormed, chainFormed⟩ := formed
  exact .mk baseFormed (List.forall_mem_append.mpr ⟨chainFormed, callsFormed⟩)

theorem Formed.chained {schema : Schema} {call : Call} (formed : schema.Formed vocabulary)
    (callFormed : call.Formed vocabulary SchemaLibrary.methods) :
    (schema.chained call).Formed vocabulary := by
  have callsFormed : ∀ other ∈ [call], other.Formed vocabulary SchemaLibrary.methods :=
    List.forall_mem_singleton.mpr callFormed
  exact formed.chainedAll callsFormed

theorem Formed.and {schema other : Schema} (formed : schema.Formed vocabulary)
    (otherFormed : other.Formed vocabulary) : (schema.and other).Formed vocabulary :=
  formed.chained (.mk rfl (.schema otherFormed))

theorem Formed.optional {schema : Schema} (formed : schema.Formed vocabulary) :
    schema.optional.Formed vocabulary :=
  formed.chained (.mk rfl .nothing)

theorem formed_ofCall {name : String} {form : ArgumentForm} {arguments : List Argument}
    (known : SchemaLibrary.constructors.lookup name = some form)
    (fit : Argument.Fit vocabulary form arguments) : (ofCall name arguments).Formed vocabulary :=
  .mk (.call (.mk known fit)) fun _ member => absurd member List.not_mem_nil

end Schema

theorem Call.Refines.formed {call : Call} (refines : call.Refines) :
    call.Formed vocabulary SchemaLibrary.methods := by
  cases refines with
  | format listed =>
      simp only [List.mem_cons, List.not_mem_nil, or_false] at listed
      rcases listed with rfl | rfl | rfl | rfl | rfl <;> exact .mk rfl .nothing
  | pattern ends => exact .mk rfl (.pattern ends)
  | least bound => exact .mk rfl (.number bound)
  | most bound => exact .mk rfl (.number bound)

namespace Refinement

variable {argument : List Char} {call : Call} {method : String}

theorem format_refines (adds : format? argument = some call) : call.Refines := by
  unfold format? at adds
  split at adds <;> cases adds <;> exact .format (by decide)

theorem pattern_refines (adds : pattern? argument = some call) : call.Refines := by
  obtain ⟨useful, made⟩ := Option.ite_none_left_eq_some.mp adds
  cases made
  simp only [Bool.or_eq_true, not_or, Bool.not_eq_true] at useful
  exact .pattern (by rw [String.toList_ofList]; exact useful.2)

theorem bound_isBound (adds : bound? method argument = some call) :
    ∃ text, IsBound text ∧ call = ⟨method, [.number text]⟩ := by
  obtain ⟨finite, made⟩ := Option.ite_none_right_eq_some.mp adds
  cases made
  exact ⟨_, .number (by rw [String.toList_ofList]; exact finite), rfl⟩

theorem lengthBound_isBound (adds : lengthBound? method argument = some call) :
    ∃ text, IsBound text ∧ call = ⟨method, [.number text]⟩ := by
  obtain ⟨length, -, rfl⟩ := Option.map_eq_some_iff.mp adds
  exact ⟨_, .length length, rfl⟩

theorem refines_least (bounded : ∃ text, IsBound text ∧ call = ⟨"min", [.number text]⟩) :
    call.Refines := by
  obtain ⟨text, bound, rfl⟩ := bounded
  exact .least bound

theorem refines_most (bounded : ∃ text, IsBound text ∧ call = ⟨"max", [.number text]⟩) :
    call.Refines := by
  obtain ⟨text, bound, rfl⟩ := bounded
  exact .most bound

theorem table_refines : ∀ entry ∈ table, ∀ argument call, entry.2 argument = some call →
    call.Refines := by
  simp only [table, List.forall_mem_cons]
  refine ⟨?_, ?_, ?_, ?_, ?_, ?_, ?_, ?_, fun _ member => absurd member List.not_mem_nil⟩
  · exact fun _ _ => format_refines
  · exact fun _ _ => pattern_refines
  · exact fun _ _ adds => refines_least (bound_isBound adds)
  · exact fun _ _ adds => refines_most (bound_isBound adds)
  · exact fun _ _ adds => refines_least (lengthBound_isBound adds)
  · exact fun _ _ adds => refines_most (lengthBound_isBound adds)
  · exact fun _ _ adds => refines_least (lengthBound_isBound adds)
  · exact fun _ _ adds => refines_most (lengthBound_isBound adds)

end Refinement

theorem Directive.refinements_refine (directives : List Directive) :
    ∀ call ∈ refinements directives, call.Refines := by
  intro call member
  obtain ⟨directive, -, adds⟩ := List.mem_filterMap.mp member
  obtain ⟨read, found, adds⟩ := Option.bind_eq_some_iff.mp adds
  obtain ⟨before, after, split, -⟩ := List.lookup_eq_some_iff.mp found
  exact Refinement.table_refines (directive.tag, read) (by rw [split]; simp) _ call adds

end TypeSchema
