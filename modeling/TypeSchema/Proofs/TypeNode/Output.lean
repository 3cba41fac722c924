import TypeSchema.Proofs.TypeNode.Atoms
import TypeSchema.Proofs.TypeNode.Grammar

/-!
The form of the schemas that compiling gives: what they start with, which calls follow, and where
`optional` is one of these calls. It is called on the schemas of optional members alone.
-/

namespace TypeSchema

mutual

inductive Schema.Emitted : Schema → Prop
  | mk {base : SchemaBase} {chain : List Call} (starts : base.Emitted)
      (follows : ∀ call ∈ chain, call.Emitted) : Schema.Emitted ⟨base, chain⟩

inductive SchemaBase.Emitted : SchemaBase → Prop
  | reference (identifier : String) : SchemaBase.Emitted (.reference identifier)
  | keyword (keyword : Primitive) : SchemaBase.Emitted (.call (.bare keyword.keyword))
  | literal (value : Literal) : SchemaBase.Emitted (.call ⟨"literal", [.literal value]⟩)
  | array {element : Schema} (emitted : element.Emitted) :
      SchemaBase.Emitted (.call ⟨"array", [.schema element]⟩)
  | record {value : Schema} (emitted : value.Emitted) :
      SchemaBase.Emitted (.call ⟨"record", [.schema value]⟩)
  | tuple {elements : List Schema} (emitted : ∀ element ∈ elements, element.Emitted) :
      SchemaBase.Emitted (.call ⟨"tuple", [.schemas elements]⟩)
  | union {parts : List Schema} (several : 2 ≤ parts.length)
      (emitted : ∀ part ∈ parts, part.Emitted) :
      SchemaBase.Emitted (.call ⟨"union", [.schemas parts]⟩)
  | object {entries : List ShapeEntry} (emitted : ∀ entry ∈ entries, entry.Emitted) :
      SchemaBase.Emitted (.call ⟨"object", [.shape entries]⟩)

/-- A call that follows, `optional` aside. -/
inductive Call.Emitted : Call → Prop
  | and {other : Schema} (emitted : other.Emitted) : Call.Emitted ⟨"and", [.schema other]⟩
  | allOptional : Call.Emitted (.bare "partial")
  | allRequired : Call.Emitted (.bare "required")
  | pickKeys (keys : List String) : Call.Emitted ⟨"pick", [.mask keys]⟩
  | omitKeys (keys : List String) : Call.Emitted ⟨"omit", [.mask keys]⟩
  | refinement {call : Call} (refines : call.Refines) : Call.Emitted call

/-- An entry of an object. If `optional` is called on its schema, this is the last call. -/
inductive ShapeEntry.Emitted : ShapeEntry → Prop
  | required {key : String} {comment : Option String} {schema : Schema}
      (emitted : schema.Emitted) : ShapeEntry.Emitted ⟨key, comment, schema⟩
  | optional {key : String} {comment : Option String} {schema : Schema}
      (emitted : schema.Emitted) : ShapeEntry.Emitted ⟨key, comment, schema.optional⟩

end

theorem Call.Emitted.name_ne_optional {call : Call} (emitted : call.Emitted) :
    call.name ≠ "optional" := by
  cases emitted with
  | and => exact (by decide : "and" ≠ "optional")
  | allOptional => exact (by decide : "partial" ≠ "optional")
  | allRequired => exact (by decide : "required" ≠ "optional")
  | pickKeys => exact (by decide : "pick" ≠ "optional")
  | omitKeys => exact (by decide : "omit" ≠ "optional")
  | refinement refines => exact refines.name_ne (by decide)

namespace Schema

variable {schema other : Schema}

theorem emitted_ofCall {name : String} {arguments : List Argument}
    (starts : SchemaBase.Emitted (.call ⟨name, arguments⟩)) : (ofCall name arguments).Emitted :=
  .mk starts fun _ listed => absurd listed List.not_mem_nil

theorem Emitted.chainedAll {calls : List Call} (emitted : schema.Emitted)
    (follows : ∀ call ∈ calls, call.Emitted) : (schema.chainedAll calls).Emitted := by
  obtain ⟨starts, chain⟩ := emitted
  exact .mk starts (List.forall_mem_append.mpr ⟨chain, follows⟩)

theorem Emitted.chained {call : Call} (emitted : schema.Emitted) (follows : call.Emitted) :
    (schema.chained call).Emitted :=
  emitted.chainedAll (List.forall_mem_singleton.mpr follows)

theorem Emitted.and (emitted : schema.Emitted) (also : other.Emitted) :
    (schema.and other).Emitted :=
  emitted.chained (.and also)

theorem Emitted.refined (emitted : schema.Emitted) (directives : List Directive) :
    (schema.chainedAll (Directive.refinements directives)).Emitted := by
  refine emitted.chainedAll ?_
  intro call listed
  exact .refinement (Directive.refinements_refine directives call listed)

theorem Emitted.not_optional (emitted : schema.Emitted) : "optional" ∉ schema.methods := by
  obtain ⟨-, chain⟩ := emitted
  intro listed
  obtain ⟨call, isChained, named⟩ := List.mem_map.mp listed
  exact (chain call isChained).name_ne_optional named

theorem methods_optional (schema : Schema) :
    schema.optional.methods = schema.methods ++ ["optional"] := by
  rw [methods, optional, chained, List.map_append]
  rfl

/-- The entries of all objects in a schema, from left to right. -/
def entries (schema : Schema) : List ShapeEntry :=
  schema.atoms.filterMap Atom.member?

end Schema

/-- A member and what it becomes: the schema of its type with the calls that its directives add, then
`optional` if the member is optional, and only then. -/
structure Member.Becomes (member : Member) (entry : ShapeEntry) : Prop where
  key : entry.key = member.key
  comment : entry.comment = member.comment
  schema : ∃ schema, member.type.compile = .ok schema ∧ entry.schema.base = schema.base ∧
    entry.schema.chain = schema.chain ++ Directive.refinements member.directives ++
      if member.optional then [.bare "optional"] else []
  optional : entry.schema.methods.count "optional" = if member.optional then 1 else 0

namespace TypeNode

/-- The members of all object types in a type, from left to right. -/
def members (node : TypeNode) : List Member :=
  node.atoms.filterMap Atom.member?

theorem emitted_entry (member : Member) {schema : Schema} (emitted : schema.Emitted) :
    (member.entry schema).Emitted := by
  have refined := emitted.refined member.directives
  simp only [Member.entry]
  split
  · exact .optional refined
  · exact .required refined

theorem emitted_objectOf {part : TypeNode → Schema → Prop} {members : List Member}
    {entries : List ShapeEntry} (each : ∀ node schema, part node schema → schema.Emitted)
    (shape : List.Forall₂ (BuildsEntry part) members entries) :
    (Schema.objectOf entries).Emitted := by
  refine Schema.emitted_ofCall (.object (forall_of_forall₂ shape ?_))
  rintro member _ ⟨schema, built, rfl⟩
  exact emitted_entry member (each member.type schema built)

theorem emitted_of_compile {node : TypeNode} {schema : Schema}
    (compiled : node.compile = .ok schema) : schema.Emitted := by
  refine compile_induct (motive := fun _ schema => schema.Emitted) ?_ compiled
  intro node schema built
  have each : ∀ (inside : TypeNode) (schema : Schema),
      (inside.PartOf node ∧ inside.compile = .ok schema ∧ schema.Emitted) → schema.Emitted :=
    fun _ _ part => part.2.2
  cases built with
  | primitive keyword => exact Schema.emitted_ofCall (.keyword keyword)
  | literal value => exact Schema.emitted_ofCall (.literal value)
  | reference name => exact .mk (.reference _) fun _ listed => absurd listed List.not_mem_nil
  | array built => exact Schema.emitted_ofCall (.array built.2.2)
  | tuple built => exact Schema.emitted_ofCall (.tuple (forall_of_forall₂ built each))
  | object shape => exact emitted_objectOf each shape
  | index built => exact Schema.emitted_ofCall (.record built.2.2)
  | indexAndMembers built shape =>
      have record : (Schema.recordOf _).Emitted := Schema.emitted_ofCall (.record built.2.2)
      exact record.and (emitted_objectOf each shape)
  | onlyPart built => exact built.2.2
  | @union first second others schemas built =>
      have several : 2 ≤ schemas.length := by
        rw [← built.length_eq, List.length_cons, List.length_cons]
        omega
      exact Schema.emitted_ofCall (.union several (forall_of_forall₂ built each))
  | intersection built more =>
      have others := forall_of_forall₂ more each
      exact List.foldlRecOn _ _ built.2.2 fun _ folded schema listed =>
        folded.and (others schema listed)
  | arrayOf built => exact Schema.emitted_ofCall (.array built.2.2)
  | record built => exact Schema.emitted_ofCall (.record built.2.2)
  | allOptional built => exact built.2.2.chained .allOptional
  | allRequired built => exact built.2.2.chained .allRequired
  | allReadonly built => exact built.2.2
  | pickKeys built => exact built.2.2.chained (.pickKeys _)
  | omitKeys built => exact built.2.2.chained (.omitKeys _)
  | template made =>
      have string : (Schema.bare "string").Emitted := Schema.emitted_ofCall (.keyword .string)
      exact string.chained (.refinement (.pattern (TemplateLiteral.pattern_settled made)))
  | parenthesized built => exact built.2.2

theorem Makes.becomes {member : Member} {entry : ShapeEntry} (makes : Makes member entry) :
    member.Becomes entry := by
  obtain ⟨schema, compiled, rfl⟩ := makes
  have chained := Member.entry_schema member schema
  refine ⟨rfl, rfl, ⟨schema, compiled, ?_, ?_⟩, ?_⟩
  · rw [chained, Schema.chainedAll]
  · rw [chained, Schema.chainedAll, Member.calls, List.append_assoc]
  · -- A schema of a type never calls `optional`, and neither do directives.
    have absent := ((emitted_of_compile compiled).refined member.directives).not_optional
    have none := List.count_eq_zero.mpr absent
    cases optional : member.optional with
    | false => simp [Member.entry, optional, none]
    | true => simp [Member.entry, optional, Schema.methods_optional, none]

theorem output_of_compile {node : TypeNode} {schema : Schema}
    (compiled : node.compile = .ok schema) :
    schema.Emitted ∧ List.Forall₂ Member.Becomes node.members schema.entries := by
  have same : List.Forall₂ (Atom.Rel Makes) node.atoms schema.atoms := sameAtoms_of_compile compiled
  refine ⟨emitted_of_compile compiled, List.rel_filterMap ?_ same⟩
  intro atom other pair
  cases pair with
  | member makes => exact .some makes.becomes
  | _ => exact .none

theorem output_of_nested_objects :
    let inner : Member := ⟨"b", true, .parenthesized (.primitive .number), none, [⟨"min", "1"⟩]⟩
    let outer : Member :=
      ⟨"a", false, .array (.object ⟨[inner], none⟩), some "/** @email */", [⟨"email", ""⟩]⟩
    let node : TypeNode :=
      .union [.object ⟨[outer], some ⟨.primitive .string, .reference "Hero"⟩⟩, .primitive .null]
    ∃ schema, node.compile = .ok schema ∧ schema.Emitted ∧ node.members = [outer, inner] ∧
      List.Forall₂ Member.Becomes [outer, inner] schema.entries := by
  intro inner outer node
  have compiled : ∃ schema, node.compile = .ok schema := ⟨_, rfl⟩
  obtain ⟨schema, compiled⟩ := compiled
  obtain ⟨emitted, becomes⟩ := output_of_compile compiled
  exact ⟨schema, compiled, emitted, rfl, becomes⟩

end TypeNode

end TypeSchema
