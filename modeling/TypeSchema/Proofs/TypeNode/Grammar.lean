import TypeSchema.Proofs.Pattern
import TypeSchema.Proofs.Schema.Grammar
import TypeSchema.Proofs.TypeNode.Construction

/-!
Every schema that a type has is of the grammar of generated schemas.
-/

namespace TypeSchema

/-- The literals and the comments of the members inside a type are of a vocabulary. -/
structure Vocabulary.Covers (vocabulary : Vocabulary) (node : TypeNode) : Prop where
  literals : ∀ value, (TypeNode.literal value).Inside node → vocabulary.literal value
  comments : ∀ members signature, (TypeNode.object ⟨members, signature⟩).Inside node →
    ∀ member ∈ members, vocabulary.comment member.comment

variable {vocabulary : Vocabulary}

theorem Vocabulary.Covers.part {node part : TypeNode} (covers : vocabulary.Covers node)
    (inside : part.PartOf node) : vocabulary.Covers part where
  literals value within := covers.literals value (within.tail inside)
  comments members signature within := covers.comments members signature (within.tail inside)

/-- The pattern of a template ends in no backslash that escapes what follows. -/
theorem TemplateLiteral.pattern_settled {template : TemplateLiteral} {pattern : Pattern}
    (made : template.pattern = .ok pattern) :
    Refinement.endsPending pattern.source.toList = false := by
  rw [Refinement.endsPending, Text.odd_backslashes_eq_endsEscaped]
  exact TemplateLiteral.pattern_ends made

namespace TypeNode

theorem entry_formed (member : Member) {schema : Schema} (formed : schema.Formed vocabulary) :
    (member.entry schema).schema.Formed vocabulary := by
  have refined := formed.chainedAll fun call listed =>
    (Directive.refinements_refine member.directives call listed).formed
  simp only [Member.entry]
  split
  · exact refined.optional
  · exact refined

theorem shape_formed {part : TypeNode → Schema → Prop} {members : List Member}
    {entries : List ShapeEntry} (comments : ∀ member ∈ members, vocabulary.comment member.comment)
    (each : ∀ node schema, part node schema → schema.Formed vocabulary)
    (shape : List.Forall₂ (BuildsEntry part) members entries) :
    (Schema.objectOf entries).Formed vocabulary := by
  have formed : ∀ entry ∈ entries,
      vocabulary.comment entry.comment ∧ entry.schema.Formed vocabulary := by
    refine forall_of_forall₂ ((List.forall₂_and_left _ _).mpr ⟨comments, shape⟩) ?_
    rintro member _ ⟨comment, schema, built, rfl⟩
    exact ⟨comment, entry_formed member (each member.type schema built)⟩
  exact Schema.formed_ofCall rfl (.shape (fun entry listed => (formed entry listed).1)
    (fun entry listed => (formed entry listed).2))

theorem formed_of_compile {node : TypeNode} {schema : Schema} (covers : vocabulary.Covers node)
    (compiled : node.compile = .ok schema) : schema.Formed vocabulary := by
  revert covers
  refine compile_induct (motive := fun node schema =>
    vocabulary.Covers node → schema.Formed vocabulary) ?_ compiled
  intro node schema built covers
  have each : ∀ (inside : TypeNode) (schema : Schema), (inside.PartOf node ∧
      inside.compile = .ok schema ∧ (vocabulary.Covers inside → schema.Formed vocabulary)) →
      schema.Formed vocabulary := fun _ _ ⟨isPart, _, formed⟩ => formed (covers.part isPart)
  cases built with
  | primitive keyword =>
      exact Schema.formed_ofCall (SchemaLibrary.constructors_primitive keyword) .nothing
  | literal value => exact Schema.formed_ofCall rfl (.literal (covers.literals value .refl))
  | reference name => exact .mk (.reference name) fun _ member => absurd member List.not_mem_nil
  | array built => exact Schema.formed_ofCall rfl (.schema (each _ _ built))
  | tuple built => exact Schema.formed_ofCall rfl (.schemas (forall_of_forall₂ built each))
  | object shape => exact shape_formed (covers.comments _ _ .refl) each shape
  | index built => exact Schema.formed_ofCall rfl (.schema (each _ _ built))
  | indexAndMembers built shape =>
      have record : (Schema.recordOf _).Formed vocabulary :=
        Schema.formed_ofCall rfl (.schema (each _ _ built))
      exact record.and (shape_formed (covers.comments _ _ .refl) each shape)
  | onlyPart built => exact each _ _ built
  | union built => exact Schema.formed_ofCall rfl (.schemas (forall_of_forall₂ built each))
  | intersection built more =>
      have others := forall_of_forall₂ more each
      exact List.foldlRecOn _ _ (each _ _ built) fun _ formed schema listed =>
        formed.and (others schema listed)
  | arrayOf built => exact Schema.formed_ofCall rfl (.schema (each _ _ built))
  | record built => exact Schema.formed_ofCall rfl (.schema (each _ _ built))
  | allOptional built => exact (each _ _ built).chained (.mk rfl .nothing)
  | allRequired built => exact (each _ _ built).chained (.mk rfl .nothing)
  | allReadonly built => exact each _ _ built
  | pickKeys built => exact (each _ _ built).chained (.mk rfl (.mask _))
  | omitKeys built => exact (each _ _ built).chained (.mk rfl (.mask _))
  | template made =>
      have string : (Schema.bare "string").Formed vocabulary := Schema.formed_ofCall rfl .nothing
      exact string.chained (Call.Refines.pattern (TemplateLiteral.pattern_settled made)).formed
  | parenthesized built => exact each _ _ built

end TypeNode

end TypeSchema
