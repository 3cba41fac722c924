import Mathlib.Logic.Relation
import TypeSchema.TypeNode

/-!
Induction on types. The types inside a type stand in lists, members and spans; a property of all of
these is a hypothesis of each step.
-/

namespace TypeSchema

variable {motive : TypeNode → Prop}

/-- Induction on a type, one case for each form, with the types directly inside. -/
@[induction_eliminator]
theorem TypeNode.induct
    (primitive : ∀ keyword, motive (.primitive keyword))
    (literal : ∀ value, motive (.literal value))
    (reference : ∀ name, motive (.reference name))
    (array : ∀ element, motive element → motive (.array element))
    (tuple : ∀ elements, (∀ element ∈ elements, motive element) → motive (.tuple elements))
    (object : ∀ members signature, (∀ member ∈ members, motive member.type) →
      (∀ index ∈ signature, motive index.key ∧ motive index.value) →
      motive (.object ⟨members, signature⟩))
    (union : ∀ parts, (∀ part ∈ parts, motive part) → motive (.union parts))
    (intersection : ∀ parts, (∀ part ∈ parts, motive part) → motive (.intersection parts))
    (generic : ∀ name arguments, (∀ argument ∈ arguments, motive argument) →
      motive (.generic name arguments))
    (template : ∀ head spans, (∀ span ∈ spans, motive span.type) → motive (.template ⟨head, spans⟩))
    (parenthesized : ∀ inner, motive inner → motive (.parenthesized inner))
    (node : TypeNode) : motive node := by
  refine @TypeNode.rec motive
    (fun body => motive (.object body))
    (fun member => motive member.type)
    (fun index => motive index.key ∧ motive index.value)
    (fun text => motive (.template text))
    (fun span => motive span.type)
    (fun nodes => ∀ node ∈ nodes, motive node)
    (fun members => ∀ member ∈ members, motive member.type)
    (fun signature => ∀ index ∈ signature, motive index.key ∧ motive index.value)
    (fun spans => ∀ span ∈ spans, motive span.type)
    primitive literal reference array tuple (fun _ body => body) union intersection generic
    (fun _ text => text) parenthesized object (fun _ _ _ _ _ type => type)
    (fun _ _ key value => ⟨key, value⟩) template (fun _ _ type => type)
    ?_ ?_ ?_ ?_ ?_ ?_ ?_ ?_ node
  · simp only [List.not_mem_nil, false_implies, implies_true]
  · exact fun _ _ head tail => List.forall_mem_cons.mpr ⟨head, tail⟩
  · simp only [List.not_mem_nil, false_implies, implies_true]
  · exact fun _ _ head tail => List.forall_mem_cons.mpr ⟨head, tail⟩
  · simp only [Option.not_mem_none, false_implies, implies_true]
  · intro index both other member
    obtain rfl := Option.mem_some.mp member
    exact both
  · simp only [List.not_mem_nil, false_implies, implies_true]
  · exact fun _ _ head tail => List.forall_mem_cons.mpr ⟨head, tail⟩

namespace TypeNode

/-- The types directly inside a type. -/
inductive PartOf : TypeNode → TypeNode → Prop
  | element (element : TypeNode) : PartOf element (.array element)
  | component {elements : List TypeNode} {element : TypeNode} (listed : element ∈ elements) :
      PartOf element (.tuple elements)
  | memberType {members : List Member} {signature : Option IndexSignature} {member : Member}
      (listed : member ∈ members) : PartOf member.type (.object ⟨members, signature⟩)
  | indexKey {members : List Member} {signature : Option IndexSignature} {index : IndexSignature}
      (given : index ∈ signature) : PartOf index.key (.object ⟨members, signature⟩)
  | indexValue {members : List Member} {signature : Option IndexSignature} {index : IndexSignature}
      (given : index ∈ signature) : PartOf index.value (.object ⟨members, signature⟩)
  | unionPart {parts : List TypeNode} {part : TypeNode} (listed : part ∈ parts) :
      PartOf part (.union parts)
  | intersectionPart {parts : List TypeNode} {part : TypeNode} (listed : part ∈ parts) :
      PartOf part (.intersection parts)
  | argument {name : String} {arguments : List TypeNode} {argument : TypeNode}
      (listed : argument ∈ arguments) : PartOf argument (.generic name arguments)
  | hole {head : String} {spans : List TemplateSpan} {span : TemplateSpan} (listed : span ∈ spans) :
      PartOf span.type (.template ⟨head, spans⟩)
  | inner (inner : TypeNode) : PartOf inner (.parenthesized inner)

theorem parts_induct (step : ∀ node : TypeNode, (∀ part : TypeNode, part.PartOf node → motive part) →
    motive node) (node : TypeNode) : motive node := by
  induction node with
  | primitive keyword => exact step _ nofun
  | literal value => exact step _ nofun
  | reference name => exact step _ nofun
  | array element induction =>
      apply step
      rintro _ ⟨⟩
      exact induction
  | tuple elements induction =>
      apply step
      rintro _ ⟨⟩
      exact induction _ ‹_›
  | object members signature memberInduction indexInduction =>
      apply step
      intro part inside
      cases inside with
      | memberType listed => exact memberInduction _ listed
      | indexKey given => exact (indexInduction _ given).1
      | indexValue given => exact (indexInduction _ given).2
  | union parts induction =>
      apply step
      rintro _ ⟨⟩
      exact induction _ ‹_›
  | intersection parts induction =>
      apply step
      rintro _ ⟨⟩
      exact induction _ ‹_›
  | generic name arguments induction =>
      apply step
      rintro _ ⟨⟩
      exact induction _ ‹_›
  | template head spans induction =>
      apply step
      rintro _ ⟨⟩
      exact induction _ ‹_›
  | parenthesized inner induction =>
      apply step
      rintro _ ⟨⟩
      exact induction

/-- A type inside another at any depth, or that type itself. -/
def Inside : TypeNode → TypeNode → Prop :=
  Relation.ReflTransGen PartOf

end TypeNode

end TypeSchema
