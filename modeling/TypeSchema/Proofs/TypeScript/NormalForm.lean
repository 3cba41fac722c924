import TypeSchema.Proofs.TypeNode.Check
import TypeSchema.Proofs.TypeScript.Bases
import TypeSchema.Proofs.TypeScript.Lowered
import TypeSchema.Proofs.TypeScript.Lowering

/-!
The normal form of the types that are read from a TypeScript source. A union or an intersection has
parts, none of which is one of its own kind; an array is never written as a name applied to a type,
nor a keyword as a name; and a member has a comment if it is a documentation comment, with the
directives of that comment and no others. So no such type fails to have a schema for want of parts.
-/

namespace TypeSchema

namespace TypeNode

def isIntersection : TypeNode → Bool
  | .intersection _ => true
  | _ => false

end TypeNode

/-- A member has neither a comment nor directives, or a documentation comment and its directives. -/
def Member.Documented (member : Member) : Prop :=
  (member.comment = none ∧ member.directives = []) ∨
    ∃ comment : String, member.comment = some comment ∧
      ['/', '*', '*'] <+: comment.toList ∧ member.directives = DocComment.directives comment

namespace TypeNode

/-- The normal form of a type, that of its parts aside. -/
def NormalAtTop : TypeNode → Prop
  | .union parts => parts ≠ [] ∧ ∀ part ∈ parts, part.isUnion = false
  | .intersection parts => parts ≠ [] ∧ ∀ part ∈ parts, part.isIntersection = false
  | .generic name arguments => ¬(name = "Array" ∧ arguments.length = 1)
  | .reference name => ∀ keyword : Primitive, keyword.keyword ≠ name
  | .object body => ∀ member ∈ body.members, member.Documented
  | _ => True

/-- The normal form of a type and of all types inside it, at any depth. -/
def Normal (node : TypeNode) : Prop :=
  ∀ part : TypeNode, part.Inside node → part.NormalAtTop

theorem normal_iff {node : TypeNode} :
    node.Normal ↔ node.NormalAtTop ∧ ∀ part : TypeNode, part.PartOf node → part.Normal := by
  constructor
  · intro normal
    exact ⟨normal node .refl, fun part isPart inner inside => normal inner (inside.tail isPart)⟩
  · rintro ⟨top, parts⟩ inner inside
    rcases Relation.ReflTransGen.cases_tail inside with same | ⟨part, within, isPart⟩
    · exact same ▸ top
    · exact parts part isPart inner within

/-! Types in normal form, by their parts. -/

theorem Normal.of_parts {node : TypeNode} (top : node.NormalAtTop)
    (parts : ∀ part : TypeNode, part.PartOf node → part.Normal) : node.Normal :=
  normal_iff.mpr ⟨top, parts⟩

theorem Normal.part {node part : TypeNode} (normal : node.Normal) (isPart : part.PartOf node) :
    part.Normal :=
  (normal_iff.mp normal).2 part isPart

theorem Normal.top {node : TypeNode} (normal : node.Normal) : node.NormalAtTop :=
  (normal_iff.mp normal).1

/-! A type in normal form never fails to have a schema because something in it has no parts. -/

/-- A check for parts that are there, or for something else. -/
def FindsParts : Check → Prop
  | .hasParts _ parts => parts ≠ []
  | _ => True

theorem FindsParts.fault_ne {check : Check} (finds : FindsParts check) {empty : Construct}
    (lacking : empty = .emptyUnion ∨ empty = .emptyIntersection) :
    check.fault? ≠ some (.unsupported empty) := by
  intro fault
  cases check with
  | hasParts missing parts =>
      have filled : parts.isEmpty = false := List.isEmpty_eq_false_iff.mpr finds
      rw [Check.fault?, filled] at fault
      cases fault
  | recordKey site key =>
      simp only [Check.fault?] at fault
      split at fault <;> cases fault
  | selectedKey utility inUnion leaf =>
      simp only [Check.fault?] at fault
      split at fault <;> cases fault
  | hole type =>
      simp only [Check.fault?] at fault
      split at fault
      · split at fault <;> cases fault
      · cases fault
  | application name count =>
      simp only [Check.fault?] at fault
      split at fault
      · cases fault
        simp at lacking
      · split at fault
        · cases fault
        · cases fault
          simp at lacking

theorem findsParts_checksAll {nodes : List TypeNode}
    (each : ∀ node ∈ nodes, ∀ check ∈ node.checks, FindsParts check) :
    ∀ check ∈ checksAll nodes, FindsParts check := by
  induction nodes with
  | nil => nofun
  | cons node others induction =>
      obtain ⟨head, tail⟩ := List.forall_mem_cons.mp each
      exact List.forall_mem_append.mpr ⟨head, induction tail⟩

theorem findsParts_memberChecks {members : List Member}
    (each : ∀ member ∈ members, ∀ check ∈ member.type.checks, FindsParts check) :
    ∀ check ∈ memberChecks members, FindsParts check := by
  induction members with
  | nil => nofun
  | cons member others induction =>
      obtain ⟨head, tail⟩ := List.forall_mem_cons.mp each
      obtain ⟨key, optional, type, comment, directives⟩ := member
      exact List.forall_mem_append.mpr ⟨head, induction tail⟩

theorem findsParts_selectionChecks (utility : Utility) (keys : TypeNode) :
    ∀ check ∈ selectionChecks utility keys, FindsParts check := by
  intro check listed
  obtain ⟨leaf, -, rfl⟩ := List.mem_map.mp listed
  trivial

theorem findsParts_generic (name : String) {arguments : List TypeNode}
    (each : ∀ argument ∈ arguments, ∀ check ∈ argument.checks, FindsParts check) :
    ∀ check ∈ (TypeNode.generic name arguments).checks, FindsParts check := by
  unfold checks
  refine List.forall_mem_cons.mpr ⟨trivial, ?_⟩
  split
  next element => exact each element (by simp)
  next key value => exact List.forall_mem_cons.mpr ⟨trivial, each value (by simp)⟩
  next inner => exact each inner (by simp)
  next inner => exact each inner (by simp)
  next inner => exact each inner (by simp)
  next inner keys =>
    exact List.forall_mem_append.mpr ⟨findsParts_selectionChecks _ _, each inner (by simp)⟩
  next inner keys =>
    exact List.forall_mem_append.mpr ⟨findsParts_selectionChecks _ _, each inner (by simp)⟩
  next => nofun

theorem Normal.findsParts {node : TypeNode} (normal : node.Normal) :
    ∀ check ∈ node.checks, FindsParts check := by
  induction node with
  | primitive keyword => nofun
  | literal value => nofun
  | reference name => nofun
  | array element induction => exact induction (normal.part (.element _))
  | tuple elements induction =>
      exact findsParts_checksAll fun element listed =>
        induction element listed (normal.part (.component listed))
  | object members signature memberInduction indexInduction =>
      have members := findsParts_memberChecks fun member listed =>
        memberInduction member listed (normal.part (.memberType listed))
      obtain _ | ⟨key, value⟩ := signature
      · exact members
      · have value := (indexInduction _ rfl).2 (normal.part (.indexValue rfl))
        have key : FindsParts (.recordKey .indexSignature key) := trivial
        exact List.forall_mem_cons.mpr ⟨key, List.forall_mem_append.mpr ⟨value, members⟩⟩
  | union parts induction =>
      exact List.forall_mem_cons.mpr ⟨normal.top.1, findsParts_checksAll fun part listed =>
        induction part listed (normal.part (.unionPart listed))⟩
  | intersection parts induction =>
      exact List.forall_mem_cons.mpr ⟨normal.top.1, findsParts_checksAll fun part listed =>
        induction part listed (normal.part (.intersectionPart listed))⟩
  | generic name arguments induction =>
      exact findsParts_generic name fun argument listed =>
        induction argument listed (normal.part (.argument listed))
  | template head spans induction =>
      intro check listed
      obtain ⟨span, -, rfl⟩ := List.mem_map.mp listed
      trivial
  | parenthesized inner induction => exact induction (normal.part (.inner _))

theorem Normal.compile_ne {node : TypeNode} (normal : node.Normal) {empty : Construct}
    (lacking : empty = .emptyUnion ∨ empty = .emptyIntersection) :
    node.compile ≠ .error (.unsupported empty) := by
  intro failed
  obtain ⟨check, listed, fault⟩ := List.exists_of_findSome?_eq_some
    ((compile_error_iff node _).mp failed)
  exact (normal.findsParts check listed).fault_ne lacking fault

end TypeNode

namespace TypeScript

open TypeNode

/-! What lowering puts together is in normal form. -/

theorem documented_documentedOf {holds : TypeNode → Prop} {member : Member}
    (made : DocumentedOf holds member) : member.Documented ∧ holds member.type := by
  obtain ⟨key, optional, type, comment, kept, documents, rfl⟩ := made
  cases comment with
  | none => exact ⟨.inl ⟨rfl, rfl⟩, kept⟩
  | some comment =>
      exact ⟨.inr ⟨comment, rfl, List.isPrefixOf_iff_prefix.mp (documents comment rfl), rfl⟩, kept⟩

theorem keyword_ne_of_ofKeyword {word : String} (unknown : Primitive.ofKeyword? word = none)
    (keyword : Primitive) : keyword.keyword ≠ word := by
  have other := List.find?_eq_none.mp unknown keyword (by cases keyword <;> decide)
  simpa using other

theorem normal_wordType (word : String) : (wordType word).Normal := by
  obtain ⟨keyword, same⟩ | ⟨unknown, same⟩ := wordType_cases word
  · rw [same]
    exact .of_parts trivial nofun
  · rw [same]
    exact .of_parts (keyword_ne_of_ofKeyword unknown) nofun

/-- No keyword has a point in it. -/
theorem normal_qualified (qualifier name : String) :
    (TypeNode.reference (qualifier ++ "." ++ name)).Normal := by
  refine .of_parts (fun keyword same => ?_) nofun
  have point : '.' ∈ keyword.keyword.toList := by
    rw [same]
    simp
  cases keyword <;> exact absurd point (by decide)

theorem normal_appliedType (name : String) {arguments : List TypeNode}
    (each : ∀ argument ∈ arguments, argument.Normal) : (appliedType name arguments).Normal := by
  unfold appliedType
  split
  next element =>
    refine .of_parts trivial fun part isPart => ?_
    cases isPart
    exact each _ List.mem_cons_self
  next other =>
    refine .of_parts ?_ fun part isPart => ?_
    · rintro ⟨rfl, single⟩
      obtain ⟨element, rfl⟩ := List.length_eq_one_iff.mp single
      exact other element rfl rfl
    · cases isPart with
      | argument listed => exact each part listed

/-- The parts that a type brings into a union are there, and none of them is a union. -/
theorem unionParts_normal {node : TypeNode} (normal : node.Normal) :
    unionParts node ≠ [] ∧ ∀ part ∈ unionParts node, part.isUnion = false ∧ part.Normal := by
  unfold unionParts
  split
  next parts =>
    obtain ⟨nonempty, flat⟩ := normal.top
    exact ⟨nonempty, fun part listed => ⟨flat part listed, normal.part (.unionPart listed)⟩⟩
  next other =>
    refine ⟨List.cons_ne_nil _ _, List.forall_mem_singleton.mpr ⟨?_, normal⟩⟩
    cases node with
    | union parts => exact absurd rfl (other parts)
    | _ => rfl

theorem intersectionParts_normal {node : TypeNode} (normal : node.Normal) :
    intersectionParts node ≠ [] ∧
      ∀ part ∈ intersectionParts node, part.isIntersection = false ∧ part.Normal := by
  unfold intersectionParts
  split
  next parts =>
    obtain ⟨nonempty, flat⟩ := normal.top
    exact ⟨nonempty, fun part listed => ⟨flat part listed, normal.part (.intersectionPart listed)⟩⟩
  next other =>
    refine ⟨List.cons_ne_nil _ _, List.forall_mem_singleton.mpr ⟨?_, normal⟩⟩
    cases node with
    | intersection parts => exact absurd rfl (other parts)
    | _ => rfl

theorem flatMap_parts {parts : TypeNode → List TypeNode} {holds : TypeNode → Prop}
    (own : ∀ {node : TypeNode}, node.Normal → parts node ≠ [] ∧ ∀ part ∈ parts node, holds part)
    (first : TypeNode) (others : List TypeNode) (each : ∀ node ∈ first :: others, node.Normal) :
    (first :: others).flatMap parts ≠ [] ∧ ∀ part ∈ (first :: others).flatMap parts, holds part := by
  constructor
  · rw [List.flatMap_cons]
    exact List.append_ne_nil_of_left_ne_nil (own (each first List.mem_cons_self)).1 _
  · intro part listed
    obtain ⟨node, member, inside⟩ := List.mem_flatMap.mp listed
    exact (own (each node member)).2 part inside

theorem normal_union {parts : List TypeNode} (nonempty : parts ≠ [])
    (each : ∀ part ∈ parts, part.isUnion = false ∧ part.Normal) : (TypeNode.union parts).Normal := by
  refine .of_parts ⟨nonempty, fun part listed => (each part listed).1⟩ fun part isPart => ?_
  cases isPart with
  | unionPart listed => exact (each part listed).2

theorem normal_intersection {parts : List TypeNode} (nonempty : parts ≠ [])
    (each : ∀ part ∈ parts, part.isIntersection = false ∧ part.Normal) :
    (TypeNode.intersection parts).Normal := by
  refine .of_parts ⟨nonempty, fun part listed => (each part listed).1⟩ fun part isPart => ?_
  cases isPart with
  | intersectionPart listed => exact (each part listed).2

theorem normal_object {members : List Member} {signature : Option IndexSignature}
    (each : ∀ member ∈ members, DocumentedOf Normal member)
    (both : ∀ index ∈ signature, index.key.Normal ∧ index.value.Normal) :
    (TypeNode.object ⟨members, signature⟩).Normal := by
  refine .of_parts (fun member listed => (documented_documentedOf (each member listed)).1)
    fun part isPart => ?_
  cases isPart with
  | memberType listed => exact (documented_documentedOf (each _ listed)).2
  | indexKey given => exact (both _ given).1
  | indexValue given => exact (both _ given).2

theorem lowering_keeps_normal : LoweringKeeps Normal where
  primitive _ := .of_parts trivial nofun
  literal _ := .of_parts trivial nofun
  word := normal_wordType
  qualified := normal_qualified
  applied name _ each := normal_appliedType name each
  array _ normal := .of_parts trivial fun _ isPart => by
    cases isPart
    exact normal
  tuple _ each := .of_parts trivial fun part isPart => by
    cases isPart with
    | component listed => exact each part listed
  parenthesized _ normal := .of_parts trivial fun _ isPart => by
    cases isPart
    exact normal
  union first others each :=
    have parts := flatMap_parts unionParts_normal first others each
    normal_union parts.1 parts.2
  intersection first others each :=
    have parts := flatMap_parts intersectionParts_normal first others each
    normal_intersection parts.1 parts.2
  object _ _ := normal_object
  template _ _ each := .of_parts trivial fun _ isPart => by
    cases isPart with
    | hole listed => exact each _ listed

/-- The types that an interface extends are not taken apart; being names, they need not be. -/
theorem base_isIntersection {base : TypeTree} (isBase : base.IsBase) {node : TypeNode}
    (lowered : base.lower = .ok node) : node.isIntersection = false := by
  cases node with
  | intersection parts =>
      obtain ⟨first, others, rfl⟩ := TypeTree.eq_intersection_of_lower lowered
      exact isBase.elim
  | _ => rfl

theorem bases_isIntersection {bases : List TypeTree} (named : ∀ base ∈ bases, base.IsBase)
    {nodes : List TypeNode} (lowered : TypeTree.lowerAll bases = .ok nodes) :
    ∀ node ∈ nodes, node.isIntersection = false := by
  induction bases generalizing nodes with
  | nil =>
      cases lowered
      exact fun _ listed => absurd listed List.not_mem_nil
  | cons base bases induction =>
      obtain ⟨node, others, first, rest, rfl⟩ := Result.cons_eq_ok_iff.mp lowered
      obtain ⟨isBase, named⟩ := List.forall_mem_cons.mp named
      exact List.forall_mem_cons.mpr ⟨base_isIntersection isBase first, induction named rest⟩

theorem DeclarationTree.normal_lower {tree : DeclarationTree} (named : tree.NamedBases)
    {declaration : Declaration} (lowered : tree.lower = .ok declaration) :
    declaration.node.Normal := by
  cases tree with
  | typeAlias name type =>
      obtain ⟨node, own, result⟩ := Result.bind_eq_ok_iff.mp lowered
      cases result
      exact type.lower_induct lowering_keeps_normal own
  | interface name bases items =>
      obtain ⟨⟨members, signature⟩, parts, own, extended, result⟩ := lower_interface lowered
      have made := BodyItem.lowerAll_induct lowering_keeps_normal none none (by simp) (by simp) items own
      have object := normal_object made.members made.signature
      have bases : ∀ part ∈ parts, part.isIntersection = false ∧ part.Normal := fun part listed =>
        ⟨bases_isIntersection named extended part listed,
          TypeTree.lowerAll_induct lowering_keeps_normal _ extended part listed⟩
      obtain rfl | rfl := result
      · exact object
      · exact normal_intersection (List.append_ne_nil_of_right_ne_nil _ (List.cons_ne_nil _ _))
          (List.forall_mem_append.mpr ⟨bases, List.forall_mem_singleton.mpr ⟨rfl, object⟩⟩)

end TypeScript

namespace Declaration

open TypeNode

/-- Whatever is read from a TypeScript source is in normal form, at every depth; so having a schema
fails for none of it because a union or an intersection has no parts. -/
theorem normal_of_readTypeScript {source : String} {declarations : List Declaration}
    (read : readTypeScript source = .ok declarations) :
    ∀ declaration ∈ declarations, declaration.node.Normal ∧
      declaration.node.compile ≠ .error (.unsupported .emptyUnion) ∧
      declaration.node.compile ≠ .error (.unsupported .emptyIntersection) := by
  unfold readTypeScript at read
  split at read
  next => cases read
  next trees found =>
    intro declaration listed
    obtain ⟨tree, member, lowered⟩ := TypeScript.DeclarationTree.exists_lower read declaration listed
    have normal := TypeScript.DeclarationTree.normal_lower
      (TypeScript.namedBases_of_declarationTrees found tree member) lowered
    exact ⟨normal, normal.compile_ne (.inl rfl), normal.compile_ne (.inr rfl)⟩

/-- An interface with a base, a documented member and a nested union. -/
theorem normal_of_readTypeScript_interface :
    ∃ declarations, readTypeScript
        "interface A extends B<C & D> \x7b /** x */ a: readonly Array<B>[] | (C | D) \x7d" =
          .ok declarations ∧ declarations.length = 1 ∧
      ∀ declaration ∈ declarations, declaration.node.Normal ∧
        declaration.node.compile ≠ .error (.unsupported .emptyUnion) ∧
        declaration.node.compile ≠ .error (.unsupported .emptyIntersection) := by
  have readable : (readTypeScript
      "interface A extends B<C & D> \x7b /** x */ a: readonly Array<B>[] | (C | D) \x7d").toOption.any
        (·.length == 1) = true := by decide +kernel
  revert readable
  cases read : readTypeScript _ with
  | error error => nofun
  | ok declarations =>
      exact fun one => ⟨declarations, rfl, eq_of_beq one, normal_of_readTypeScript read⟩

end Declaration

end TypeSchema
