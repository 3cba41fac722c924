import TypeSchema.Proofs.Declaration.RoundTrip
import TypeSchema.Proofs.Result
import TypeSchema.Proofs.TypeNode.Hydration
import TypeSchema.Proofs.TypeScript.Lowered
import TypeSchema.Proofs.TypeScript.Lowering

/-!
Comments and directives in what is read from a TypeScript source. A member has the directives of the
documentation comment before it, at any depth, so nothing is missing that the reader of the JSON
form would add: written as JSON, the declarations are read back as they are.
-/

namespace TypeSchema

namespace TypeNode

/-! Types whose members have the directives of their comments, by their parts. -/

theorem Commented.of_parts {node : TypeNode}
    (noObject : ∀ members signature, node ≠ .object ⟨members, signature⟩)
    (parts : ∀ part : TypeNode, part.PartOf node → part.Commented) : node.Commented :=
  commented_iff.mpr ⟨fun members signature same => absurd same (noObject members signature), parts⟩

section

variable {nodes : List TypeNode}

theorem Commented.array {element : TypeNode} (commented : element.Commented) :
    (TypeNode.array element).Commented :=
  .of_parts nofun fun _ inside => by
    cases inside
    exact commented

theorem Commented.parenthesized {inner : TypeNode} (commented : inner.Commented) :
    (TypeNode.parenthesized inner).Commented :=
  .of_parts nofun fun _ inside => by
    cases inside
    exact commented

theorem Commented.tuple (each : ∀ node ∈ nodes, node.Commented) :
    (TypeNode.tuple nodes).Commented :=
  .of_parts nofun fun part inside => by
    cases inside with
    | component listed => exact each part listed

theorem Commented.union (each : ∀ node ∈ nodes, node.Commented) :
    (TypeNode.union nodes).Commented :=
  .of_parts nofun fun part inside => by
    cases inside with
    | unionPart listed => exact each part listed

theorem Commented.intersection (each : ∀ node ∈ nodes, node.Commented) :
    (TypeNode.intersection nodes).Commented :=
  .of_parts nofun fun part inside => by
    cases inside with
    | intersectionPart listed => exact each part listed

theorem Commented.generic (name : String) (each : ∀ node ∈ nodes, node.Commented) :
    (TypeNode.generic name nodes).Commented :=
  .of_parts nofun fun part inside => by
    cases inside with
    | argument listed => exact each part listed

theorem Commented.template (head : String) {spans : List TemplateSpan}
    (each : ∀ span ∈ spans, span.type.Commented) : (TypeNode.template ⟨head, spans⟩).Commented :=
  .of_parts nofun fun _ inside => by
    cases inside with
    | hole listed => exact each _ listed

end

/-! Such a type has all its directives already. -/

theorem hydrateAll_of_commented {nodes : List TypeNode}
    (same : ∀ node ∈ nodes, node.hydrate = node) : hydrateAll nodes = nodes := by
  rw [hydrateAll_eq, List.map_congr_left same, List.map_id']

theorem hydrateMembers_of_commented {members : List Member}
    (each : ∀ member ∈ members, member.Commented ∧ member.type.hydrate = member.type) :
    Member.hydrateAll members = members := by
  induction members with
  | nil => rfl
  | cons member others induction =>
      obtain ⟨⟨commented, type⟩, tail⟩ := List.forall_mem_cons.mp each
      obtain ⟨key, optional, node, comment, directives⟩ := member
      have own : hydratedDirectives comment directives = directives := by
        cases directives with
        | nil => exact commented.restores
        | cons first others => rfl
      rw [Member.hydrateAll, induction tail, type, own]

/-- The directives of comments add nothing to a type that has them. -/
theorem hydrate_of_commented {node : TypeNode} (commented : node.Commented) :
    node.hydrate = node := by
  induction node with
  | primitive keyword => rfl
  | literal value => rfl
  | reference name => rfl
  | template head spans => rfl
  | array element induction => rw [hydrate, induction (commented.part (.element _))]
  | parenthesized inner induction => rw [hydrate, induction (commented.part (.inner _))]
  | tuple elements induction =>
      rw [hydrate, hydrateAll_of_commented fun element listed =>
        induction element listed (commented.part (.component listed))]
  | union parts induction =>
      rw [hydrate, hydrateAll_of_commented fun part listed =>
        induction part listed (commented.part (.unionPart listed))]
  | intersection parts induction =>
      rw [hydrate, hydrateAll_of_commented fun part listed =>
        induction part listed (commented.part (.intersectionPart listed))]
  | generic name arguments induction =>
      rw [hydrate, hydrateAll_of_commented fun argument listed =>
        induction argument listed (commented.part (.argument listed))]
  | object members signature memberInduction indexInduction =>
      obtain ⟨each, both⟩ := commented_object_iff.mp commented
      have members := hydrateMembers_of_commented fun member listed =>
        ⟨(each member listed).1, memberInduction member listed (each member listed).2⟩
      obtain _ | ⟨key, value⟩ := signature
      · rw [hydrate, members]
      · rw [hydrate, members, (indexInduction _ rfl).2 (both _ rfl).2]

end TypeNode

namespace TypeScript

open Result

/-! What lowering puts together has the directives of its comments. -/

theorem commented_documented (key : String) (optional : Bool) (type : TypeNode)
    (comment : Option String) : (documented (.plain key optional type) comment).Commented := by
  cases comment with
  | none => exact .inl ⟨rfl, rfl⟩
  | some comment => exact .inr ⟨comment, rfl, rfl⟩

theorem documented_type (member : Member) (comment : Option String) :
    (documented member comment).type = member.type := by
  cases comment <;> rfl

theorem commented_wordType (word : String) : (wordType word).Commented := by
  obtain ⟨keyword, same⟩ | ⟨-, same⟩ := wordType_cases word <;>
    exact same ▸ .of_parts nofun nofun

theorem commented_appliedType (name : String) {arguments : List TypeNode}
    (each : ∀ argument ∈ arguments, argument.Commented) :
    (appliedType name arguments).Commented := by
  unfold appliedType
  split
  · exact .array (each _ List.mem_cons_self)
  · exact .generic _ each

theorem commented_unionParts {node : TypeNode} (commented : node.Commented) :
    ∀ part ∈ unionParts node, part.Commented := by
  unfold unionParts
  split
  · exact fun part listed => commented.part (.unionPart listed)
  · exact List.forall_mem_singleton.mpr commented

theorem commented_intersectionParts {node : TypeNode} (commented : node.Commented) :
    ∀ part ∈ intersectionParts node, part.Commented := by
  unfold intersectionParts
  split
  · exact fun part listed => commented.part (.intersectionPart listed)
  · exact List.forall_mem_singleton.mpr commented

theorem commented_flatMap {parts : TypeNode → List TypeNode} {nodes : List TypeNode}
    (own : ∀ {node : TypeNode}, node.Commented → ∀ part ∈ parts node, part.Commented)
    (each : ∀ node ∈ nodes, node.Commented) : ∀ part ∈ nodes.flatMap parts, part.Commented := by
  intro part listed
  obtain ⟨node, member, inside⟩ := List.mem_flatMap.mp listed
  exact own (each node member) part inside

theorem commented_documentedOf {member : Member} (made : DocumentedOf TypeNode.Commented member) :
    member.Commented ∧ member.type.Commented := by
  obtain ⟨key, optional, type, comment, commented, -, rfl⟩ := made
  refine ⟨commented_documented key optional type comment, ?_⟩
  rw [documented_type]
  exact commented

theorem lowering_keeps_commented : LoweringKeeps TypeNode.Commented where
  primitive _ := .of_parts nofun nofun
  literal _ := .of_parts nofun nofun
  word := commented_wordType
  qualified _ _ := .of_parts nofun nofun
  applied name _ each := commented_appliedType name each
  array _ commented := .array commented
  tuple _ each := .tuple each
  parenthesized _ commented := .parenthesized commented
  union _ _ each := .union (commented_flatMap commented_unionParts each)
  intersection _ _ each := .intersection (commented_flatMap commented_intersectionParts each)
  object _ _ members signature := TypeNode.commented_object_iff.mpr
    ⟨fun member listed => commented_documentedOf (members member listed), signature⟩
  template head _ each := .template head each

namespace DeclarationTree

theorem commented_lower {tree : DeclarationTree} {declaration : Declaration}
    (lowered : tree.lower = .ok declaration) : declaration.node.Commented := by
  cases tree with
  | typeAlias name type =>
      obtain ⟨node, own, result⟩ := bind_eq_ok_iff.mp lowered
      cases result
      exact type.lower_induct lowering_keeps_commented own
  | interface name bases items =>
      obtain ⟨body, parts, own, extended, result⟩ := lower_interface lowered
      have object : (TypeNode.object body).Commented :=
        (TypeTree.object items).lower_induct lowering_keeps_commented
          (bind_eq_ok_iff.mpr ⟨body, own, rfl⟩)
      have bases := TypeTree.lowerAll_induct lowering_keeps_commented _ extended
      obtain rfl | rfl := result
      · exact object
      · exact .intersection
          (List.forall_mem_append.mpr ⟨bases, List.forall_mem_singleton.mpr object⟩)

theorem commented_lowerAll {trees : List DeclarationTree} {declarations : List Declaration}
    (lowered : lowerAll trees = .ok declarations) :
    ∀ declaration ∈ declarations, declaration.node.Commented := by
  intro declaration listed
  obtain ⟨tree, -, own⟩ := exists_lower lowered declaration listed
  exact commented_lower own

end DeclarationTree

end TypeScript

namespace Declaration

/-- Whatever is read from a TypeScript source has the directives of its comments. -/
theorem commented_of_readTypeScript {source : String} {declarations : List Declaration}
    (read : readTypeScript source = .ok declarations) :
    ∀ declaration ∈ declarations, declaration.node.Commented := by
  unfold readTypeScript at read
  split at read
  · cases read
  · exact TypeScript.DeclarationTree.commented_lowerAll read

/-- The declarations of a TypeScript source, written as JSON, are read back as they are unless they
are nested too deeply; so the other reader gives the same types and the same directives. -/
theorem readJson_of_readTypeScript {source : String} {declarations : List Declaration}
    (read : readTypeScript source = .ok declarations)
    (deep : (Json.array (declarations.map (·.toJson))).depth ≤ Json.maxDepth) :
    readJson (Json.array (declarations.map (·.toJson))).render = .ok declarations := by
  have form : (Json.array (declarations.map (·.toJson))).Numberless := by
    simp [toJson_numberless]
  have hydrated : declarations.map (·.hydrate) = declarations := by
    conv_rhs => rw [← List.map_id' declarations]
    refine List.map_congr_left fun declaration listed => ?_
    have node := TypeNode.hydrate_of_commented (commented_of_readTypeScript read declaration listed)
    rw [hydrate, node]
  rw [readJson_render form deep (listOfJson_list declarations), hydrated]

end Declaration

end TypeSchema
