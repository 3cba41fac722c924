import Mathlib.Data.List.Forall2
import TypeSchema.Proofs.Declaration.GivenTexts

/-!
Which members have their directives taken from their comments. The main statement follows each member of
a JSON source, at any depth, to its place in the declarations that are read: nothing but directives is
ever added, and none are added within the keys of an index signature or in the holes of a template.
-/

namespace TypeSchema

/-- A member of an object type that stands anywhere in a type; `enclosed` tells whether it stands within
the keys of an index signature or in a hole of a template. -/
structure Occurrence where
  member : Member
  enclosed : Bool

namespace Occurrence

def enclose (occurrence : Occurrence) : Occurrence :=
  { occurrence with enclosed := true }

end Occurrence

mutual

/-- The members at any depth of a type, in order. -/
def TypeNode.occurrences : TypeNode → List Occurrence
  | .primitive _ => []
  | .literal _ => []
  | .reference _ => []
  | .array element => element.occurrences
  | .tuple elements => TypeNode.occurrencesAll elements
  | .object ⟨members, none⟩ => Member.occurrencesAll members
  | .object ⟨members, some ⟨key, value⟩⟩ =>
    Member.occurrencesAll members ++ (key.occurrences.map (·.enclose) ++ value.occurrences)
  | .union parts => TypeNode.occurrencesAll parts
  | .intersection parts => TypeNode.occurrencesAll parts
  | .generic _ arguments => TypeNode.occurrencesAll arguments
  | .template ⟨_, spans⟩ => TemplateSpan.occurrencesAll spans
  | .parenthesized inner => inner.occurrences

def TypeNode.occurrencesAll : List TypeNode → List Occurrence
  | [] => []
  | node :: others => node.occurrences ++ TypeNode.occurrencesAll others

def Member.occurrencesAll : List Member → List Occurrence
  | [] => []
  | ⟨key, optional, type, comment, directives⟩ :: others =>
    ⟨⟨key, optional, type, comment, directives⟩, false⟩ ::
      (type.occurrences ++ Member.occurrencesAll others)

def TemplateSpan.occurrencesAll : List TemplateSpan → List Occurrence
  | [] => []
  | ⟨type, _⟩ :: others =>
    type.occurrences.map (·.enclose) ++ TemplateSpan.occurrencesAll others

end

/-! What becomes of a member. -/

theorem hydratedDirectives_again (comment : Option String) (directives : List Directive) :
    hydratedDirectives comment (hydratedDirectives comment directives) =
      hydratedDirectives comment directives := by
  cases directives with
  | nil => exact ite_self _
  | cons directive others => rfl

namespace Member

def hydrate (member : Member) : Member :=
  { member with
    type := member.type.hydrate
    directives := hydratedDirectives member.comment member.directives }

theorem hydrateAll_eq (members : List Member) : hydrateAll members = members.map (·.hydrate) := by
  induction members with
  | nil => rfl
  | cons member others induction =>
      cases member
      rw [hydrateAll, induction]
      rfl

/-- The member `after` is the member `before` with the directives of its comment, unless it had some. -/
structure Completed (before after : Member) : Prop where
  key : after.key = before.key
  optional : after.optional = before.optional
  type : after.type.withoutDirectives = before.type.withoutDirectives
  comment : after.comment = before.comment
  given : before.directives ≠ [] → after.directives = before.directives
  taken : before.directives = [] →
    after.directives = before.comment.elim [] DocComment.directives

theorem completed_self_iff {member : Member} :
    member.Completed member ↔
      (member.directives = [] → ∀ comment ∈ member.comment, DocComment.directives comment = []) := by
  constructor
  · intro completed none comment given
    have taken := completed.taken none
    rw [none, Option.mem_def.mp given] at taken
    exact taken.symm
  · intro silent
    refine ⟨rfl, rfl, rfl, rfl, fun _ => rfl, fun none => ?_⟩
    rw [none]
    cases given : member.comment with
    | none => rfl
    | some comment => exact (silent none comment given).symm

end Member

namespace Occurrence

def hydrate (occurrence : Occurrence) : Occurrence :=
  if occurrence.enclosed then occurrence
  else { occurrence with member := occurrence.member.hydrate }

theorem hydrate_enclose (occurrence : Occurrence) : occurrence.enclose.hydrate = occurrence.enclose :=
  rfl

theorem map_hydrate_enclose (occurrences : List Occurrence) :
    (occurrences.map (·.enclose)).map (·.hydrate) = occurrences.map (·.enclose) := by
  rw [List.map_map]
  exact List.map_congr_left fun occurrence _ => occurrence.hydrate_enclose

end Occurrence

namespace TypeNode

theorem occurrencesAll_eq (nodes : List TypeNode) :
    occurrencesAll nodes = nodes.flatMap (·.occurrences) := by
  induction nodes with
  | nil => rfl
  | cons node others induction => rw [occurrencesAll, induction, List.flatMap_cons]

theorem occurrencesAll_hydrateAll {nodes : List TypeNode}
    (each : ∀ node ∈ nodes, node.hydrate.occurrences = node.occurrences.map (·.hydrate)) :
    occurrencesAll (hydrateAll nodes) = (occurrencesAll nodes).map (·.hydrate) := by
  rw [occurrencesAll_eq, occurrencesAll_eq, hydrateAll_eq, List.flatMap_map, List.map_flatMap]
  exact List.flatMap_congr each

theorem occurrencesAll_hydrateMembers {members : List Member}
    (each : ∀ member ∈ members,
      member.type.hydrate.occurrences = member.type.occurrences.map (·.hydrate)) :
    Member.occurrencesAll (Member.hydrateAll members) =
      (Member.occurrencesAll members).map (·.hydrate) := by
  induction members with
  | nil => rfl
  | cons member others induction =>
      obtain ⟨head, tail⟩ := List.forall_mem_cons.mp each
      cases member
      rw [Member.hydrateAll, Member.occurrencesAll, Member.occurrencesAll, induction tail, head,
        List.map_cons, List.map_append]
      rfl

theorem map_hydrate_spans (spans : List TemplateSpan) :
    (TemplateSpan.occurrencesAll spans).map (·.hydrate) = TemplateSpan.occurrencesAll spans := by
  induction spans with
  | nil => rfl
  | cons span others induction =>
      cases span
      rw [TemplateSpan.occurrencesAll, List.map_append, induction, Occurrence.map_hydrate_enclose]

/-- The members of a hydrated type are those of the type, each hydrated where it stands. -/
theorem occurrences_hydrate (node : TypeNode) :
    node.hydrate.occurrences = node.occurrences.map (·.hydrate) := by
  induction node with
  | primitive keyword => rfl
  | literal value => rfl
  | reference name => rfl
  | array element induction => exact induction
  | tuple elements induction => exact occurrencesAll_hydrateAll induction
  | object members signature memberInduction indexInduction =>
      have same := occurrencesAll_hydrateMembers memberInduction
      obtain _ | ⟨key, value⟩ := signature
      · exact same
      · have values := (indexInduction _ rfl).2
        rw [hydrate, occurrences, occurrences, same, List.map_append, List.map_append,
          Occurrence.map_hydrate_enclose, values]
  | union parts induction => exact occurrencesAll_hydrateAll induction
  | intersection parts induction => exact occurrencesAll_hydrateAll induction
  | generic name arguments induction => exact occurrencesAll_hydrateAll induction
  | template head spans => exact (map_hydrate_spans spans).symm
  | parenthesized inner induction => exact induction

/-! All that is not a directive. -/

theorem allWithoutDirectives_eq (nodes : List TypeNode) :
    allWithoutDirectives nodes = nodes.map (·.withoutDirectives) := by
  induction nodes with
  | nil => rfl
  | cons node others induction => rw [allWithoutDirectives, induction, List.map_cons]

theorem allWithoutDirectives_hydrateAll {nodes : List TypeNode}
    (each : ∀ node ∈ nodes, node.hydrate.withoutDirectives = node.withoutDirectives) :
    allWithoutDirectives (hydrateAll nodes) = allWithoutDirectives nodes := by
  rw [allWithoutDirectives_eq, allWithoutDirectives_eq, hydrateAll_eq, List.map_map]
  exact List.map_congr_left each

theorem allWithoutDirectives_hydrateMembers {members : List Member}
    (each : ∀ member ∈ members,
      member.type.hydrate.withoutDirectives = member.type.withoutDirectives) :
    Member.allWithoutDirectives (Member.hydrateAll members) =
      Member.allWithoutDirectives members := by
  induction members with
  | nil => rfl
  | cons member others induction =>
      obtain ⟨head, tail⟩ := List.forall_mem_cons.mp each
      cases member
      rw [Member.hydrateAll, Member.allWithoutDirectives, Member.allWithoutDirectives,
        induction tail, head]

theorem withoutDirectives_hydrate (node : TypeNode) :
    node.hydrate.withoutDirectives = node.withoutDirectives := by
  induction node with
  | primitive keyword => rfl
  | literal value => rfl
  | reference name => rfl
  | array element induction => rw [hydrate, withoutDirectives, withoutDirectives, induction]
  | tuple elements induction =>
      rw [hydrate, withoutDirectives, withoutDirectives, allWithoutDirectives_hydrateAll induction]
  | object members signature memberInduction indexInduction =>
      have same := allWithoutDirectives_hydrateMembers memberInduction
      obtain _ | ⟨key, value⟩ := signature
      · rw [hydrate, withoutDirectives, withoutDirectives, same]
      · rw [hydrate, withoutDirectives, withoutDirectives, same, (indexInduction _ rfl).2]
  | union parts induction =>
      rw [hydrate, withoutDirectives, withoutDirectives, allWithoutDirectives_hydrateAll induction]
  | intersection parts induction =>
      rw [hydrate, withoutDirectives, withoutDirectives, allWithoutDirectives_hydrateAll induction]
  | generic name arguments induction =>
      rw [hydrate, withoutDirectives, withoutDirectives, allWithoutDirectives_hydrateAll induction]
  | template head spans => rfl
  | parenthesized inner induction => rw [hydrate, withoutDirectives, withoutDirectives, induction]

/-! Hydrating twice. -/

theorem hydrateAll_again {nodes : List TypeNode}
    (each : ∀ node ∈ nodes, node.hydrate.hydrate = node.hydrate) :
    hydrateAll (hydrateAll nodes) = hydrateAll nodes := by
  rw [hydrateAll_eq, hydrateAll_eq, List.map_map]
  exact List.map_congr_left each

theorem hydrateMembers_again {members : List Member}
    (each : ∀ member ∈ members, member.type.hydrate.hydrate = member.type.hydrate) :
    Member.hydrateAll (Member.hydrateAll members) = Member.hydrateAll members := by
  rw [Member.hydrateAll_eq, Member.hydrateAll_eq, List.map_map]
  apply List.map_congr_left
  intro member listed
  simp only [Function.comp_apply, Member.hydrate, each member listed, hydratedDirectives_again]

theorem hydrate_hydrate (node : TypeNode) : node.hydrate.hydrate = node.hydrate := by
  induction node with
  | primitive keyword => rfl
  | literal value => rfl
  | reference name => rfl
  | array element induction => rw [hydrate, hydrate, induction]
  | tuple elements induction => rw [hydrate, hydrate, hydrateAll_again induction]
  | object members signature memberInduction indexInduction =>
      have same := hydrateMembers_again memberInduction
      obtain _ | ⟨key, value⟩ := signature
      · rw [hydrate, hydrate, same]
      · rw [hydrate, hydrate, same, (indexInduction _ rfl).2]
  | union parts induction => rw [hydrate, hydrate, hydrateAll_again induction]
  | intersection parts induction => rw [hydrate, hydrate, hydrateAll_again induction]
  | generic name arguments induction => rw [hydrate, hydrate, hydrateAll_again induction]
  | template head spans => rfl
  | parenthesized inner induction => rw [hydrate, hydrate, induction]

end TypeNode

theorem Member.completed_hydrate (member : Member) : member.Completed member.hydrate where
  key := rfl
  optional := rfl
  type := member.type.withoutDirectives_hydrate
  comment := rfl
  given := by
    intro some
    rw [hydrate, hydratedDirectives, List.isEmpty_eq_false_iff.mpr some]
    rfl
  taken := by
    intro none
    rw [hydrate, none]
    rfl

namespace Declaration

def withoutDirectives (declaration : Declaration) : Declaration :=
  { declaration with node := declaration.node.withoutDirectives }

def occurrences (declarations : List Declaration) : List Occurrence :=
  declarations.flatMap (·.node.occurrences)

theorem occurrences_hydrate (declarations : List Declaration) :
    occurrences (declarations.map (·.hydrate)) =
      (occurrences declarations).map (·.hydrate) := by
  rw [occurrences, occurrences, List.flatMap_map, List.map_flatMap]
  exact List.flatMap_congr fun declaration _ => declaration.node.occurrences_hydrate

theorem withoutDirectives_hydrate (declaration : Declaration) :
    declaration.hydrate.withoutDirectives = declaration.withoutDirectives :=
  congrArg (Declaration.mk declaration.name) declaration.node.withoutDirectives_hydrate

theorem hydrate_hydrate (declaration : Declaration) :
    declaration.hydrate.hydrate = declaration.hydrate :=
  congrArg (Declaration.mk declaration.name) declaration.node.hydrate_hydrate

/-- Every member is completed on the way from `given` to `declarations`. -/
def AllCompleted (given declarations : List Declaration) : Prop :=
  List.Forall₂ (fun before after => before.member.Completed after.member)
    (occurrences given) (occurrences declarations)

/-- The declarations of a JSON source are those that are given, but for directives. Each member stands
where it is given. It has the directives that it is given, or if there are none those of its comment,
unless it stands within the keys of an index signature or in a hole of a template, where it is as it is
given. So all members are completed exactly if none that stands there lacks directives of its comment.
Hydrating again changes nothing. -/
theorem readJson_completed_iff {source : String} {declarations : List Declaration}
    (accepted : readJson source = .ok declarations) :
    ∃ given, givenJson? source = some given ∧
      declarations.map (·.withoutDirectives) = given.map (·.withoutDirectives) ∧
      List.Forall₂ (fun before after => after.enclosed = before.enclosed ∧
          if before.enclosed then after.member = before.member
          else before.member.Completed after.member)
        (occurrences given) (occurrences declarations) ∧
      (AllCompleted given declarations ↔
        ∀ occurrence ∈ occurrences given, occurrence.enclosed = true →
          occurrence.member.directives = [] →
            ∀ comment ∈ occurrence.member.comment, DocComment.directives comment = []) ∧
      declarations.map (·.hydrate) = declarations := by
  obtain ⟨given, read, rfl⟩ := givenJson_of_readJson accepted
  refine ⟨given, read, ?_, ?_, ?_, ?_⟩
  · rw [List.map_map]
    exact List.map_congr_left fun declaration _ => declaration.withoutDirectives_hydrate
  · rw [occurrences_hydrate, List.forall₂_map_right_iff, List.forall₂_same]
    intro occurrence _
    obtain ⟨member, enclosed⟩ := occurrence
    cases enclosed with
    | false => exact ⟨rfl, member.completed_hydrate⟩
    | true => exact ⟨rfl, rfl⟩
  · rw [AllCompleted, occurrences_hydrate, List.forall₂_map_right_iff, List.forall₂_same]
    apply forall₂_congr
    intro occurrence _
    obtain ⟨member, enclosed⟩ := occurrence
    cases enclosed with
    | false => exact iff_of_true member.completed_hydrate nofun
    | true => exact Member.completed_self_iff.trans ⟨fun silent _ => silent, fun silent => silent rfl⟩
  · rw [List.map_map]
    exact List.map_congr_left fun declaration _ => declaration.hydrate_hydrate

/-- A member that is given no directives, and in the values of the index signature one that is. -/
theorem readJson_completed_contact :
    let source := "[[\"Contact\", [\"object\", [[[\"email\", false, [\"primitive\", \"string\"], " ++
      "\"/** @format email */\"]], [[\"primitive\", \"string\"], [\"object\", [[[\"phone\", true, " ++
      "[\"primitive\", \"string\"], \"/** @format email */\", [[\"secret\"]]]]]]]]]]]"
    ∃ given declarations, givenJson? source = some given ∧ readJson source = .ok declarations ∧
      AllCompleted given declarations ∧
      (occurrences declarations).map (·.member.directives) =
        [[⟨"format", "email"⟩], [⟨"secret", ""⟩]] := by
  intro source
  have evaluated : (readJson source).toOption.map (fun declarations =>
      (occurrences declarations).map fun occurrence =>
        (occurrence.enclosed, occurrence.member.directives)) =
      some [(false, [⟨"format", "email"⟩]), (false, [⟨"secret", ""⟩])] := by decide +kernel
  cases accepted : readJson source with
  | error => rw [accepted] at evaluated; cases evaluated
  | ok declarations =>
      rw [accepted] at evaluated
      have members := Option.some_inj.mp evaluated
      obtain ⟨given, read, -, placed, completed, -⟩ := readJson_completed_iff accepted
      have directives := congrArg (List.map Prod.snd) members
      rw [List.map_map] at directives
      refine ⟨given, declarations, read, rfl, completed.mpr ?_, directives⟩
      have enclosed : (occurrences given).map (·.enclosed) = [false, false] := by
        have same : (occurrences given).map (·.enclosed) =
            (occurrences declarations).map (·.enclosed) := by
          rw [← List.forall₂_eq_eq_eq, List.forall₂_map_left_iff, List.forall₂_map_right_iff]
          exact placed.imp fun _ _ pair => pair.1.symm
        have outside := congrArg (List.map Prod.fst) members
        rw [List.map_map] at outside
        exact same.trans outside
      intro occurrence listed inside
      have outside := List.mem_map_of_mem (f := (·.enclosed)) listed
      rw [enclosed, inside] at outside
      simp at outside

theorem silent_of_completed {befores afters : List Occurrence}
    (completed : List.Forall₂ (fun before after => before.member.Completed after.member)
      befores afters) :
    ∀ occurrence ∈ afters, occurrence.member.directives = [] →
      ∀ comment ∈ occurrence.member.comment, DocComment.directives comment = [] := by
  induction completed with
  | nil => exact List.forall_mem_nil _
  | @cons before after _ _ head _ induction =>
      refine List.forall_mem_cons.mpr ⟨?_, induction⟩
      intro none comment given
      by_cases empty : before.member.directives = []
      · rw [head.comment] at given
        have taken := head.taken empty
        rw [none, Option.mem_def.mp given] at taken
        exact taken.symm
      · exact absurd ((head.given empty).symm.trans none) empty

/-- A member in a hole of a template, which is left without the directive of its comment. -/
theorem readJson_hole_incomplete :
    let source := "[[\"Link\", [\"template_literal\", [\"to:\", [[[\"object\", [[[\"email\", false, " ++
      "[\"primitive\", \"string\"], \"/** @format email */\"]]]]]]]]]]"
    ∃ given declarations, givenJson? source = some given ∧ readJson source = .ok declarations ∧
      ¬AllCompleted given declarations := by
  intro source
  have evaluated : (readJson source).toOption.map (fun declarations =>
      (occurrences declarations).map fun occurrence =>
        (occurrence.member.directives, occurrence.member.comment)) =
      some [([], some "/** @format email */")] := by decide +kernel
  cases accepted : readJson source with
  | error => rw [accepted] at evaluated; cases evaluated
  | ok declarations =>
      rw [accepted] at evaluated
      have members : (occurrences declarations).map
          (fun occurrence => (occurrence.member.directives, occurrence.member.comment)) =
          [([], some "/** @format email */")] := Option.some_inj.mp evaluated
      obtain ⟨given, read, -⟩ := givenJson_of_readJson accepted
      refine ⟨given, declarations, read, rfl, fun completed => ?_⟩
      obtain ⟨occurrence, listed, same⟩ :=
        List.mem_map.mp (members ▸ List.mem_singleton.mpr rfl)
      obtain ⟨none, commented⟩ := Prod.mk.inj same
      have silent := silent_of_completed completed occurrence listed none _ commented
      have directive : DocComment.directives "/** @format email */" = [⟨"format", "email"⟩] := by
        decide +kernel
      rw [directive] at silent
      cases silent

end Declaration

end TypeSchema
