import TypeSchema.Declaration.Source
import TypeSchema.Proofs.TypeNode.Induction
import TypeSchema.Proofs.TypeNode.Notation
import TypeSchema.Schema.Render

/-!
Directives that are left out and taken from the comments again. The types that are read for their
form alone do not get their directives back, but nothing that compiling looks at in them depends on
directives. The main statement is that the schema or the error is the same.
-/

namespace TypeSchema

/-! Types without directives. -/

mutual

def TypeNode.withoutDirectives : TypeNode → TypeNode
  | .primitive keyword => .primitive keyword
  | .literal value => .literal value
  | .reference name => .reference name
  | .array element => .array element.withoutDirectives
  | .tuple elements => .tuple (TypeNode.allWithoutDirectives elements)
  | .object ⟨members, none⟩ => .object ⟨Member.allWithoutDirectives members, none⟩
  | .object ⟨members, some ⟨key, value⟩⟩ =>
    .object ⟨Member.allWithoutDirectives members,
      some ⟨key.withoutDirectives, value.withoutDirectives⟩⟩
  | .union parts => .union (TypeNode.allWithoutDirectives parts)
  | .intersection parts => .intersection (TypeNode.allWithoutDirectives parts)
  | .generic name arguments => .generic name (TypeNode.allWithoutDirectives arguments)
  | .template ⟨head, spans⟩ => .template ⟨head, TemplateSpan.allWithoutDirectives spans⟩
  | .parenthesized inner => .parenthesized inner.withoutDirectives

def TypeNode.allWithoutDirectives : List TypeNode → List TypeNode
  | [] => []
  | node :: others => node.withoutDirectives :: TypeNode.allWithoutDirectives others

def Member.allWithoutDirectives : List Member → List Member
  | [] => []
  | ⟨key, optional, type, comment, _⟩ :: others =>
    ⟨key, optional, type.withoutDirectives, comment, []⟩ :: Member.allWithoutDirectives others

def TemplateSpan.allWithoutDirectives : List TemplateSpan → List TemplateSpan
  | [] => []
  | ⟨type, text⟩ :: others =>
    ⟨type.withoutDirectives, text⟩ :: TemplateSpan.allWithoutDirectives others

end

/-- The member has neither a comment nor directives, or the directives of its comment. -/
def Member.Commented (member : Member) : Prop :=
  (member.comment = none ∧ member.directives = []) ∨
    ∃ comment, member.comment = some comment ∧ member.directives = DocComment.directives comment

/-- Every member inside a type, at any depth, has the directives of its comment. -/
def TypeNode.Commented (node : TypeNode) : Prop :=
  ∀ members signature, (TypeNode.object ⟨members, signature⟩).Inside node →
    ∀ member ∈ members, member.Commented

/-- A member whose directives were left out and are taken from its comment. -/
def Member.restored (member : Member) : Member :=
  { member with
    type := member.type.withoutDirectives.hydrate
    directives := hydratedDirectives member.comment [] }

theorem Member.Commented.restores {member : Member} (commented : member.Commented) :
    hydratedDirectives member.comment [] = member.directives := by
  rcases commented with ⟨none, empty⟩ | ⟨comment, given, extracted⟩
  · rw [none, empty]
    rfl
  · rw [given, extracted]
    rfl

namespace TypeNode

theorem commented_iff {node : TypeNode} :
    node.Commented ↔
      (∀ members signature, node = .object ⟨members, signature⟩ →
        ∀ member ∈ members, member.Commented) ∧
      ∀ part : TypeNode, part.PartOf node → part.Commented := by
  constructor
  · intro commented
    refine ⟨?_, fun part isPart members signature inside => ?_⟩
    · rintro members signature rfl
      exact commented members signature .refl
    · exact commented members signature (inside.tail isPart)
  · rintro ⟨own, parts⟩ members signature inside
    rcases Relation.ReflTransGen.cases_tail inside with same | ⟨part, within, isPart⟩
    · exact own members signature same
    · exact parts part isPart members signature within

theorem commented_object_iff {members : List Member} {signature : Option IndexSignature} :
    (TypeNode.object ⟨members, signature⟩).Commented ↔
      (∀ member ∈ members, member.Commented ∧ member.type.Commented) ∧
      ∀ index ∈ signature, index.key.Commented ∧ index.value.Commented := by
  rw [commented_iff]
  constructor
  · rintro ⟨own, parts⟩
    exact ⟨fun member listed => ⟨own members signature rfl member listed,
        parts _ (.memberType listed)⟩,
      fun index given => ⟨parts _ (.indexKey given), parts _ (.indexValue given)⟩⟩
  · rintro ⟨each, both⟩
    refine ⟨?_, fun part isPart => ?_⟩
    · rintro _ _ ⟨⟩
      exact fun member listed => (each member listed).1
    · cases isPart with
      | memberType listed => exact (each _ listed).2
      | indexKey given => exact (both _ given).1
      | indexValue given => exact (both _ given).2

theorem Commented.part {node part : TypeNode} (commented : node.Commented)
    (isPart : part.PartOf node) : part.Commented :=
  (commented_iff.mp commented).2 part isPart

/-! Lists of types and of members, taken one by one. -/

theorem hydrateAll_eq (nodes : List TypeNode) : hydrateAll nodes = nodes.map (·.hydrate) := by
  induction nodes with
  | nil => rfl
  | cons node others induction => rw [hydrateAll, induction, List.map_cons]

theorem hydrateAll_allWithoutDirectives (nodes : List TypeNode) :
    hydrateAll (allWithoutDirectives nodes) = nodes.map (·.withoutDirectives.hydrate) := by
  induction nodes with
  | nil => rfl
  | cons node others induction =>
      rw [allWithoutDirectives, hydrateAll, induction, List.map_cons]

theorem hydrateMembers_allWithoutDirectives (members : List Member) :
    Member.hydrateAll (Member.allWithoutDirectives members) = members.map (·.restored) := by
  induction members with
  | nil => rfl
  | cons member others induction =>
      cases member
      rw [Member.allWithoutDirectives, Member.hydrateAll, induction, List.map_cons]
      rfl

/-! Types that are read for their form, or for the keys that they select. -/

theorem form_withoutDirectives (node : TypeNode) : Agree .form node.withoutDirectives node := by
  induction node with
  | parenthesized inner induction =>
      simpa only [Agree, withoutDirectives, checkRecordKey, patternFragment, unwrap] using induction
  | object members signature =>
      obtain _ | ⟨key, value⟩ := signature <;> exact ⟨fun _ => rfl, rfl⟩
  | _ => exact ⟨fun _ => rfl, rfl⟩

theorem form_restored (node : TypeNode) : Agree .form node.withoutDirectives.hydrate node := by
  induction node with
  | parenthesized inner induction =>
      simpa only [Agree, withoutDirectives, hydrate, checkRecordKey, patternFragment, unwrap]
        using induction
  | object members signature =>
      obtain _ | ⟨key, value⟩ := signature <;> exact ⟨fun _ => rfl, rfl⟩
  | _ => exact ⟨fun _ => rfl, rfl⟩

theorem maskKeysAll_map {utility : Utility} {change : TypeNode → TypeNode} {parts : List TypeNode}
    (same : ∀ part ∈ parts, Agree .selection (change part) part) :
    maskKeysAll utility (parts.map change) = maskKeysAll utility parts := by
  induction parts with
  | nil => rfl
  | cons part others induction =>
      obtain ⟨head, tail⟩ := List.forall_mem_cons.mp same
      rw [List.map_cons, maskKeysAll, maskKeysAll, head utility true, induction tail]

theorem selection_restored (node : TypeNode) :
    Agree .selection node.withoutDirectives.hydrate node := by
  induction node with
  | parenthesized inner induction =>
      intro utility inUnion
      simpa only [withoutDirectives, hydrate, maskKeys] using induction utility inUnion
  | union parts induction =>
      intro utility inUnion
      rw [withoutDirectives, hydrate, hydrateAll_allWithoutDirectives, maskKeys, maskKeys]
      exact maskKeysAll_map induction
  | object members signature =>
      obtain _ | ⟨key, value⟩ := signature <;> exact fun _ _ => rfl
  | _ => exact fun _ _ => rfl

/-! Types that are compiled. -/

section

variable {change : TypeNode → TypeNode} {nodes : List TypeNode}

theorem compileAll_map (same : ∀ node ∈ nodes, (change node).compile = node.compile) :
    compileAll (nodes.map change) = compileAll nodes := by
  induction nodes with
  | nil => rfl
  | cons node others induction =>
      obtain ⟨head, tail⟩ := List.forall_mem_cons.mp same
      rw [List.map_cons, compileAll, compileAll, head, induction tail]

theorem compileAnd_map (schema : Schema)
    (same : ∀ node ∈ nodes, (change node).compile = node.compile) :
    compileAnd schema (nodes.map change) = compileAnd schema nodes := by
  induction nodes generalizing schema with
  | nil => rfl
  | cons node others induction =>
      obtain ⟨head, tail⟩ := List.forall_mem_cons.mp same
      simp only [List.map_cons, compileAnd, head, induction _ tail]

theorem compile_union_map (same : ∀ node ∈ nodes, (change node).compile = node.compile) :
    (TypeNode.union (nodes.map change)).compile = (TypeNode.union nodes).compile := by
  have all := compileAll_map same
  match nodes with
  | [] => rfl
  | [node] => exact same node List.mem_cons_self
  | first :: second :: others =>
      rw [List.map_cons, List.map_cons] at all ⊢
      rw [compile_union_of_two, compile_union_of_two, all]

theorem compile_intersection_map (same : ∀ node ∈ nodes, (change node).compile = node.compile) :
    (TypeNode.intersection (nodes.map change)).compile =
      (TypeNode.intersection nodes).compile := by
  cases nodes with
  | nil => rfl
  | cons node others =>
      obtain ⟨head, tail⟩ := List.forall_mem_cons.mp same
      simp only [List.map_cons, compile, head, compileAnd_map _ tail]

theorem compile_generic_map (name : String)
    (same : ∀ node ∈ nodes, ∀ place, Agree place (change node) node) :
    (TypeNode.generic name (nodes.map change)).compile =
      (TypeNode.generic name nodes).compile := by
  cases application name nodes with
  | arrayOf element =>
      have compiled : (change element).compile = element.compile := same element (by simp) .schema
      rw [List.map_singleton, compile_generic_array, compile_generic_array, compile, compile,
        compiled]
  | record key value =>
      have checked : (change key).checkRecordKey .generic = key.checkRecordKey .generic :=
        (same key (by simp) .form).1 .generic
      have compiled : (change value).compile = value.compile := same value (by simp) .schema
      rw [List.map_cons, List.map_singleton, compile_generic_record, compile_generic_record, checked,
        compiled]
  | allOptional inner =>
      have compiled : (change inner).compile = inner.compile := same inner (by simp) .schema
      rw [List.map_singleton, compile_generic_partial, compile_generic_partial, compiled]
  | allRequired inner =>
      have compiled : (change inner).compile = inner.compile := same inner (by simp) .schema
      rw [List.map_singleton, compile_generic_required, compile_generic_required, compiled]
  | allReadonly inner =>
      have compiled : (change inner).compile = inner.compile := same inner (by simp) .schema
      rw [List.map_singleton, compile_generic_readonly, compile_generic_readonly, compiled]
  | pickKeys inner keys =>
      have compiled : (change inner).compile = inner.compile := same inner (by simp) .schema
      have selected : (change keys).maskKeys .pickKeys false = keys.maskKeys .pickKeys false :=
        same keys (by simp) .selection .pickKeys false
      rw [List.map_cons, List.map_singleton, compile_generic_pick, compile_generic_pick, selected,
        compiled]
  | omitKeys inner keys =>
      have compiled : (change inner).compile = inner.compile := same inner (by simp) .schema
      have selected : (change keys).maskKeys .omitKeys false = keys.maskKeys .omitKeys false :=
        same keys (by simp) .selection .omitKeys false
      rw [List.map_cons, List.map_singleton, compile_generic_omit, compile_generic_omit, selected,
        compiled]
  | wrongArity utility _ wrong =>
      have mapped : (nodes.map change).length ≠ utility.arity := by rwa [List.length_map]
      rw [compile_of_wrongArity wrong, compile_of_wrongArity mapped, List.length_map]
  | unknown _ _ unknown => rw [compile_of_unknown unknown, compile_of_unknown unknown]

end

theorem compileMembers_restored {members : List Member}
    (each : ∀ member ∈ members, member.Commented ∧
      member.type.withoutDirectives.hydrate.compile = member.type.compile) :
    compileMembers (members.map (·.restored)) = compileMembers members := by
  induction members with
  | nil => rfl
  | cons member others induction =>
      obtain ⟨⟨commented, compiled⟩, tail⟩ := List.forall_mem_cons.mp each
      have entry : member.restored.entry = member.entry := by
        funext schema
        simp only [Member.restored, Member.entry, commented.restores]
      have type : member.restored.type.compile = member.type.compile := compiled
      rw [List.map_cons, compileMembers_cons, compileMembers_cons, type, entry, induction tail]

theorem compile_object_restored {members : List Member} (key value : TypeNode)
    (same : compileMembers (members.map (·.restored)) = compileMembers members)
    (compiled : value.withoutDirectives.hydrate.compile = value.compile) :
    (TypeNode.object ⟨members.map (·.restored),
        some ⟨key.withoutDirectives, value.withoutDirectives.hydrate⟩⟩).compile =
      (TypeNode.object ⟨members, some ⟨key, value⟩⟩).compile := by
  have checked : key.withoutDirectives.checkRecordKey .indexSignature =
      key.checkRecordKey .indexSignature := (form_withoutDirectives key).1 _
  cases members with
  | nil => rw [List.map_nil, compile_index_alone, compile_index_alone, checked, compiled]
  | cons member others =>
      rw [List.map_cons] at same ⊢
      rw [compile_index_and_members, compile_index_and_members, checked, compiled, same]

theorem pattern_withoutDirectives (head : String) (spans : List TemplateSpan) :
    TemplateLiteral.pattern ⟨head, TemplateSpan.allWithoutDirectives spans⟩ =
      TemplateLiteral.pattern ⟨head, spans⟩ := by
  have same : TemplateLiteral.spanSource (TemplateSpan.allWithoutDirectives spans) =
      TemplateLiteral.spanSource spans := by
    induction spans with
    | nil => rfl
    | cons span others induction =>
        obtain ⟨type, text⟩ := span
        have fragment := (form_withoutDirectives type).2
        simp only [TemplateSpan.allWithoutDirectives, TemplateLiteral.spanSource, fragment,
          induction]
  simp only [TemplateLiteral.pattern, same]

/-- A type whose members have the directives of their comments compiles to the same schema, or fails
with the same error, when its directives are left out and taken from the comments again. -/
theorem compile_hydrate_withoutDirectives {node : TypeNode} (commented : node.Commented) :
    node.withoutDirectives.hydrate.compile = node.compile := by
  induction node with
  | primitive keyword => rfl
  | literal value => rfl
  | reference name => rfl
  | array element induction =>
      rw [withoutDirectives, hydrate, compile, compile, induction (commented.part (.element _))]
  | tuple elements induction =>
      have same := compileAll_map fun element listed =>
        induction element listed (commented.part (.component listed))
      rw [withoutDirectives, hydrate, hydrateAll_allWithoutDirectives, compile, compile, same]
  | object members signature memberInduction indexInduction =>
      obtain ⟨each, both⟩ := commented_object_iff.mp commented
      have same := compileMembers_restored fun member listed =>
        ⟨(each member listed).1, memberInduction member listed (each member listed).2⟩
      obtain _ | ⟨key, value⟩ := signature
      · rw [withoutDirectives, hydrate, hydrateMembers_allWithoutDirectives, compile, compile, same]
      · rw [withoutDirectives, hydrate, hydrateMembers_allWithoutDirectives]
        exact compile_object_restored key value same
          ((indexInduction _ rfl).2 (both _ rfl).2)
  | union parts induction =>
      rw [withoutDirectives, hydrate, hydrateAll_allWithoutDirectives]
      exact compile_union_map fun part listed =>
        induction part listed (commented.part (.unionPart listed))
  | intersection parts induction =>
      rw [withoutDirectives, hydrate, hydrateAll_allWithoutDirectives]
      exact compile_intersection_map fun part listed =>
        induction part listed (commented.part (.intersectionPart listed))
  | generic name arguments induction =>
      rw [withoutDirectives, hydrate, hydrateAll_allWithoutDirectives]
      refine compile_generic_map name fun argument listed place => ?_
      cases place with
      | schema => exact induction argument listed (commented.part (.argument listed))
      | form => exact form_restored argument
      | selection => exact selection_restored argument
  | template head spans =>
      rw [withoutDirectives, hydrate, compile, compile, pattern_withoutDirectives]
  | parenthesized inner induction =>
      rw [withoutDirectives, hydrate, compile, compile, induction (commented.part (.inner _))]

/-- A member with the directive of its comment, in the type of an index signature's values, and in
the type of its keys, which does not get the directive back. -/
theorem compile_hydrate_withoutDirectives_email :
    let email : Member :=
      ⟨"email", true, .primitive .string, some "/** @format email */", [⟨"format", "email"⟩]⟩
    let contact : TypeNode := .object ⟨[email], none⟩
    let book (key : TypeNode) : TypeNode := .object ⟨[], some ⟨key, contact⟩⟩
    ((book (.primitive .string)).Commented ∧ ∃ schema,
        (book (.primitive .string)).withoutDirectives.hydrate.compile = .ok schema ∧
        schema.render "z" = "z.record(z.object(\x7b\n    /** @format email */\n" ++
          "    email: z.string().email().optional()\n\x7d))") ∧
      (book contact).Commented ∧ (book contact).withoutDirectives.hydrate ≠ book contact ∧
      (book contact).withoutDirectives.hydrate.compile =
        .error (.recordKey .indexSignature "object type") := by
  intro email contact book
  have text : (TypeNode.primitive .string).Commented := commented_iff.mpr ⟨nofun, nofun⟩
  have contactCommented : contact.Commented :=
    commented_object_iff.mpr
      ⟨List.forall_mem_singleton.mpr ⟨.inr ⟨_, rfl, by decide +kernel⟩, text⟩, nofun⟩
  have bookCommented {key : TypeNode} (commented : key.Commented) : (book key).Commented := by
    refine commented_object_iff.mpr ⟨fun member listed => absurd listed List.not_mem_nil, ?_⟩
    rintro index ⟨⟩
    exact ⟨commented, contactCommented⟩
  refine ⟨⟨bookCommented text, ?_⟩, bookCommented contactCommented, ?_, ?_⟩
  · rw [compile_hydrate_withoutDirectives (bookCommented text)]
    exact ⟨_, rfl, by decide +kernel⟩
  · simp [book, contact, email, withoutDirectives, hydrate, Member.allWithoutDirectives]
  · rw [compile_hydrate_withoutDirectives (bookCommented contactCommented)]
    rfl

end TypeNode

end TypeSchema
