import TypeSchema.Declaration.Source
import TypeSchema.Proofs.Json.RoundTrip
import TypeSchema.Proofs.TypeNode.Induction

/-!
Declarations read back from their JSON. Each reader undoes its writer as long as it reads the types
inside, and these are nested less deeply than the type they stand in.
-/

namespace TypeSchema

namespace Json

/-! What the readers of fields make of written values. -/

section

variable {α : Type} {read? : Json → Option α} {absent : α} {json : Json}

@[simp]
theorem byName_object (names : List String) (fields : List (String × Json)) :
    byName? names (.object fields) = names.mapM (field? · fields) := rfl

@[simp]
theorem byNameOrPosition_object (names : List String) (fields : List (String × Json)) :
    byNameOrPosition? names (.object fields) = names.mapM (field? · fields) := rfl

@[simp]
theorem asString_string (text : String) : asString? (.string text) = some text := rfl

@[simp]
theorem asBool_bool (value : Bool) : asBool? (.bool value) = some value := rfl

@[simp]
theorem asKind_string (lenient : Bool) (name : String) :
    asKind? lenient (.string name) = some name := rfl

@[simp]
theorem required_some : required? read? (some json) = read? json := rfl

@[simp]
theorem defaulted_none : defaulted? absent read? none = some absent := rfl

@[simp]
theorem defaulted_some : defaulted? absent read? (some json) = read? json := rfl

@[simp]
theorem optional_none : optional? read? none = some none := rfl

@[simp]
theorem optional_string (text : String) :
    optional? read? (some (.string text)) = (read? (.string text)).map some := rfl

@[simp]
theorem optional_object (fields : List (String × Json)) :
    optional? read? (some (.object fields)) = (read? (.object fields)).map some := rfl

end

theorem asList_map {α : Type} {read? : Json → Option α} {write : α → Json} {values : List α}
    (reads : ∀ value ∈ values, read? (write value) = some value) :
    asList? read? (.array (values.map write)) = some values := by
  rw [asList?]
  induction values with
  | nil => rfl
  | cons value others induction =>
      obtain ⟨head, tail⟩ := List.forall_mem_cons.mp reads
      rw [List.map_cons, List.mapM_cons, head, induction tail]
      rfl

theorem depth_le_depthOfItems {item : Json} {items : List Json} (listed : item ∈ items) :
    item.depth ≤ depthOfItems items := by
  induction listed with
  | head others => exact Nat.le_max_left _ _
  | tail other _ induction => exact Nat.le_trans induction (Nat.le_max_right _ _)

theorem depth_le_depthOfItems_map {α : Type} {write : α → Json} {value : α} {values : List α}
    (listed : value ∈ values) : (write value).depth ≤ depthOfItems (values.map write) :=
  depth_le_depthOfItems (List.mem_map_of_mem listed)

theorem depth_tagged (kind : String) (value : Json) :
    (tagged kind value).depth = value.depth + 1 := by
  simp [tagged, Json.depth, depthOfFields]

theorem kinded_tagged (lenient : Bool) (kind : String) (value : Json) :
    kinded? "kind" lenient (tagged kind value) = some ⟨kind, value, lenient⟩ := by
  simp [kinded?, tagged, field?]

end Json

open Json

theorem Primitive.ofJsonName_jsonName (keyword : Primitive) :
    Primitive.ofJsonName? keyword.jsonName = some keyword := by
  cases keyword <;> decide

theorem Literal.ofJson_toJson (lenient : Bool) (value : Literal) :
    Literal.ofJson? lenient value.toJson = some value := by
  cases value <;>
    simp [Literal.ofJson?, Literal.toJson, kinded?, field?]

theorem Directive.ofJson_toJson (directive : Directive) :
    Directive.ofJson? directive.toJson = some directive := by
  simp [Directive.ofJson?, Directive.toJson, field?]

theorem TypeNode.allToJson_eq_map (nodes : List TypeNode) :
    TypeNode.allToJson nodes = nodes.map (·.toJson) := by
  induction nodes with
  | nil => rfl
  | cons node others induction => rw [TypeNode.allToJson, induction]; rfl

theorem Member.allToJson_eq_map (members : List Member) :
    Member.allToJson members = members.map (·.toJson) := by
  induction members with
  | nil => rfl
  | cons member others induction => rw [Member.allToJson, induction]; rfl

def TemplateSpan.toJson (span : TemplateSpan) : Json :=
  .object [("type", span.type.toJson), ("literal", .string span.literal)]

theorem TemplateSpan.allToJson_eq_map (spans : List TemplateSpan) :
    TemplateSpan.allToJson spans = spans.map (·.toJson) := by
  induction spans with
  | nil => rfl
  | cons span others induction =>
      obtain ⟨type, text⟩ := span
      rw [TemplateSpan.allToJson, induction]
      rfl

section

variable {readType? : Json → Option TypeNode}

theorem TypeNode.asList_toJson {nodes : List TypeNode}
    (reads : ∀ node ∈ nodes, readType? node.toJson = some node) :
    asList? readType? (.array (TypeNode.allToJson nodes)) = some nodes := by
  rw [TypeNode.allToJson_eq_map]
  exact asList_map reads

theorem Member.ofJson_toJson (member : Member)
    (type : readType? member.type.toJson = some member.type) :
    Member.ofJson? readType? member.toJson = some member := by
  obtain ⟨key, optional, node, comment, directives⟩ := member
  have listed : asList? Directive.ofJson? (.array (directives.map (·.toJson))) = some directives :=
    asList_map fun directive _ => directive.ofJson_toJson
  cases comment <;> cases directives <;>
    simp_all [Member.ofJson?, Member.toJson, field?]

theorem ObjectType.ofJson_toJson (body : ObjectType)
    (memberReads : ∀ member ∈ body.members, readType? member.type.toJson = some member.type)
    (indexReads : ∀ index ∈ body.indexSignature, readType? index.key.toJson = some index.key ∧
      readType? index.value.toJson = some index.value) :
    ObjectType.ofJson? readType? body.toJson = some body := by
  obtain ⟨members, _ | ⟨key, value⟩⟩ := body
  all_goals
    have listed : asList? (Member.ofJson? readType?) (.array (Member.allToJson members)) =
        some members := by
      rw [Member.allToJson_eq_map]
      exact asList_map fun member listed => member.ofJson_toJson (memberReads member listed)
  · simp [ObjectType.ofJson?, ObjectType.toJson, field?, listed]
  · obtain ⟨keyReads, valueReads⟩ := indexReads _ rfl
    simp [ObjectType.ofJson?, ObjectType.toJson, IndexSignature.ofJson?, field?, listed, keyReads,
      valueReads]

theorem TemplateSpan.ofJson_toJson (span : TemplateSpan)
    (type : readType? span.type.toJson = some span.type) :
    TemplateSpan.ofJson? readType? span.toJson = some span := by
  cases span
  simp [TemplateSpan.ofJson?, TemplateSpan.toJson, field?, type]

theorem TemplateLiteral.ofJson_toJson (text : TemplateLiteral)
    (reads : ∀ span ∈ text.spans, readType? span.type.toJson = some span.type) :
    TemplateLiteral.ofJson? readType? text.toJson = some text := by
  obtain ⟨head, spans⟩ := text
  have listed : asList? (TemplateSpan.ofJson? readType?)
      (.array (TemplateSpan.allToJson spans)) = some spans := by
    rw [TemplateSpan.allToJson_eq_map]
    exact asList_map fun span listed => span.ofJson_toJson (reads span listed)
  simp [TemplateLiteral.ofJson?, TemplateLiteral.toJson, field?, listed]

end

namespace TypeNode

theorem ofKinded_toJson {readType? : TypeReader} {lenient : Bool} (node : TypeNode)
    (reads : ∀ part : TypeNode, part.PartOf node → readType? lenient part.toJson = some part) :
    (kinded? "kind" lenient node.toJson).bind (ofKinded? readType?) = some node := by
  cases node with
  | primitive keyword =>
      rw [toJson, kinded_tagged]
      simp [ofKinded?, keyword.ofJsonName_jsonName]
  | literal value =>
      rw [toJson, kinded_tagged]
      simp [ofKinded?, value.ofJson_toJson]
  | reference name =>
      rw [toJson, kinded_tagged]
      simp [ofKinded?]
  | array element =>
      rw [toJson, kinded_tagged]
      simp [ofKinded?, reads element (.element element)]
  | tuple elements =>
      rw [toJson, kinded_tagged]
      simp [ofKinded?, asList_toJson fun element listed => reads element (.component listed)]
  | object body =>
      obtain ⟨members, signature⟩ := body
      have read := ObjectType.ofJson_toJson ⟨members, signature⟩
        (fun member listed => reads _ (.memberType listed))
        (fun index given => ⟨reads _ (.indexKey given), reads _ (.indexValue given)⟩)
      rw [toJson, kinded_tagged]
      simp [ofKinded?, read]
  | union parts =>
      rw [toJson, kinded_tagged]
      simp [ofKinded?, asList_toJson fun part listed => reads part (.unionPart listed)]
  | intersection parts =>
      rw [toJson, kinded_tagged]
      simp [ofKinded?, asList_toJson fun part listed => reads part (.intersectionPart listed)]
  | generic name arguments =>
      rw [toJson, kinded_tagged]
      simp [ofKinded?, genericOfJson?, field?,
        asList_toJson fun argument listed => reads argument (.argument listed)]
  | template text =>
      obtain ⟨head, spans⟩ := text
      have read := TemplateLiteral.ofJson_toJson ⟨head, spans⟩ fun span listed =>
        reads _ (.hole listed)
      rw [toJson, kinded_tagged]
      simp [ofKinded?, read]
  | parenthesized inner =>
      rw [toJson, kinded_tagged]
      simp [ofKinded?, reads inner (.inner inner)]

theorem depth_toJson_le {node : TypeNode} {nodes : List TypeNode} (listed : node ∈ nodes) :
    node.toJson.depth ≤ depthOfItems (allToJson nodes) := by
  rw [allToJson_eq_map]
  exact depth_le_depthOfItems_map listed

theorem depth_memberType_lt {members : List Member} {signature : Option IndexSignature}
    {member : Member} (listed : member ∈ members) :
    member.type.toJson.depth < (ObjectType.toJson ⟨members, signature⟩).depth := by
  have within : member.toJson.depth ≤ depthOfItems (Member.allToJson members) := by
    rw [Member.allToJson_eq_map]
    exact depth_le_depthOfItems_map listed
  have inMember : member.type.toJson.depth ≤ member.toJson.depth := by
    obtain ⟨key, optional, type, comment, directives⟩ := member
    simp only [Member.toJson, List.cons_append, Json.depth, depthOfFields]
    omega
  obtain _ | ⟨key, value⟩ := signature <;>
    simp only [ObjectType.toJson, Json.depth, depthOfFields] <;>
    omega

theorem depth_index_lt (members : List Member) (index : IndexSignature) :
    index.key.toJson.depth < (ObjectType.toJson ⟨members, some index⟩).depth ∧
      index.value.toJson.depth < (ObjectType.toJson ⟨members, some index⟩).depth := by
  obtain ⟨key, value⟩ := index
  simp only [ObjectType.toJson, Json.depth, depthOfFields]
  omega

theorem depth_spanType_lt {head : String} {spans : List TemplateSpan} {span : TemplateSpan}
    (listed : span ∈ spans) :
    span.type.toJson.depth < (TemplateLiteral.toJson ⟨head, spans⟩).depth := by
  have within : span.toJson.depth ≤ depthOfItems (TemplateSpan.allToJson spans) := by
    rw [TemplateSpan.allToJson_eq_map]
    exact depth_le_depthOfItems_map listed
  simp only [TemplateSpan.toJson, TemplateLiteral.toJson, Json.depth, depthOfFields] at within ⊢
  omega

theorem PartOf.depth_lt {part node : TypeNode} (inside : part.PartOf node) :
    part.toJson.depth < node.toJson.depth := by
  cases inside with
  | element => rw [toJson, depth_tagged]; omega
  | component listed =>
      have within := depth_toJson_le listed
      rw [toJson, depth_tagged, Json.depth]
      omega
  | memberType listed =>
      rw [toJson, depth_tagged]
      exact Nat.lt_succ_of_lt (depth_memberType_lt listed)
  | indexKey given =>
      obtain rfl := Option.mem_def.mp given
      rw [toJson, depth_tagged]
      exact Nat.lt_succ_of_lt (depth_index_lt _ _).1
  | indexValue given =>
      obtain rfl := Option.mem_def.mp given
      rw [toJson, depth_tagged]
      exact Nat.lt_succ_of_lt (depth_index_lt _ _).2
  | unionPart listed =>
      have within := depth_toJson_le listed
      rw [toJson, depth_tagged, Json.depth]
      omega
  | intersectionPart listed =>
      have within := depth_toJson_le listed
      rw [toJson, depth_tagged, Json.depth]
      omega
  | argument listed =>
      have within := depth_toJson_le listed
      rw [toJson, depth_tagged]
      simp only [Json.depth, depthOfFields]
      omega
  | hole listed =>
      rw [toJson, depth_tagged]
      exact Nat.lt_succ_of_lt (depth_spanType_lt listed)
  | inner => rw [toJson, depth_tagged]; omega

/-- A type is read back from its JSON, unless it is nested too deeply. -/
theorem ofJsonWithin_toJson (node : TypeNode) (lenient : Bool) (depth : Nat)
    (deep : node.toJson.depth ≤ depth) : ofJsonWithin? depth lenient node.toJson = some node := by
  induction node using parts_induct generalizing depth with
  | step node induction =>
      obtain _ | depth := depth
      · cases node <;> simp [toJson, depth_tagged] at deep
      · rw [ofJsonWithin?]
        refine ofKinded_toJson node fun part inside => induction part inside depth ?_
        have less := inside.depth_lt
        omega

theorem toJson_numberless (node : TypeNode) : node.toJson.Numberless := by
  induction node with
  | primitive keyword => simp [toJson, tagged]
  | literal value => cases value <;> simp [toJson, Literal.toJson, tagged]
  | reference name => simp [toJson, tagged]
  | array element induction => simp [toJson, tagged, induction]
  | tuple elements induction => simpa [toJson, tagged, allToJson_eq_map] using induction
  | object members signature memberInduction indexInduction =>
      have each : ∀ member ∈ members, member.toJson.Numberless := by
        intro ⟨key, optional, type, comment, directives⟩ listed
        have inside := memberInduction _ listed
        cases comment <;> cases directives <;>
          simp_all [Member.toJson, Directive.toJson]
      obtain _ | ⟨key, value⟩ := signature
      · simpa [toJson, ObjectType.toJson, tagged, Member.allToJson_eq_map] using each
      · obtain ⟨keyInduction, valueInduction⟩ := indexInduction _ rfl
        simpa [toJson, ObjectType.toJson, tagged, Member.allToJson_eq_map, keyInduction,
          valueInduction] using each
  | union parts induction => simpa [toJson, tagged, allToJson_eq_map] using induction
  | intersection parts induction => simpa [toJson, tagged, allToJson_eq_map] using induction
  | generic name arguments induction =>
      simpa [toJson, tagged, allToJson_eq_map] using induction
  | template head spans induction =>
      simpa [toJson, TemplateLiteral.toJson, tagged, TemplateSpan.allToJson_eq_map,
        TemplateSpan.toJson] using induction
  | parenthesized inner induction => simp [toJson, tagged, induction]

end TypeNode

namespace Declaration

theorem toJson_numberless (declaration : Declaration) : declaration.toJson.Numberless := by
  simp [toJson, TypeNode.toJson_numberless]

theorem ofJson_toJson (declaration : Declaration) :
    ofJson? declaration.toJson = some declaration := by
  simp [ofJson?, toJson, field?, TypeNode.ofJson?, TypeNode.ofJsonWithin_toJson]

/-- A list of declarations is never taken for one declaration written as an array. -/
theorem ofJson_list (declarations : List Declaration) :
    ofJson? (.array (declarations.map (·.toJson))) = none := by
  match declarations with
  | [] => rfl
  | [declaration] => rfl
  | [declaration, other] => rfl
  | first :: second :: third :: others =>
      simp [ofJson?, byNameOrPosition?]

theorem listOfJson_list (declarations : List Declaration) :
    listOfJson? (.array (declarations.map (·.toJson))) = some declarations := by
  rw [listOfJson?, ofJson_list]
  exact asList_map fun declaration _ => declaration.ofJson_toJson

theorem readJson_render {json : Json} {declarations : List Declaration} (form : json.Numberless)
    (deep : json.depth ≤ maxDepth) (read : listOfJson? json = some declarations) :
    readJson json.render = .ok (declarations.map (·.hydrate)) := by
  rw [readJson, render, String.toList_ofList, readFirst_write form deep]
  simp only [read]
  rfl

/-- Declarations survive their JSON: a list of them, and one alone, is read back from the text it is
written as, unless arrays and objects are nested too deeply in it, and every member whose directives
are not written has those of its comment. A list is not read as one declaration by position. -/
theorem readJson_toJson :
    (∀ declarations : List Declaration,
      (Json.array (declarations.map (·.toJson))).depth ≤ maxDepth →
        readJson (Json.array (declarations.map (·.toJson))).render =
          .ok (declarations.map (·.hydrate))) ∧
      (∀ declaration : Declaration, declaration.toJson.depth ≤ maxDepth →
        readJson declaration.toJson.render = .ok [declaration.hydrate]) ∧
      ∀ declarations : List Declaration,
        Declaration.ofJson? (.array (declarations.map (·.toJson))) = none := by
  refine ⟨fun declarations deep => ?_, fun declaration deep => ?_, ofJson_list⟩
  · have form : (Json.array (declarations.map (·.toJson))).Numberless := by
      simp [toJson_numberless]
    exact readJson_render form deep (listOfJson_list declarations)
  · have read : listOfJson? declaration.toJson = some [declaration] := by
      rw [listOfJson?, ofJson_toJson]
    exact readJson_render declaration.toJson_numberless deep read

/-- A declaration whose member is given the directive of its comment. -/
theorem readJson_toJson_contact :
    let contact : List Directive → Declaration := fun directives =>
      ⟨"Contact", .object ⟨[⟨"e-\"mail\"", true, .parenthesized (.array (.reference "Text")),
          some "/** @format\temail */", directives⟩],
        some ⟨.primitive .bigint, .template ⟨"\x01", [⟨.generic "Map" [], "\\"⟩]⟩⟩⟩⟩
    let json := (contact []).toJson
    ((Json.array [json]).depth ≤ maxDepth ∧
        readJson (Json.array [json]).render = .ok [contact [⟨"format", "email"⟩]]) ∧
      (json.depth ≤ maxDepth ∧ readJson json.render = .ok [contact [⟨"format", "email"⟩]]) ∧
      Declaration.ofJson? (.array [.string "Contact", (contact []).node.toJson]) =
        some (contact []) ∧
      Declaration.ofJson? (.array [json, json]) = none := by
  intro contact json
  have alone : json.depth ≤ maxDepth := by decide
  have listed : (Json.array [json]).depth ≤ maxDepth := by decide
  obtain ⟨list, single, never⟩ := readJson_toJson
  refine ⟨⟨listed, list [contact []] listed⟩, ⟨alone, single (contact []) alone⟩, ?_,
    never [contact [], contact []]⟩
  rfl

end Declaration

end TypeSchema
