import Mathlib.Data.List.Forall2
import TypeSchema.Proofs.Result
import TypeSchema.Proofs.TypeNode.Compilation
import TypeSchema.Proofs.TypeNode.Induction

/-!
How the schema of a type is built from the schemas of its parts, one rule for each form of type. A
property of types and their schemas that every rule keeps holds of each type that has a schema.
-/

namespace TypeSchema

open Result

theorem forall_of_forall₂ {α β : Type} {related : α → β → Prop} {p : β → Prop} {first : List α}
    {second : List β} (pairs : List.Forall₂ related first second)
    (each : ∀ x y, related x y → p y) : ∀ y ∈ second, p y := by
  have both : List.Forall₂ (fun y x => p y ∧ related x y) second first :=
    pairs.flip.imp fun y x pair => ⟨each x y pair, pair⟩
  exact ((List.forall₂_and_left _ _).mp both).1

theorem forall_iff_of_forall₂ {α β : Type} {related : α → β → Prop} {p : α → Prop} {q : β → Prop}
    {first : List α} {second : List β} (pairs : List.Forall₂ related first second)
    (each : ∀ x y, related x y → (p x ↔ q y)) : (∀ x ∈ first, p x) ↔ ∀ y ∈ second, q y := by
  induction pairs with
  | nil => simp only [List.not_mem_nil, false_implies, implies_true]
  | cons pair _ induction =>
      rw [List.forall_mem_cons, List.forall_mem_cons, each _ _ pair, induction]

namespace TypeNode

/-- What a member becomes if `part` tells what its type becomes. -/
def BuildsEntry (part : TypeNode → Schema → Prop) (member : Member) (entry : ShapeEntry) : Prop :=
  ∃ schema, part member.type schema ∧ entry = member.entry schema

/-- What a type becomes if `part` tells what the types inside it become. -/
inductive Builds (part : TypeNode → Schema → Prop) : TypeNode → Schema → Prop
  | primitive (keyword : Primitive) : Builds part (.primitive keyword) (.bare keyword.keyword)
  | literal (value : Literal) : Builds part (.literal value) (.ofCall "literal" [.literal value])
  | reference (name : String) : Builds part (.reference name) (.reference (Name.schemaName name))
  | array {element : TypeNode} {schema : Schema} (built : part element schema) :
      Builds part (.array element) (.arrayOf schema)
  | tuple {elements : List TypeNode} {schemas : List Schema}
      (built : List.Forall₂ part elements schemas) :
      Builds part (.tuple elements) (.ofCall "tuple" [.schemas schemas])
  | object {members : List Member} {entries : List ShapeEntry}
      (shape : List.Forall₂ (BuildsEntry part) members entries) :
      Builds part (.object ⟨members, none⟩) (.objectOf entries)
  | index {signature : IndexSignature} {schema : Schema} (built : part signature.value schema) :
      Builds part (.object ⟨[], some signature⟩) (.recordOf schema)
  | indexAndMembers {signature : IndexSignature} {member : Member} {others : List Member}
      {schema : Schema} {entries : List ShapeEntry} (built : part signature.value schema)
      (shape : List.Forall₂ (BuildsEntry part) (member :: others) entries) :
      Builds part (.object ⟨member :: others, some signature⟩)
        ((Schema.recordOf schema).and (.objectOf entries))
  | onlyPart {node : TypeNode} {schema : Schema} (built : part node schema) :
      Builds part (.union [node]) schema
  | union {first second : TypeNode} {others : List TypeNode} {schemas : List Schema}
      (built : List.Forall₂ part (first :: second :: others) schemas) :
      Builds part (.union (first :: second :: others)) (.ofCall "union" [.schemas schemas])
  | intersection {node : TypeNode} {others : List TypeNode} {schema : Schema}
      {schemas : List Schema} (built : part node schema) (more : List.Forall₂ part others schemas) :
      Builds part (.intersection (node :: others)) (schemas.foldl .and schema)
  | arrayOf {element : TypeNode} {schema : Schema} (built : part element schema) :
      Builds part (.generic "Array" [element]) (.arrayOf schema)
  | record {key value : TypeNode} {schema : Schema} (built : part value schema) :
      Builds part (.generic "Record" [key, value]) (.recordOf schema)
  | allOptional {inner : TypeNode} {schema : Schema} (built : part inner schema) :
      Builds part (.generic "Partial" [inner]) (schema.chained (.bare "partial"))
  | allRequired {inner : TypeNode} {schema : Schema} (built : part inner schema) :
      Builds part (.generic "Required" [inner]) (schema.chained (.bare "required"))
  | allReadonly {inner : TypeNode} {schema : Schema} (built : part inner schema) :
      Builds part (.generic "Readonly" [inner]) schema
  | pickKeys {inner keys : TypeNode} {schema : Schema} {mask : List String}
      (built : part inner schema) (selected : keys.maskKeys .pickKeys false = .ok mask) :
      Builds part (.generic "Pick" [inner, keys]) (schema.chained ⟨"pick", [.mask mask]⟩)
  | omitKeys {inner keys : TypeNode} {schema : Schema} {mask : List String}
      (built : part inner schema) (selected : keys.maskKeys .omitKeys false = .ok mask) :
      Builds part (.generic "Omit" [inner, keys]) (schema.chained ⟨"omit", [.mask mask]⟩)
  | template {text : TemplateLiteral} {pattern : Pattern} (made : text.pattern = .ok pattern) :
      Builds part (.template text) ((Schema.bare "string").chained ⟨"regex", [.pattern pattern]⟩)
  | parenthesized {inner : TypeNode} {schema : Schema} (built : part inner schema) :
      Builds part (.parenthesized inner) schema

variable {part : TypeNode → Schema → Prop} {schema : Schema}

theorem builds_compileAll {nodes : List TypeNode} {schemas : List Schema}
    (each : ∀ node ∈ nodes, ∀ schema, node.compile = .ok schema → part node schema)
    (compiled : compileAll nodes = .ok schemas) : List.Forall₂ part nodes schemas := by
  induction nodes generalizing schemas with
  | nil =>
      cases compiled
      exact .nil
  | cons node others induction =>
      obtain ⟨head, tail⟩ := List.forall_mem_cons.mp each
      obtain ⟨schema, rest, first, compiledRest, rfl⟩ := cons_eq_ok_iff.mp compiled
      exact .cons (head schema first) (induction tail compiledRest)

theorem builds_compileMembers {members : List Member} {entries : List ShapeEntry}
    (each : ∀ member ∈ members, ∀ schema, member.type.compile = .ok schema →
      part member.type schema)
    (compiled : compileMembers members = .ok entries) :
    List.Forall₂ (BuildsEntry part) members entries := by
  induction members generalizing entries with
  | nil =>
      cases compiled
      exact .nil
  | cons member others induction =>
      obtain ⟨head, tail⟩ := List.forall_mem_cons.mp each
      rw [compileMembers_cons] at compiled
      obtain ⟨schema, first, compiled⟩ := bind_eq_ok_iff.mp compiled
      obtain ⟨rest, compiledRest, result⟩ := bind_eq_ok_iff.mp compiled
      cases result
      exact .cons ⟨schema, head schema first, rfl⟩ (induction tail compiledRest)

theorem builds_compileAnd {nodes : List TypeNode} {whole : Schema}
    (each : ∀ node ∈ nodes, ∀ schema, node.compile = .ok schema → part node schema)
    (compiled : compileAnd schema nodes = .ok whole) :
    ∃ schemas, List.Forall₂ part nodes schemas ∧ whole = schemas.foldl .and schema := by
  induction nodes generalizing schema with
  | nil =>
      cases compiled
      exact ⟨[], .nil, rfl⟩
  | cons node others induction =>
      obtain ⟨head, tail⟩ := List.forall_mem_cons.mp each
      obtain ⟨other, first, compiled⟩ := bind_eq_ok_iff.mp compiled
      obtain ⟨schemas, built, rfl⟩ := induction tail compiled
      exact ⟨other :: schemas, .cons (head other first) built, rfl⟩

theorem builds_object {members : List Member} {signature : Option IndexSignature}
    (each : ∀ node : TypeNode, node.PartOf (.object ⟨members, signature⟩) →
      ∀ schema, node.compile = .ok schema → part node schema)
    (compiled : (TypeNode.object ⟨members, signature⟩).compile = .ok schema) :
    Builds part (.object ⟨members, signature⟩) schema := by
  have shape : ∀ entries, compileMembers members = .ok entries →
      List.Forall₂ (BuildsEntry part) members entries := fun entries membersCompiled =>
    builds_compileMembers (fun member listed => each _ (.memberType listed)) membersCompiled
  cases signature with
  | none =>
      obtain ⟨entries, membersCompiled, result⟩ := bind_eq_ok_iff.mp compiled
      cases result
      exact .object (shape entries membersCompiled)
  | some signature =>
      have value := each signature.value (.indexValue rfl)
      cases members with
      | nil =>
          rw [compile_index_alone] at compiled
          obtain ⟨_, _, rest⟩ := bind_eq_ok_iff.mp compiled
          obtain ⟨schema, valueCompiled, result⟩ := bind_eq_ok_iff.mp rest
          cases result
          exact .index (value schema valueCompiled)
      | cons member others =>
          rw [compile_index_and_members] at compiled
          obtain ⟨_, _, rest⟩ := bind_eq_ok_iff.mp compiled
          obtain ⟨schema, valueCompiled, rest⟩ := bind_eq_ok_iff.mp rest
          obtain ⟨entries, membersCompiled, result⟩ := bind_eq_ok_iff.mp rest
          cases result
          exact .indexAndMembers (value schema valueCompiled) (shape entries membersCompiled)

theorem builds_union {parts : List TypeNode}
    (each : ∀ node ∈ parts, ∀ schema, node.compile = .ok schema → part node schema)
    (compiled : (TypeNode.union parts).compile = .ok schema) :
    Builds part (.union parts) schema := by
  match parts with
  | [] => cases compiled
  | [node] => exact .onlyPart (each node List.mem_cons_self schema compiled)
  | first :: second :: others =>
      rw [compile_union_of_two] at compiled
      obtain ⟨schemas, allCompiled, result⟩ := bind_eq_ok_iff.mp compiled
      cases result
      exact .union (builds_compileAll each allCompiled)

theorem builds_intersection {parts : List TypeNode}
    (each : ∀ node ∈ parts, ∀ schema, node.compile = .ok schema → part node schema)
    (compiled : (TypeNode.intersection parts).compile = .ok schema) :
    Builds part (.intersection parts) schema := by
  cases parts with
  | nil => cases compiled
  | cons node others =>
      obtain ⟨head, tail⟩ := List.forall_mem_cons.mp each
      obtain ⟨first, firstCompiled, rest⟩ := bind_eq_ok_iff.mp compiled
      obtain ⟨schemas, built, rfl⟩ := builds_compileAnd tail rest
      exact .intersection (head first firstCompiled) built

theorem builds_generic {name : String} {arguments : List TypeNode}
    (each : ∀ node ∈ arguments, ∀ schema, node.compile = .ok schema → part node schema)
    (compiled : (TypeNode.generic name arguments).compile = .ok schema) :
    Builds part (.generic name arguments) schema := by
  cases application name arguments with
  | arrayOf element =>
      rw [compile_generic_array] at compiled
      obtain ⟨inner, elementCompiled, result⟩ := bind_eq_ok_iff.mp compiled
      cases result
      exact .arrayOf (each element (by simp) inner elementCompiled)
  | record key value =>
      rw [compile_generic_record] at compiled
      obtain ⟨_, _, rest⟩ := bind_eq_ok_iff.mp compiled
      obtain ⟨inner, valueCompiled, result⟩ := bind_eq_ok_iff.mp rest
      cases result
      exact .record (each value (by simp) inner valueCompiled)
  | allOptional node =>
      rw [compile_generic_partial] at compiled
      obtain ⟨inner, nodeCompiled, result⟩ := bind_eq_ok_iff.mp compiled
      cases result
      exact .allOptional (each node (by simp) inner nodeCompiled)
  | allRequired node =>
      rw [compile_generic_required] at compiled
      obtain ⟨inner, nodeCompiled, result⟩ := bind_eq_ok_iff.mp compiled
      cases result
      exact .allRequired (each node (by simp) inner nodeCompiled)
  | allReadonly node =>
      rw [compile_generic_readonly] at compiled
      exact .allReadonly (each node (by simp) schema compiled)
  | pickKeys node keys =>
      rw [compile_generic_pick] at compiled
      obtain ⟨mask, selected, rest⟩ := bind_eq_ok_iff.mp compiled
      obtain ⟨inner, nodeCompiled, result⟩ := bind_eq_ok_iff.mp rest
      cases result
      exact .pickKeys (each node (by simp) inner nodeCompiled) selected
  | omitKeys node keys =>
      rw [compile_generic_omit] at compiled
      obtain ⟨mask, selected, rest⟩ := bind_eq_ok_iff.mp compiled
      obtain ⟨inner, nodeCompiled, result⟩ := bind_eq_ok_iff.mp rest
      cases result
      exact .omitKeys (each node (by simp) inner nodeCompiled) selected
  | wrongArity utility _ wrong =>
      rw [compile_of_wrongArity wrong] at compiled
      cases compiled
  | unknown _ _ unknown =>
      rw [compile_of_unknown unknown] at compiled
      cases compiled

theorem builds_of_compile {node : TypeNode}
    (each : ∀ inside : TypeNode, inside.PartOf node →
      ∀ schema, inside.compile = .ok schema → part inside schema)
    (compiled : node.compile = .ok schema) : Builds part node schema := by
  cases node with
  | primitive keyword =>
      cases compiled
      exact .primitive keyword
  | literal value =>
      cases compiled
      exact .literal value
  | reference name =>
      cases compiled
      exact .reference name
  | array element =>
      obtain ⟨inner, elementCompiled, result⟩ := bind_eq_ok_iff.mp compiled
      cases result
      exact .array (each element (.element element) inner elementCompiled)
  | tuple elements =>
      obtain ⟨schemas, allCompiled, result⟩ := bind_eq_ok_iff.mp compiled
      cases result
      exact .tuple (builds_compileAll (fun node listed => each node (.component listed)) allCompiled)
  | object body =>
      obtain ⟨members, signature⟩ := body
      exact builds_object each compiled
  | union parts => exact builds_union (fun node listed => each node (.unionPart listed)) compiled
  | intersection parts =>
      exact builds_intersection (fun node listed => each node (.intersectionPart listed)) compiled
  | generic name arguments =>
      exact builds_generic (fun node listed => each node (.argument listed)) compiled
  | template text =>
      obtain ⟨pattern, made, result⟩ := bind_eq_ok_iff.mp compiled
      cases result
      exact .template made
  | parenthesized inner => exact .parenthesized (each inner (.inner inner) schema compiled)

theorem compile_induct {motive : TypeNode → Schema → Prop}
    (step : ∀ node schema,
      Builds (fun inside schema =>
        inside.PartOf node ∧ inside.compile = .ok schema ∧ motive inside schema) node schema →
      motive node schema)
    {node : TypeNode} {schema : Schema} (compiled : node.compile = .ok schema) :
    motive node schema := by
  induction node using parts_induct generalizing schema with
  | step node induction =>
      refine step node schema (builds_of_compile ?_ compiled)
      intro inside isPart inner innerCompiled
      exact ⟨isPart, innerCompiled, induction inside isPart innerCompiled⟩

end TypeNode

end TypeSchema
