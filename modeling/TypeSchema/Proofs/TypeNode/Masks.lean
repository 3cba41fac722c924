import Mathlib.Data.List.Nodup
import TypeSchema.Proofs.TypeNode.Selection
import TypeSchema.Schema.Render

/-!
The masks of a schema: one for each selection of keys that is compiled, in order, with the keys that the
selection names. A mask is empty, or names a key twice, exactly where a selection does.
-/

namespace TypeSchema

def Detail.mask? : Detail → Option (List String)
  | mask keys => some keys
  | _ => none

/-- The masks among the arguments of a call, at any depth. -/
def Call.masks (call : Call) : List (List String) :=
  call.details.filterMap Detail.mask?

namespace Schema

/-- The masks in a schema expression at any depth, from left to right. -/
def masks (schema : Schema) : List (List String) :=
  schema.details.filterMap Detail.mask?

variable (schema other : Schema)

theorem masks_chainedAll {calls : List Call} (plain : ∀ call ∈ calls, call.masks = []) :
    (schema.chainedAll calls).masks = schema.masks := by
  have none : (calls.flatMap Call.details).filterMap Detail.mask? = [] := by
    rw [List.filterMap_flatMap, List.flatMap_eq_nil_iff]
    exact plain
  rw [masks, details_chainedAll, List.filterMap_append, none, List.append_nil, masks]

theorem masks_chained (call : Call) : (schema.chained call).masks = schema.masks ++ call.masks := by
  rw [masks, details_chained, List.filterMap_append, masks, Call.masks]

theorem masks_chained_bare (name : String) :
    (schema.chained (.bare name)).masks = schema.masks := by
  rw [masks_chained]
  exact List.append_nil _

theorem masks_and : (schema.and other).masks = schema.masks ++ other.masks := by
  rw [masks, details_and, List.filterMap_append, masks, masks]
  rfl

theorem masks_foldl_and (others : List Schema) :
    (others.foldl .and schema).masks = schema.masks ++ others.flatMap masks := by
  induction others generalizing schema with
  | nil => exact (List.append_nil _).symm
  | cons other others induction =>
      rw [List.foldl_cons, induction, masks_and, List.flatMap_cons, List.append_assoc]

theorem masks_ofCall_schema (name : String) : (ofCall name [.schema schema]).masks = schema.masks := by
  rw [masks, details_ofCall]
  rfl

theorem masks_ofCall_schemas (name : String) (schemas : List Schema) :
    (ofCall name [.schemas schemas]).masks = schemas.flatMap masks := by
  rw [masks, details_ofCall, Argument.details, detailsAll_eq_flatMap]
  exact List.filterMap_flatMap ..

theorem masks_objectOf (entries : List ShapeEntry) :
    (objectOf entries).masks = entries.flatMap fun entry => entry.schema.masks := by
  have inside : ∀ entry ∈ entries, entry.details.filterMap Detail.mask? = entry.schema.masks := by
    rintro ⟨key, comment, schema⟩ -
    rfl
  have shape : (objectOf entries).masks = (entries.flatMap ShapeEntry.details).filterMap Detail.mask? := by
    rw [masks, objectOf, details_ofCall, Argument.details, ShapeEntry.detailsAll_eq_flatMap]
    rfl
  rw [shape, List.filterMap_flatMap, List.flatMap_congr inside]

end Schema

theorem Call.Refines.masks {call : Call} (refines : call.Refines) : call.masks = [] := by
  cases refines <;> rfl

theorem Member.calls_masks (member : Member) : ∀ call ∈ member.calls, call.masks = [] := by
  intro call listed
  rcases List.mem_append.mp listed with refines | optional
  · exact (Directive.refinements_refine member.directives call refines).masks
  · split at optional
    · obtain rfl := List.mem_singleton.mp optional
      rfl
    · cases optional

namespace TypeNode

/-! The selections that are compiled when a type is, from left to right: those of the utilities in it
that select keys. There are none in a key of a record, in a selection or in a hole of a template. -/

mutual

def selections : TypeNode → List TypeNode
  | .primitive _ => []
  | .literal _ => []
  | .reference _ => []
  | .array element => element.selections
  | .tuple elements => selectionsAll elements
  | .object ⟨members, none⟩ => memberSelections members
  | .object ⟨members, some ⟨_, value⟩⟩ => value.selections ++ memberSelections members
  | .union parts => selectionsAll parts
  | .intersection parts => selectionsAll parts
  | .generic name arguments =>
    match name, arguments with
    | "Array", [element] => element.selections
    | "Record", [_, value] => value.selections
    | "Partial", [inner] => inner.selections
    | "Required", [inner] => inner.selections
    | "Readonly", [inner] => inner.selections
    | "Pick", [inner, keys] => inner.selections ++ [keys]
    | "Omit", [inner, keys] => inner.selections ++ [keys]
    | _, _ => []
  | .template _ => []
  | .parenthesized inner => inner.selections

def selectionsAll : List TypeNode → List TypeNode
  | [] => []
  | node :: others => node.selections ++ selectionsAll others

def memberSelections : List Member → List TypeNode
  | [] => []
  | ⟨_, _, type, _, _⟩ :: others => type.selections ++ memberSelections others

end

/-- A type and a schema whose masks are what the selections of the type name. -/
def NamesMasks (node : TypeNode) (schema : Schema) : Prop :=
  List.Forall₂ Names node.selections schema.masks

theorem namesMasks_all {nodes : List TypeNode} {schemas : List Schema}
    (pairs : List.Forall₂ NamesMasks nodes schemas) :
    List.Forall₂ Names (selectionsAll nodes) (schemas.flatMap Schema.masks) := by
  induction pairs with
  | nil => exact .nil
  | cons pair _ induction => exact List.rel_append pair induction

theorem namesMasks_members {members : List Member} {entries : List ShapeEntry}
    (pairs : List.Forall₂ (BuildsEntry NamesMasks) members entries) :
    List.Forall₂ Names (memberSelections members)
      (entries.flatMap fun entry => entry.schema.masks) := by
  induction pairs with
  | nil => exact .nil
  | @cons member entry members entries pair _ induction =>
      obtain ⟨schema, named, rfl⟩ := pair
      have masks : (member.entry schema).schema.masks = schema.masks := by
        rw [Member.entry_schema, Schema.masks_chainedAll schema member.calls_masks]
      have selections : memberSelections (member :: members) =
          member.type.selections ++ memberSelections members := by
        cases member
        rfl
      rw [selections, List.flatMap_cons, masks]
      exact List.rel_append named induction

theorem namesMasks_chained {inner keys node : TypeNode} {schema : Schema} {method : String}
    {utility : Utility} {mask : List String} (named : NamesMasks inner schema)
    (selected : keys.maskKeys utility false = .ok mask)
    (selections : node.selections = inner.selections ++ [keys]) :
    NamesMasks node (schema.chained ⟨method, [.mask mask]⟩) := by
  rw [NamesMasks, selections, Schema.masks_chained]
  exact List.rel_append named (.cons (maskKeys_eq_ok_iff.mp selected) .nil)

theorem namesMasks_of_compile {node : TypeNode} {schema : Schema}
    (compiled : node.compile = .ok schema) : NamesMasks node schema := by
  refine compile_induct (motive := NamesMasks) ?_ compiled
  intro node schema built
  have named : ∀ (inside : TypeNode) (schema : Schema),
      (inside.PartOf node ∧ inside.compile = .ok schema ∧ NamesMasks inside schema) →
      NamesMasks inside schema := fun _ _ part => part.2.2
  have shape : ∀ {members entries}, List.Forall₂ (BuildsEntry fun inside schema =>
        inside.PartOf node ∧ inside.compile = .ok schema ∧ NamesMasks inside schema)
        members entries →
      List.Forall₂ Names (memberSelections members) (Schema.objectOf entries).masks := by
    intro members entries pairs
    rw [Schema.masks_objectOf]
    exact namesMasks_members (pairs.imp fun _ _ ⟨schema, part, made⟩ => ⟨schema, part.2.2, made⟩)
  cases built with
  | primitive keyword => exact .nil
  | literal value => exact .nil
  | reference name => exact .nil
  | array built =>
      rw [NamesMasks, Schema.arrayOf, Schema.masks_ofCall_schema]
      exact built.2.2
  | tuple built =>
      rw [NamesMasks, Schema.masks_ofCall_schemas]
      exact namesMasks_all (built.imp named)
  | object pairs => exact shape pairs
  | @index signature schema built =>
      obtain ⟨key, value⟩ := signature
      rw [NamesMasks, Schema.recordOf, Schema.masks_ofCall_schema, selections, memberSelections,
        List.append_nil]
      exact built.2.2
  | @indexAndMembers signature member others schema entries built pairs =>
      obtain ⟨key, value⟩ := signature
      rw [NamesMasks, Schema.masks_and, Schema.recordOf, Schema.masks_ofCall_schema]
      exact List.rel_append built.2.2 (shape pairs)
  | onlyPart built =>
      rw [NamesMasks, selections, selectionsAll, selectionsAll, List.append_nil]
      exact built.2.2
  | union built =>
      rw [NamesMasks, Schema.masks_ofCall_schemas]
      exact namesMasks_all (built.imp named)
  | intersection built more =>
      rw [NamesMasks, Schema.masks_foldl_and]
      exact List.rel_append built.2.2 (namesMasks_all (more.imp named))
  | arrayOf built =>
      rw [NamesMasks, Schema.arrayOf, Schema.masks_ofCall_schema]
      exact built.2.2
  | record built =>
      rw [NamesMasks, Schema.recordOf, Schema.masks_ofCall_schema]
      exact built.2.2
  | allOptional built =>
      rw [NamesMasks, Schema.masks_chained_bare]
      exact built.2.2
  | allRequired built =>
      rw [NamesMasks, Schema.masks_chained_bare]
      exact built.2.2
  | allReadonly built => exact built.2.2
  | pickKeys built selected => exact namesMasks_chained built.2.2 selected rfl
  | omitKeys built selected => exact namesMasks_chained built.2.2 selected rfl
  | template made => exact .nil
  | parenthesized built => exact built.2.2

theorem Names.filled_iff {keys : TypeNode} {mask : List String} (named : keys.Names mask) :
    keys.leaves ≠ [] ∧ keys.leaves.Nodup ↔ mask ≠ [] ∧ mask.Nodup := by
  rw [named, Ne, Ne, List.map_eq_nil_iff, List.nodup_map_iff ofKey_injective]

/-- The masks of a schema are what the selections of its type name, so that each of them has a key, and
no key twice, exactly if each selection does. -/
theorem masks_of_compile {node : TypeNode} {schema : Schema}
    (compiled : node.compile = .ok schema) :
    List.Forall₂ Names node.selections schema.masks ∧
      ((∀ mask ∈ schema.masks, mask ≠ [] ∧ mask.Nodup) ↔
        ∀ keys ∈ node.selections, keys.leaves ≠ [] ∧ keys.leaves.Nodup) := by
  have named : List.Forall₂ Names node.selections schema.masks := namesMasks_of_compile compiled
  exact ⟨named, (forall_iff_of_forall₂ named fun _ _ pair => pair.filled_iff).symm⟩

theorem masks_of_nested_selections :
    let keys : TypeNode := .union [ofKey "a", .parenthesized (.union [ofKey "b"])]
    let picked : TypeNode := .generic "Pick" [.reference "Hero", keys]
    let node : TypeNode :=
      .array (.object ⟨[.plain "x" true picked], some ⟨.primitive .string,
        .generic "Omit" [.parenthesized picked, ofKey "c"]⟩⟩)
    ∃ schema, node.compile = .ok schema ∧ schema.masks = [["a", "b"], ["c"], ["a", "b"]] ∧
      node.selections = [keys, ofKey "c", keys] ∧
      ∀ mask ∈ schema.masks, mask ≠ [] ∧ mask.Nodup := by
  intro keys picked node
  have compiled : ∃ schema, node.compile = .ok schema := ⟨_, rfl⟩
  obtain ⟨schema, compiled⟩ := compiled
  obtain ⟨named, filled⟩ := masks_of_compile compiled
  have two : keys.Names ["a", "b"] := rfl
  have one : (ofKey "c").Names ["c"] := rfl
  have each : ∀ selection ∈ [keys, ofKey "c", keys],
      selection.leaves ≠ [] ∧ selection.leaves.Nodup := by
    refine List.forall_mem_cons.mpr ⟨two.filled_iff.mpr (by decide), ?_⟩
    refine List.forall_mem_cons.mpr ⟨one.filled_iff.mpr (by decide), ?_⟩
    exact List.forall_mem_singleton.mpr (two.filled_iff.mpr (by decide))
  refine ⟨schema, compiled, ?_, rfl, filled.mpr each⟩
  cases compiled
  rfl

/-- A key that a selection names twice is twice in its mask, and a selection of nothing has an empty
mask. -/
theorem compile_pick_same_key_twice :
    let twice : TypeNode := .generic "Pick" [.reference "Hero", .union [ofKey "a", ofKey "a"]]
    let nothing : TypeNode := .generic "Pick" [.reference "Hero", .union []]
    ∃ schema empty, twice.compile = .ok schema ∧ schema.masks = [["a", "a"]] ∧
      ¬ (["a", "a"] : List String).Nodup ∧
      schema.render "z" = "heroSchema.pick(\x7b \"a\": true, \"a\": true \x7d)" ∧
      nothing.compile = .ok empty ∧ empty.masks = [[]] := by
  refine ⟨_, _, rfl, rfl, by decide, by decide, rfl, rfl⟩

end TypeNode

end TypeSchema
