import TypeSchema.Proofs.Schema.Details
import TypeSchema.Proofs.TypeNode.Atoms

/-!
Selections of keys. A selecting utility takes the string literals that its second argument is made of,
parentheses and unions taken apart, in order, and fails if there is anything else among them. That one
key at least is named, and none twice, is not checked: the masks of a schema are what the selections of
the type name.
-/

namespace TypeSchema

/-- The utilities that select keys, and the methods that they become. -/
inductive Utility.Selects : Utility → String → Prop
  | pick : Utility.Selects .pickKeys "pick"
  | omit : Utility.Selects .omitKeys "omit"

namespace TypeNode

open Check Result

/-- The type of one key. -/
def ofKey (key : String) : TypeNode :=
  .literal (.string key)

theorem ofKey_injective : Function.Injective ofKey := by
  intro first second same
  cases same
  rfl

/-- A selection that is made of keys, these being the keys. -/
def Names (keys : TypeNode) (names : List String) : Prop :=
  keys.leaves = names.map ofKey

variable {utility : Utility} {inUnion : Bool} {leaf keys : TypeNode} {names : List String}

theorem Names.eq_ofKey (named : keys.Names names) : ∀ leaf ∈ keys.leaves, ∃ key, leaf = ofKey key := by
  rw [named]
  exact List.forall_mem_map.mpr fun key _ => ⟨key, rfl⟩

theorem Names.unique {others : List String} (named : keys.Names names) (also : keys.Names others) :
    names = others :=
  List.map_injective_iff.mpr ofKey_injective (named.symm.trans also)

theorem map_filterMap_ofKey {nodes : List TypeNode} (each : ∀ node ∈ nodes, ∃ key, node = ofKey key) :
    nodes = (nodes.filterMap fun
      | .literal (.string key) => some key
      | _ => none).map ofKey := by
  induction nodes with
  | nil => rfl
  | cons node others induction =>
      obtain ⟨⟨key, rfl⟩, tail⟩ := List.forall_mem_cons.mp each
      exact congrArg (ofKey key :: ·) (induction tail)

theorem selectedKey_fault_of_ne (other : ∀ key, leaf ≠ ofKey key) :
    (Check.selectedKey utility inUnion leaf).fault? =
      some (.keySelection utility leaf.kindName inUnion) := by
  cases leaf with
  | literal value =>
      cases value with
      | string key => exact absurd rfl (other key)
      | _ => rfl
  | _ => rfl

theorem selectedKey_passed_iff :
    (Check.selectedKey utility inUnion leaf).fault? = none ↔ ∃ key, leaf = ofKey key := by
  constructor
  · intro passed
    by_contra other
    rw [selectedKey_fault_of_ne (not_exists.mp other)] at passed
    cases passed
  · rintro ⟨key, rfl⟩
    rfl

theorem maskKeys_isOk_iff :
    (∃ mask, keys.maskKeys utility inUnion = .ok mask) ↔
      ∀ leaf ∈ keys.leaves, ∃ key, leaf = ofKey key := by
  rw [(maskKeys_decided utility inUnion keys).ok_iff, List.forall_mem_map]
  exact forall₂_congr fun leaf _ => selectedKey_passed_iff

theorem maskKeys_eq_ok_iff : keys.maskKeys utility inUnion = .ok names ↔ keys.Names names := by
  have sound : ∀ mask, keys.maskKeys utility inUnion = .ok mask → keys.Names mask := by
    intro mask selected
    have each := maskKeys_isOk_iff.mp ⟨mask, selected⟩
    rw [selectedKeys_of_maskKeys selected]
    exact map_filterMap_ofKey each
  constructor
  · exact sound names
  · intro named
    obtain ⟨mask, selected⟩ := maskKeys_isOk_iff.mpr named.eq_ofKey
    rw [selected, named.unique (sound mask selected)]

/-- The first leaf that is no key is told of, and whether it is a part of a union. -/
theorem maskKeys_eq_error {before : List String} {after : List TypeNode}
    (split : keys.leaves = before.map ofKey ++ leaf :: after) (other : ∀ key, leaf ≠ ofKey key) :
    keys.maskKeys utility inUnion =
      .error (.keySelection utility leaf.kindName (inUnion || keys.unwrap.isUnion)) := by
  rw [(maskKeys_decided utility inUnion keys).error_iff, List.findSome?_eq_some_iff, split,
    List.map_append]
  refine ⟨_, _, _, rfl, selectedKey_fault_of_ne other, ?_⟩
  rw [List.map_map]
  exact List.forall_mem_map.mpr fun key _ => rfl

theorem compile_selecting {method : String} (selects : utility.Selects method)
    (inner keys : TypeNode) :
    (TypeNode.generic utility.name [inner, keys]).compile = do
      let mask ← keys.maskKeys utility false
      return (← inner.compile).chained ⟨method, [.mask mask]⟩ := by
  cases selects <;> rfl

/-- A selecting utility becomes its method, called with the keys that its second argument names. It
fails if something else is among them, whatever it selects from. -/
theorem compile_selection {method : String} (selects : utility.Selects method)
    (inner keys : TypeNode) :
    let node := TypeNode.generic utility.name [inner, keys]
    ((∃ schema, node.compile = .ok schema) ↔
      (∀ leaf ∈ keys.leaves, ∃ key, leaf = ofKey key) ∧ ∃ schema, inner.compile = .ok schema) ∧
    (∀ names, keys.leaves = names.map ofKey → node.compile = do
      return (← inner.compile).chained ⟨method, [.mask names]⟩) ∧
    ∀ (before : List String) (leaf : TypeNode) (after : List TypeNode),
      keys.leaves = before.map ofKey ++ leaf :: after → (∀ key, leaf ≠ ofKey key) →
      node.compile = .error (.keySelection utility leaf.kindName keys.unwrap.isUnion) := by
  intro node
  have steps := compile_selecting selects inner keys
  refine ⟨?_, ?_, ?_⟩
  · rw [← @maskKeys_isOk_iff utility false keys, steps]
    constructor
    · rintro ⟨schema, compiled⟩
      obtain ⟨mask, selected, rest⟩ := bind_eq_ok_iff.mp compiled
      obtain ⟨whole, innerCompiled, -⟩ := bind_eq_ok_iff.mp rest
      exact ⟨⟨mask, selected⟩, whole, innerCompiled⟩
    · rintro ⟨⟨mask, selected⟩, whole, innerCompiled⟩
      rw [selected, innerCompiled]
      exact ⟨_, rfl⟩
  · intro names named
    rw [steps, maskKeys_eq_ok_iff.mpr named]
    rfl
  · intro before leaf after split other
    rw [steps, maskKeys_eq_error split other, Bool.false_or]
    rfl

theorem compile_selection_nested :
    let hero : TypeNode := .reference "Hero"
    let keys : TypeNode :=
      .parenthesized (.union [ofKey "b", .parenthesized (.union [ofKey "a", .union [ofKey "c"]])])
    let mixed : TypeNode := .union [ofKey "a", .parenthesized (.reference "Key"), .primitive .string]
    Utility.Selects .pickKeys "pick" ∧ Utility.Selects .omitKeys "omit" ∧
      keys.leaves = ["b", "a", "c"].map ofKey ∧
      (TypeNode.generic "Pick" [hero, keys]).compile = (do
        return (← hero.compile).chained ⟨"pick", [.mask ["b", "a", "c"]]⟩) ∧
      mixed.leaves = ["a"].map ofKey ++ .reference "Key" :: [.primitive .string] ∧
      (∀ key, TypeNode.reference "Key" ≠ ofKey key) ∧
      (TypeNode.generic "Omit" [.union [], mixed]).compile =
        .error (.keySelection .omitKeys "type reference" true) := by
  intro hero keys mixed
  have named : keys.leaves = ["b", "a", "c"].map ofKey := rfl
  have split : mixed.leaves = ["a"].map ofKey ++ .reference "Key" :: [.primitive .string] := rfl
  have other : ∀ key, TypeNode.reference "Key" ≠ ofKey key := fun _ => nofun
  exact ⟨.pick, .omit, named, (compile_selection .pick hero keys).2.1 _ named, split, other,
    (compile_selection .omit (.union []) mixed).2.2 _ _ _ split other⟩

end TypeNode

end TypeSchema
