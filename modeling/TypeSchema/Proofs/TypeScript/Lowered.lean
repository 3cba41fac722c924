import TypeSchema.Proofs.Result
import TypeSchema.TypeScript.Source

/-!
Induction on what lowering gives. A property of types that every step of the lowering keeps holds of
all types that are lowered from trees. There is one step for each form of tree, except that the
forms without parts have one together. The form of the tree can in part be told from the type.
-/

namespace TypeSchema.TypeScript

open Result

/-- A word is the keyword that it spells, else a name. -/
theorem wordType_cases (word : String) :
    (∃ keyword, wordType word = .primitive keyword) ∨
      (Primitive.ofKeyword? word = none ∧ wordType word = .reference word) := by
  unfold wordType
  split
  next keyword _ => exact .inl ⟨keyword, rfl⟩
  next unknown => exact .inr ⟨unknown, rfl⟩

/-- A member put together from a property and the documentation comment before it, if one stands
there; its type has a property. -/
def DocumentedOf (holds : TypeNode → Prop) (member : Member) : Prop :=
  ∃ key optional type comment, holds type ∧ (∀ text ∈ comment, isDocComment text = true) ∧
    member = documented (.plain key optional type) comment

/-- A property of types that the steps of the lowering keep. -/
structure LoweringKeeps (holds : TypeNode → Prop) : Prop where
  primitive : ∀ keyword, holds (.primitive keyword)
  literal : ∀ value, holds (.literal value)
  word : ∀ word, holds (wordType word)
  qualified : ∀ qualifier name : String, holds (.reference (qualifier ++ "." ++ name))
  applied : ∀ name arguments, (∀ argument ∈ arguments, holds argument) →
    holds (appliedType name arguments)
  array : ∀ element, holds element → holds (.array element)
  tuple : ∀ elements, (∀ element ∈ elements, holds element) → holds (.tuple elements)
  parenthesized : ∀ inner, holds inner → holds (.parenthesized inner)
  union : ∀ first others, (∀ node ∈ first :: others, holds node) →
    holds (.union ((first :: others).flatMap unionParts))
  intersection : ∀ first others, (∀ node ∈ first :: others, holds node) →
    holds (.intersection ((first :: others).flatMap intersectionParts))
  object : ∀ members signature, (∀ member ∈ members, DocumentedOf holds member) →
    (∀ index ∈ signature, holds index.key ∧ holds index.value) →
    holds (.object ⟨members, signature⟩)
  template : ∀ head spans, (∀ span ∈ spans, holds span.type) → holds (.template ⟨head, spans⟩)

/-- A body as the lowering puts it together: its members have their documentation comments, and
their types and the index signature have a property. -/
structure BodyOf (holds : TypeNode → Prop) (body : ObjectType) : Prop where
  members : ∀ member ∈ body.members, DocumentedOf holds member
  signature : ∀ index ∈ body.indexSignature, holds index.key ∧ holds index.value

theorem BodyOf.cons {holds : TypeNode → Prop} {member : Member} {body : ObjectType}
    (first : DocumentedOf holds member) (rest : BodyOf holds body) :
    BodyOf holds { body with members := member :: body.members } :=
  ⟨List.forall_mem_cons.mpr ⟨first, rest.members⟩, rest.signature⟩

variable {holds : TypeNode → Prop}

mutual

theorem TypeTree.lower_induct (keeps : LoweringKeeps holds) :
    (tree : TypeTree) → ∀ {node : TypeNode},
    tree.lower = .ok node → holds node
  | .keyword text, node, lowered => by
      unfold TypeTree.lower at lowered
      split at lowered
      · cases lowered
        exact keeps.primitive _
      · cases lowered
  | .name text, _, rfl => keeps.word text
  | .qualifiedName qualifier name, _, rfl => keeps.qualified qualifier name
  | .generic name arguments, node, lowered => by
      obtain ⟨nodes, all, result⟩ := bind_eq_ok_iff.mp lowered
      cases result
      exact keeps.applied name nodes (TypeTree.lowerAll_induct keeps arguments all)
  | .string _, _, rfl => keeps.literal _
  | .number _, _, rfl => keeps.literal _
  | .boolean _, _, rfl => keeps.literal _
  | .null, _, rfl => keeps.primitive _
  | .undefined, _, rfl => keeps.primitive _
  | .array element, node, lowered => by
      obtain ⟨inner, first, result⟩ := bind_eq_ok_iff.mp lowered
      cases result
      exact keeps.array inner (element.lower_induct keeps first)
  | .tuple elements, node, lowered => by
      obtain ⟨nodes, all, result⟩ := bind_eq_ok_iff.mp lowered
      cases result
      exact keeps.tuple nodes (TypeTree.lowerAll_induct keeps elements all)
  | .parenthesized tree, node, lowered => by
      obtain ⟨inner, first, result⟩ := bind_eq_ok_iff.mp lowered
      cases result
      exact keeps.parenthesized inner (tree.lower_induct keeps first)
  | .union first others, node, lowered => by
      obtain ⟨part, head, lowered⟩ := bind_eq_ok_iff.mp lowered
      obtain ⟨parts, tail, result⟩ := bind_eq_ok_iff.mp lowered
      cases result
      exact keeps.union part parts (List.forall_mem_cons.mpr
        ⟨first.lower_induct keeps head, TypeTree.lowerAll_induct keeps others tail⟩)
  | .intersection first others, node, lowered => by
      obtain ⟨part, head, lowered⟩ := bind_eq_ok_iff.mp lowered
      obtain ⟨parts, tail, result⟩ := bind_eq_ok_iff.mp lowered
      cases result
      exact keeps.intersection part parts (List.forall_mem_cons.mpr
        ⟨first.lower_induct keeps head, TypeTree.lowerAll_induct keeps others tail⟩)
  | .object items, node, lowered => by
      obtain ⟨⟨members, signature⟩, all, result⟩ := bind_eq_ok_iff.mp lowered
      cases result
      have body := BodyItem.lowerAll_induct keeps none none nofun nofun items all
      exact keeps.object members signature body.members body.signature
  | .template text pieces, node, lowered => by
      unfold TypeTree.lower at lowered
      split at lowered
      · obtain ⟨⟨head, spans⟩, all, result⟩ := bind_eq_ok_iff.mp lowered
        cases result
        exact keeps.template head spans (TemplatePiece.lowerAll_induct keeps [] pieces all)
      · cases lowered
  | .other _ _, _, lowered => nomatch lowered

theorem TypeTree.lowerAll_induct (keeps : LoweringKeeps holds) :
    (trees : List TypeTree) → ∀ {nodes : List TypeNode},
    TypeTree.lowerAll trees = .ok nodes → ∀ node ∈ nodes, holds node
  | [], _, rfl => nofun
  | tree :: others, nodes, lowered => by
      obtain ⟨node, rest, head, tail, rfl⟩ := cons_eq_ok_iff.mp lowered
      exact List.forall_mem_cons.mpr
        ⟨tree.lower_induct keeps head, TypeTree.lowerAll_induct keeps others tail⟩

theorem BodyItem.lowerAll_induct (keeps : LoweringKeeps holds) (comment : Option String)
    (signature : Option IndexSignature)
    (documents : ∀ text ∈ comment, isDocComment text = true)
    (given : ∀ index ∈ signature, holds index.key ∧ holds index.value) :
    (items : List BodyItem) → ∀ {body : ObjectType},
      BodyItem.lowerAll comment signature items = .ok body → BodyOf holds body
  | [], _, rfl => ⟨nofun, given⟩
  | .comment text :: others, body, lowered => by
      refine BodyItem.lowerAll_induct keeps _ signature ?_ given others lowered
      split
      next documents => exact fun _ same => Option.some.inj same ▸ documents
      next => nofun
  | .property name optional none :: others, body, lowered => by
      obtain ⟨key, _, lowered⟩ := bind_eq_ok_iff.mp lowered
      obtain ⟨rest, tail, result⟩ := bind_eq_ok_iff.mp lowered
      cases result
      exact .cons ⟨key, optional, _, comment, keeps.primitive .any, documents, rfl⟩
        (BodyItem.lowerAll_induct keeps none signature nofun given others tail)
  | .property name optional (some tree) :: others, body, lowered => by
      obtain ⟨key, _, lowered⟩ := bind_eq_ok_iff.mp lowered
      obtain ⟨type, own, lowered⟩ := bind_eq_ok_iff.mp lowered
      obtain ⟨rest, tail, result⟩ := bind_eq_ok_iff.mp lowered
      cases result
      exact .cons ⟨key, optional, type, comment, tree.lower_induct keeps own, documents, rfl⟩
        (BodyItem.lowerAll_induct keeps none signature nofun given others tail)
  | .indexSignature keyTree valueTree :: others, body, lowered => by
      obtain ⟨key, keyLowered, lowered⟩ := bind_eq_ok_iff.mp lowered
      obtain ⟨value, valueLowered, lowered⟩ := bind_eq_ok_iff.mp lowered
      refine BodyItem.lowerAll_induct keeps none _ nofun ?_ others lowered
      rintro index ⟨⟩
      exact ⟨keyTree.lower_induct keeps keyLowered, valueTree.lower_induct keeps valueLowered⟩
  | .mappedType _ :: _, _, lowered => nomatch lowered
  | .other _ :: _, _, lowered => nomatch lowered

theorem TemplatePiece.lowerAll_induct (keeps : LoweringKeeps holds) (raw : List Char) :
    (pieces : List TemplatePiece) →
    ∀ {text : String} {spans : List TemplateSpan},
      TemplatePiece.lowerAll raw pieces = .ok (text, spans) → ∀ span ∈ spans, holds span.type
  | [], _, _, rfl => nofun
  | .text _ :: others, _, _, lowered => TemplatePiece.lowerAll_induct keeps _ others lowered
  | .stray text :: others, _, _, lowered => by
      unfold TemplatePiece.lowerAll at lowered
      split at lowered
      · exact TemplatePiece.lowerAll_induct keeps _ others lowered
      · cases lowered
  | .hole tree :: others, _, _, lowered => by
      obtain ⟨node, own, lowered⟩ := bind_eq_ok_iff.mp lowered
      obtain ⟨⟨text, spans⟩, tail, result⟩ := bind_eq_ok_iff.mp lowered
      cases result
      exact List.forall_mem_cons.mpr
        ⟨tree.lower_induct keeps own, TemplatePiece.lowerAll_induct keeps [] others tail⟩

end

theorem TypeTree.eq_intersection_of_lower {tree : TypeTree} {parts : List TypeNode}
    (lowered : tree.lower = .ok (.intersection parts)) :
    ∃ first others, tree = .intersection first others := by
  cases tree with
  | intersection first others => exact ⟨first, others, rfl⟩
  | keyword text =>
      unfold TypeTree.lower at lowered
      split at lowered <;> cases lowered
  | name word =>
      have same := Except.ok.inj lowered
      obtain ⟨keyword, known⟩ | ⟨-, unknown⟩ := wordType_cases word
      · cases known.symm.trans same
      · cases unknown.symm.trans same
  | generic name arguments =>
      obtain ⟨nodes, -, result⟩ := bind_eq_ok_iff.mp lowered
      have same := Except.ok.inj result
      unfold appliedType at same
      split at same <;> cases same
  | array element =>
      obtain ⟨inner, -, result⟩ := bind_eq_ok_iff.mp lowered
      cases result
  | tuple elements =>
      obtain ⟨nodes, -, result⟩ := bind_eq_ok_iff.mp lowered
      cases result
  | parenthesized tree =>
      obtain ⟨inner, -, result⟩ := bind_eq_ok_iff.mp lowered
      cases result
  | union first others =>
      obtain ⟨part, -, lowered⟩ := bind_eq_ok_iff.mp lowered
      obtain ⟨parts, -, result⟩ := bind_eq_ok_iff.mp lowered
      cases result
  | object items =>
      obtain ⟨body, -, result⟩ := bind_eq_ok_iff.mp lowered
      cases result
  | template text pieces =>
      unfold TypeTree.lower at lowered
      split at lowered
      · obtain ⟨⟨head, spans⟩, -, result⟩ := bind_eq_ok_iff.mp lowered
        cases result
      · cases lowered
  | _ => cases lowered

/-- An interface is its body, after its bases if it has any. -/
theorem DeclarationTree.lower_interface {name : String} {bases : List TypeTree}
    {items : List BodyItem} {declaration : Declaration}
    (lowered : (DeclarationTree.interface name bases items).lower = .ok declaration) :
    ∃ body parts, BodyItem.lowerAll none none items = .ok body ∧
      TypeTree.lowerAll bases = .ok parts ∧ (declaration = ⟨name, .object body⟩ ∨
        declaration = ⟨name, .intersection (parts ++ [.object body])⟩) := by
  obtain ⟨body, own, lowered⟩ := bind_eq_ok_iff.mp lowered
  obtain ⟨parts, extended, result⟩ := bind_eq_ok_iff.mp lowered
  refine ⟨body, parts, own, extended, ?_⟩
  cases result
  cases parts with
  | nil => exact .inl rfl
  | cons base others => exact .inr rfl

end TypeSchema.TypeScript
