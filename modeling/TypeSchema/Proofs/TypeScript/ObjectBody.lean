import Mathlib.Data.List.Forall2
import TypeSchema.Proofs.Result
import TypeSchema.TypeScript.Source

/-!
The body of an object type or of an interface, item by item. Its properties become the members, in
order, each with the documentation comment that stands directly before it; of its index signatures
only the last is left. So a body loses nothing exactly if it has one index signature at most.
-/

namespace TypeSchema.TypeScript

open Result

/-- A property of a body, and the item that stands directly before it. -/
structure Property where
  previous : Option BodyItem
  name : PropertyName
  optional : Bool
  type : Option TypeTree

namespace BodyItem

/-- The property that an item is, after the item before it. -/
def property? : Option BodyItem × BodyItem → Option Property
  | (previous, .property name optional type) => some ⟨previous, name, optional, type⟩
  | _ => none

/-- The properties among items that stand after another item, or at the start. -/
def propertiesAfter (previous : Option BodyItem) (items : List BodyItem) : List Property :=
  ((previous :: items.map some).zip items).filterMap property?

def properties : List BodyItem → List Property :=
  propertiesAfter none

def signature? : BodyItem → Option (TypeTree × TypeTree)
  | .indexSignature key value => some (key, value)
  | _ => none

/-- The index signatures among items, by the trees of their keys and values. -/
def signatures (items : List BodyItem) : List (TypeTree × TypeTree) :=
  items.filterMap signature?

end BodyItem

/-- The type that is written after a property; any type if there is none. -/
def annotatedType : Option TypeTree → Except GenerateError TypeNode
  | none => .ok (.primitive .any)
  | some tree => tree.lower

/-- What becomes of a property. The member has a comment exactly if a documentation comment stands
directly before the property. -/
structure Property.LowersTo (property : Property) (member : Member) : Prop where
  key : property.name.key = .ok member.key
  optional : member.optional = property.optional
  type : annotatedType property.type = .ok member.type
  comment : ∀ text : String, member.comment = some text ↔
    property.previous = some (.comment text) ∧ ['/', '*', '*'] <+: text.toList
  directives : member.directives = member.comment.elim [] DocComment.directives

def SignatureLowersTo (trees : TypeTree × TypeTree) (index : IndexSignature) : Prop :=
  trees.1.lower = .ok index.key ∧ trees.2.lower = .ok index.value

/-- The documentation comment that an item is, if it is one. -/
def documentationOf : Option BodyItem → Option String
  | some (.comment text) => if isDocComment text then some text else none
  | _ => none

theorem documentationOf_eq_some_iff {previous : Option BodyItem} {text : String} :
    documentationOf previous = some text ↔
      previous = some (.comment text) ∧ ['/', '*', '*'] <+: text.toList := by
  unfold documentationOf
  split
  next comment =>
    rw [Option.ite_none_right_eq_some, isDocComment, List.isPrefixOf_iff_prefix]
    constructor
    · rintro ⟨documents, ⟨⟩⟩
      exact ⟨rfl, documents⟩
    · rintro ⟨⟨⟩, documents⟩
      exact ⟨documents, rfl⟩
  next other => exact iff_of_false nofun fun both => other text both.1

theorem lowersTo_documented {previous : Option BodyItem} {name : PropertyName} {optional : Bool}
    {tree : Option TypeTree} {key : String} {type : TypeNode} (named : name.key = .ok key)
    (annotated : annotatedType tree = .ok type) :
    Property.LowersTo ⟨previous, name, optional, tree⟩
      (documented (.plain key optional type) (documentationOf previous)) := by
  have comment : (documented (.plain key optional type) (documentationOf previous)).comment =
      documentationOf previous := by
    cases documentationOf previous <;> rfl
  refine ⟨?_, ?_, ?_, fun text => by rw [comment, documentationOf_eq_some_iff], ?_⟩
  all_goals cases documentationOf previous
  all_goals first | exact named | exact annotated | rfl

namespace BodyItem

variable {previous : Option BodyItem} {signature : Option IndexSignature} {item : BodyItem}
  {others items : List BodyItem} {body : ObjectType}

/-- What one item does to the body that the items after it give, in which the item is the one
directly before the first. -/
inductive LowersBefore (previous : Option BodyItem) (signature : Option IndexSignature)
    (others : List BodyItem) : BodyItem → ObjectType → Prop
  | comment (text : String) {body : ObjectType}
      (tail : lowerAll (documentationOf (some (.comment text))) signature others = .ok body) :
      LowersBefore previous signature others (.comment text) body
  | property {name : PropertyName} {optional : Bool} {type : Option TypeTree} {member : Member}
      {rest : ObjectType} (lowersTo : Property.LowersTo ⟨previous, name, optional, type⟩ member)
      (tail : lowerAll (documentationOf (some (.property name optional type))) signature others =
        .ok rest) :
      LowersBefore previous signature others (.property name optional type)
        ⟨member :: rest.members, rest.indexSignature⟩
  | indexSignature {key value : TypeTree} {index : IndexSignature} {body : ObjectType}
      (lowersTo : SignatureLowersTo (key, value) index)
      (tail : lowerAll (documentationOf (some (.indexSignature key value))) (some index) others =
        .ok body) :
      LowersBefore previous signature others (.indexSignature key value) body

theorem lowersBefore_of_lowerAll
    (lowered : lowerAll (documentationOf previous) signature (item :: others) = .ok body) :
    LowersBefore previous signature others item body := by
  cases item with
  | comment text => exact .comment text lowered
  | property name optional tree =>
      cases tree with
      | none =>
          obtain ⟨key, named, lowered⟩ := bind_eq_ok_iff.mp lowered
          obtain ⟨rest, tail, result⟩ := bind_eq_ok_iff.mp lowered
          cases result
          exact .property (lowersTo_documented named rfl) tail
      | some tree =>
          obtain ⟨key, named, lowered⟩ := bind_eq_ok_iff.mp lowered
          obtain ⟨type, annotated, lowered⟩ := bind_eq_ok_iff.mp lowered
          obtain ⟨rest, tail, result⟩ := bind_eq_ok_iff.mp lowered
          cases result
          exact .property (lowersTo_documented named annotated) tail
  | indexSignature key value =>
      obtain ⟨keyNode, keyLowered, lowered⟩ := bind_eq_ok_iff.mp lowered
      obtain ⟨valueNode, valueLowered, lowered⟩ := bind_eq_ok_iff.mp lowered
      exact .indexSignature ⟨keyLowered, valueLowered⟩ lowered
  | mappedType text => cases lowered
  | other form => cases lowered

theorem propertiesAfter_cons :
    propertiesAfter previous (item :: others) =
      (property? (previous, item)).toList ++ propertiesAfter (some item) others := by
  simp only [propertiesAfter, List.map_cons, List.zip_cons_cons, List.filterMap_cons]
  cases property? (previous, item) <;> rfl

/-- The documentation comment of the next property is that of the item before it, at every place of
the body. -/
theorem lowerAll_members
    (lowered : lowerAll (documentationOf previous) signature items = .ok body) :
    List.Forall₂ Property.LowersTo (propertiesAfter previous items) body.members := by
  induction items generalizing previous signature body with
  | nil =>
      cases lowered
      exact .nil
  | cons item others induction =>
      rw [propertiesAfter_cons]
      cases lowersBefore_of_lowerAll lowered with
      | comment text tail => exact induction tail
      | property lowersTo tail => exact .cons lowersTo (induction tail)
      | indexSignature lowersTo tail => exact induction tail

/-- The index signature of a body is its last, or else the one from before. -/
theorem lowerAll_signature
    (lowered : lowerAll (documentationOf previous) signature items = .ok body) :
    (signatures items = [] ∧ body.indexSignature = signature) ∨
      ∃ before last index, signatures items = before ++ [last] ∧
        body.indexSignature = some index ∧ SignatureLowersTo last index := by
  induction items generalizing previous signature body with
  | nil =>
      cases lowered
      exact .inl ⟨rfl, rfl⟩
  | cons item others induction =>
      cases lowersBefore_of_lowerAll lowered with
      | comment text tail => exact induction tail
      | property lowersTo tail =>
          have rest := induction tail
          exact rest
      | @indexSignature key value index _ lowersTo tail =>
          rcases induction tail with ⟨none, same⟩ | ⟨before, last, later, split, same, lowersLater⟩
          · exact .inr ⟨[], (key, value), index, congrArg ((key, value) :: ·) none, same, lowersTo⟩
          · exact .inr ⟨(key, value) :: before, last, later, congrArg ((key, value) :: ·) split, same,
              lowersLater⟩

/-- The properties of a body become its members, in order and no others, and a member has a comment
exactly if a documentation comment stands directly before its property: that comment, with its
directives. -/
theorem members_of_lowerAll {items : List BodyItem} {body : ObjectType}
    (lowered : lowerAll none none items = .ok body) :
    List.Forall₂ Property.LowersTo (properties items) body.members := by
  have start : lowerAll (documentationOf none) none items = .ok body := lowered
  exact lowerAll_members start

/-- A documented property, one with a comment of another sort before it, and one after an index
signature that takes the documentation comment. -/
theorem members_of_lowerAll_commented :
    ∃ items body, items = [.comment "/** @format email */",
        .property (.plain "mail") true (some (.keyword "string")), .comment "/** first */",
        .comment "// second", .property (.quoted "\"a b\"") false none, .comment "/** third */",
        .indexSignature (.keyword "string") (.name "A"), .property (.plain "b") false none,
        .comment "/** last */"] ∧
      lowerAll none none items = .ok body ∧
      body.members.map (·.comment) = [some "/** @format email */", none, none] ∧
      List.Forall₂ Property.LowersTo (properties items) body.members :=
  ⟨_, _, rfl, rfl, rfl, members_of_lowerAll rfl⟩

/-- Every property of a body is there as a member, and every index signature as that of the type. -/
structure Kept (items : List BodyItem) (body : ObjectType) : Prop where
  members : List.Forall₂ Property.LowersTo (properties items) body.members
  signatures : List.Forall₂ SignatureLowersTo (signatures items) body.indexSignature.toList

/-- A body that can be lowered is lowered without loss exactly if it has one index signature at
most. Its properties are all kept in any case; of several index signatures all but the last are left
out, and that is no error. -/
theorem kept_iff {items : List BodyItem} {body : ObjectType}
    (lowered : lowerAll none none items = .ok body) :
    (Kept items body ↔ (signatures items).length ≤ 1) ∧
      List.Forall₂ Property.LowersTo (properties items) body.members ∧
      List.Forall₂ SignatureLowersTo (signatures items).getLast?.toList
        body.indexSignature.toList := by
  have start : lowerAll (documentationOf none) none items = .ok body := lowered
  have members : List.Forall₂ Property.LowersTo (properties items) body.members :=
    lowerAll_members start
  have last : List.Forall₂ SignatureLowersTo (signatures items).getLast?.toList
      body.indexSignature.toList := by
    rcases lowerAll_signature start with ⟨none, same⟩ | ⟨before, last, index, split, same, lowersTo⟩
    · rw [none, same]
      exact .nil
    · rw [split, same, List.getLast?_concat]
      exact .cons lowersTo .nil
  refine ⟨⟨fun kept => ?_, fun few => ⟨members, ?_⟩⟩, members, last⟩
  · rw [kept.signatures.length_eq]
    cases body.indexSignature <;> simp
  · have all : (signatures items).getLast?.toList = signatures items := by
      match signatures items, few with
      | [], _ => rfl
      | [_], _ => rfl
    rwa [all] at last

/-- A property and an index signature. -/
theorem kept_iff_one :
    ∃ items body, items = [.property (.plain "a") false none,
        .indexSignature (.keyword "string") (.keyword "number")] ∧
      lowerAll none none items = .ok body ∧
      (Kept items body ↔ (signatures items).length ≤ 1) ∧ (signatures items).length = 1 :=
  ⟨_, _, rfl, rfl, (kept_iff rfl).1, rfl⟩

/-- The second index signature takes the place of the first. -/
theorem not_kept_two :
    (Declaration.readTypeScript
      "type A = \x7b[k: string]: number; [j: number]: string\x7d").isOk = true ∧
    ∃ items body, items = [.indexSignature (.keyword "string") (.keyword "number"),
        .indexSignature (.keyword "number") (.keyword "string")] ∧
      lowerAll none none items = .ok body ∧ ¬Kept items body := by
  refine ⟨by decide +kernel, _, _, rfl, rfl, fun kept => ?_⟩
  cases kept.signatures with
  | cons _ others => cases others

end BodyItem

end TypeSchema.TypeScript
