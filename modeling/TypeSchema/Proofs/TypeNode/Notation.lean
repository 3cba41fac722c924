import Mathlib.Logic.Relation
import TypeSchema.Proofs.TypeNode.Compilation

/-!
Types that differ in notation alone. Parentheses say nothing wherever they stand, and where the
schema of a type is wanted, a few longer forms say what a shorter one says. The main statement is
that such types have one schema, or fail with one error.
-/

namespace TypeSchema

namespace TypeNode

/-- What a type is read for at the place where it stands. -/
inductive Place where
  /-- For its schema. -/
  | schema
  /-- For its form, what stands inside being of no interest: the key of a record, a hole of a
  template, an argument that no utility takes. -/
  | form
  /-- For the keys that it selects. -/
  | selection
deriving DecidableEq

namespace Place

/-- The place of the parts of a union that stands at a place. -/
def unionPart : Place → Place
  | .selection => .selection
  | .schema => .schema
  | .form => .schema

/-- The place of an argument of a generic name, by the number of arguments and its index. -/
def argument (name : String) (count index : Nat) : Place :=
  match Utility.ofName? name, count, index with
  | some .arrayOf, 1, _ => .schema
  | some .allOptional, 1, _ => .schema
  | some .allRequired, 1, _ => .schema
  | some .allReadonly, 1, _ => .schema
  | some .record, 2, 1 => .schema
  | some .pickKeys, 2, 0 => .schema
  | some .pickKeys, 2, 1 => .selection
  | some .omitKeys, 2, 0 => .schema
  | some .omitKeys, 2, 1 => .selection
  | _, _, _ => .form

end Place

/-- One change of notation in a type that stands at a place. The first five constructors change the
type itself, the others a type within it. -/
inductive Renotes : Place → TypeNode → TypeNode → Prop
  | parentheses (place : Place) (node : TypeNode) : Renotes place node (.parenthesized node)
  | namedArray (node : TypeNode) : Renotes .schema (.array node) (.generic "Array" [node])
  | readonly (node : TypeNode) : Renotes .schema node (.generic "Readonly" [node])
  | unionOfOne (node : TypeNode) : Renotes .schema node (.union [node])
  | intersectionOfOne (node : TypeNode) : Renotes .schema node (.intersection [node])
  | inParentheses (place : Place) (change : Renotes place old new) :
      Renotes place (.parenthesized old) (.parenthesized new)
  | inArray (place : Place) (change : Renotes .schema old new) :
      Renotes place (.array old) (.array new)
  | inTuple (place : Place) (before after : List TypeNode) (change : Renotes .schema old new) :
      Renotes place (.tuple (before ++ old :: after)) (.tuple (before ++ new :: after))
  | inUnion (place : Place) (before after : List TypeNode)
      (change : Renotes place.unionPart old new) :
      Renotes place (.union (before ++ old :: after)) (.union (before ++ new :: after))
  | inIntersection (place : Place) (before after : List TypeNode)
      (change : Renotes .schema old new) :
      Renotes place (.intersection (before ++ old :: after))
        (.intersection (before ++ new :: after))
  | inGeneric (place : Place) (name : String) (before after : List TypeNode)
      (change : Renotes (.argument name (before.length + 1 + after.length) before.length) old new) :
      Renotes place (.generic name (before ++ old :: after))
        (.generic name (before ++ new :: after))
  | inMember (place : Place) (before after : List Member) (member : Member)
      (signature : Option IndexSignature) (change : Renotes .schema old new) :
      Renotes place
        (.object ⟨before ++ { member with type := old } :: after, signature⟩)
        (.object ⟨before ++ { member with type := new } :: after, signature⟩)
  | inSignatureKey (place : Place) (members : List Member) (value : TypeNode)
      (change : Renotes .form old new) :
      Renotes place (.object ⟨members, some ⟨old, value⟩⟩) (.object ⟨members, some ⟨new, value⟩⟩)
  | inSignatureValue (place : Place) (members : List Member) (key : TypeNode)
      (change : Renotes .schema old new) :
      Renotes place (.object ⟨members, some ⟨key, old⟩⟩) (.object ⟨members, some ⟨key, new⟩⟩)
  | inSpan (place : Place) (head : String) (before after : List TemplateSpan) (span : TemplateSpan)
      (change : Renotes .form old new) :
      Renotes place (.template ⟨head, before ++ { span with type := old } :: after⟩)
        (.template ⟨head, before ++ { span with type := new } :: after⟩)

/-- Two types differ in notation alone: any number of changes, made or taken back, lead from one to
the other. -/
def SameType : TypeNode → TypeNode → Prop :=
  Relation.EqvGen (Renotes .schema)

/-- What two types share that differ in notation alone, by what they are read for. -/
def Agree : Place → TypeNode → TypeNode → Prop
  | .schema, old, new => old.compile = new.compile
  | .form, old, new =>
      (∀ site, old.checkRecordKey site = new.checkRecordKey site) ∧
        old.patternFragment = new.patternFragment
  | .selection, old, new =>
      ∀ utility inUnion, old.maskKeys utility inUnion = new.maskKeys utility inUnion

variable {old new : TypeNode} {place : Place}

private theorem append_cons_eq_singleton {before after : List α} {x a : α}
    (given : before ++ x :: after = [a]) : before = [] ∧ x = a ∧ after = [] := by
  simpa [List.append_eq_cons_iff] using given

private theorem append_cons_eq_pair {before after : List α} {x a b : α}
    (given : before ++ x :: after = [a, b]) :
    (before = [] ∧ x = a ∧ after = [b]) ∨ (before = [a] ∧ x = b ∧ after = []) := by
  match before, given with
  | [], given => simp_all
  | [first], given => simp_all
  | first :: second :: before, given => simp at given

/-! A list that holds one type or another that compiles alike. -/

private theorem compileAll_replace (before after : List TypeNode)
    (compiled : old.compile = new.compile) :
    compileAll (before ++ old :: after) = compileAll (before ++ new :: after) := by
  induction before with
  | nil => simp only [List.nil_append, compileAll, compiled]
  | cons node before induction =>
      simp only [List.cons_append, compileAll, induction]

private theorem compileAnd_replace (schema : Schema) (before after : List TypeNode)
    (compiled : old.compile = new.compile) :
    compileAnd schema (before ++ old :: after) = compileAnd schema (before ++ new :: after) := by
  induction before generalizing schema with
  | nil => simp only [List.nil_append, compileAnd, compiled]
  | cons node before induction =>
      simp only [List.cons_append, compileAnd, induction]

private theorem compileMembers_replace (member : Member) (before after : List Member)
    (compiled : old.compile = new.compile) :
    compileMembers (before ++ { member with type := old } :: after) =
      compileMembers (before ++ { member with type := new } :: after) := by
  induction before with
  | nil => simp only [List.nil_append, compileMembers_cons, compiled, Member.entry]
  | cons first before induction =>
      simp only [List.cons_append, compileMembers_cons, induction]

private theorem maskKeysAll_replace (utility : Utility) (before after : List TypeNode)
    (selected : old.maskKeys utility true = new.maskKeys utility true) :
    maskKeysAll utility (before ++ old :: after) =
      maskKeysAll utility (before ++ new :: after) := by
  induction before with
  | nil => simp only [List.nil_append, maskKeysAll, selected]
  | cons node before induction =>
      simp only [List.cons_append, maskKeysAll, induction]

private theorem spanSource_replace (span : TemplateSpan) (before after : List TemplateSpan)
    (fragment : old.patternFragment = new.patternFragment) :
    TemplateLiteral.spanSource (before ++ { span with type := old } :: after) =
      TemplateLiteral.spanSource (before ++ { span with type := new } :: after) := by
  induction before with
  | nil => simp only [List.nil_append, TemplateLiteral.spanSource, fragment]
  | cons first before induction =>
      simp only [List.cons_append, TemplateLiteral.spanSource, induction]

private theorem compile_union_replace (before after : List TypeNode)
    (compiled : old.compile = new.compile) :
    (TypeNode.union (before ++ old :: after)).compile =
      (TypeNode.union (before ++ new :: after)).compile := by
  have parts := compileAll_replace before after compiled
  match before, after with
  | [], [] => simpa only [List.nil_append, compile] using compiled
  | [], second :: after =>
      simp only [List.nil_append] at parts
      simp only [List.nil_append, compile_union_of_two, parts]
  | [first], after =>
      simp only [List.cons_append, List.nil_append] at parts
      simp only [List.cons_append, List.nil_append, compile_union_of_two, parts]
  | first :: second :: before, after =>
      simp only [List.cons_append] at parts
      simp only [List.cons_append, compile_union_of_two, parts]

private theorem compile_intersection_replace (before after : List TypeNode)
    (compiled : old.compile = new.compile) :
    (TypeNode.intersection (before ++ old :: after)).compile =
      (TypeNode.intersection (before ++ new :: after)).compile := by
  match before with
  | [] => simp only [List.nil_append, compile, compiled]
  | first :: before =>
      have parts := fun schema => compileAnd_replace schema before after compiled
      simp only [List.cons_append, compile, parts]

private theorem compile_generic_replace (name : String) (before after : List TypeNode)
    (agree : Agree (.argument name (before.length + 1 + after.length) before.length) old new) :
    (TypeNode.generic name (before ++ old :: after)).compile =
      (TypeNode.generic name (before ++ new :: after)).compile := by
  generalize given : before ++ old :: after = arguments
  have count : (before ++ new :: after).length = arguments.length := by
    simp only [← given, List.length_append, List.length_cons]
  cases application name arguments with
  | arrayOf element =>
      obtain ⟨rfl, rfl, rfl⟩ := append_cons_eq_singleton given
      have compiled : old.compile = new.compile := agree
      simp only [List.nil_append, compile_generic_array, compile, compiled]
  | record key value =>
      obtain ⟨rfl, rfl, rfl⟩ | ⟨rfl, rfl, rfl⟩ := append_cons_eq_pair given
      · have checked : old.checkRecordKey .generic = new.checkRecordKey .generic := agree.1 _
        simp only [List.nil_append, compile_generic_record, checked]
      · have compiled : old.compile = new.compile := agree
        simp only [List.cons_append, List.nil_append, compile_generic_record, compiled]
  | allOptional inner =>
      obtain ⟨rfl, rfl, rfl⟩ := append_cons_eq_singleton given
      have compiled : old.compile = new.compile := agree
      simp only [List.nil_append, compile_generic_partial, compiled]
  | allRequired inner =>
      obtain ⟨rfl, rfl, rfl⟩ := append_cons_eq_singleton given
      have compiled : old.compile = new.compile := agree
      simp only [List.nil_append, compile_generic_required, compiled]
  | allReadonly inner =>
      obtain ⟨rfl, rfl, rfl⟩ := append_cons_eq_singleton given
      have compiled : old.compile = new.compile := agree
      simp only [List.nil_append, compile_generic_readonly, compiled]
  | pickKeys inner keys =>
      obtain ⟨rfl, rfl, rfl⟩ | ⟨rfl, rfl, rfl⟩ := append_cons_eq_pair given
      · have compiled : old.compile = new.compile := agree
        simp only [List.nil_append, compile_generic_pick, compiled]
      · have selected : old.maskKeys .pickKeys false = new.maskKeys .pickKeys false := agree _ _
        simp only [List.cons_append, List.nil_append, compile_generic_pick, selected]
  | omitKeys inner keys =>
      obtain ⟨rfl, rfl, rfl⟩ | ⟨rfl, rfl, rfl⟩ := append_cons_eq_pair given
      · have compiled : old.compile = new.compile := agree
        simp only [List.nil_append, compile_generic_omit, compiled]
      · have selected : old.maskKeys .omitKeys false = new.maskKeys .omitKeys false := agree _ _
        simp only [List.cons_append, List.nil_append, compile_generic_omit, selected]
  | wrongArity utility arguments wrong =>
      rw [compile_of_wrongArity wrong, compile_of_wrongArity (count ▸ wrong), count]
  | unknown name arguments unknown =>
      rw [compile_of_unknown unknown, compile_of_unknown unknown]

private theorem compile_object_replace (member : Member) (before after : List Member)
    (signature : Option IndexSignature) (compiled : old.compile = new.compile) :
    (TypeNode.object ⟨before ++ { member with type := old } :: after, signature⟩).compile =
      (TypeNode.object ⟨before ++ { member with type := new } :: after, signature⟩).compile := by
  have members := compileMembers_replace member before after compiled
  cases signature with
  | none => simp only [compile, members]
  | some signature =>
      cases before with
      | nil =>
          simp only [List.nil_append] at members
          simp only [List.nil_append, compile_index_and_members, members]
      | cons first before =>
          simp only [List.cons_append] at members
          simp only [List.cons_append, compile_index_and_members, members]

private theorem compile_signature_replace (members : List Member) {key value key' value' : TypeNode}
    (checked : key.checkRecordKey .indexSignature = key'.checkRecordKey .indexSignature)
    (compiled : value.compile = value'.compile) :
    (TypeNode.object ⟨members, some ⟨key, value⟩⟩).compile =
      (TypeNode.object ⟨members, some ⟨key', value'⟩⟩).compile := by
  cases members with
  | nil => simp only [compile_index_alone, checked, compiled]
  | cons member members => simp only [compile_index_and_members, checked, compiled]

/-- Types of these forms are read for their schema alone: elsewhere only the form counts. -/
private def IsCompound : TypeNode → Prop
  | .array _ | .tuple _ | .object _ | .intersection _ | .generic _ _ | .template _ => True
  | _ => False

private theorem agree_of_compound (place : Place) (oldCompound : old.IsCompound)
    (newCompound : new.IsCompound) (kind : old.kindName = new.kindName)
    (compiled : old.compile = new.compile) : Agree place old new := by
  cases place with
  | schema => exact compiled
  | form =>
      cases old <;> cases new <;>
        simp_all [IsCompound, kindName, Agree, checkRecordKey, patternFragment, unwrap, describe]
  | selection =>
      cases old <;> cases new <;> simp_all [IsCompound, kindName, Agree, maskKeys]

theorem Renotes.agree (change : Renotes place old new) : Agree place old new := by
  induction change with
  | parentheses place node =>
      cases place with
      | schema => simp only [Agree, compile]
      | form => simp only [Agree, checkRecordKey, patternFragment, unwrap, and_self, implies_true]
      | selection => simp only [Agree, maskKeys, implies_true]
  | namedArray node => rfl
  | readonly node => rfl
  | unionOfOne node => simp only [Agree, compile]
  | intersectionOfOne node =>
      simp only [Agree, compile]
      cases node.compile <;> rfl
  | inParentheses place change induction =>
      cases place with
      | schema => simpa only [Agree, compile] using induction
      | form => simpa only [Agree, checkRecordKey, patternFragment, unwrap] using induction
      | selection => simpa only [Agree, maskKeys] using induction
  | @inArray old new place change induction =>
      have compiled : old.compile = new.compile := induction
      exact agree_of_compound place trivial trivial rfl (by simp only [compile, compiled])
  | inTuple place before after change induction =>
      have parts := compileAll_replace before after induction
      exact agree_of_compound place trivial trivial rfl (by simp only [compile, parts])
  | inUnion place before after change induction =>
      cases place with
      | schema => exact compile_union_replace before after induction
      | form => exact ⟨fun _ => rfl, rfl⟩
      | selection =>
          intro utility inUnion
          have parts := maskKeysAll_replace utility before after (induction utility true)
          simp only [maskKeys, parts]
  | inIntersection place before after change induction =>
      exact agree_of_compound place trivial trivial rfl
        (compile_intersection_replace before after induction)
  | inGeneric place name before after change induction =>
      exact agree_of_compound place trivial trivial rfl
        (compile_generic_replace name before after induction)
  | inMember place before after member signature change induction =>
      exact agree_of_compound place trivial trivial rfl
        (compile_object_replace member before after signature induction)
  | inSignatureKey place members value change induction =>
      exact agree_of_compound place trivial trivial rfl
        (compile_signature_replace members (induction.1 _) rfl)
  | inSignatureValue place members key change induction =>
      exact agree_of_compound place trivial trivial rfl
        (compile_signature_replace members rfl induction)
  | inSpan place head before after span change induction =>
      have spans := spanSource_replace span before after induction.2
      exact agree_of_compound place trivial trivial rfl (by
        simp only [compile, TemplateLiteral.pattern, spans])

/-- Types that differ in notation alone have one schema, or fail with one error. -/
theorem compile_eq_of_sameType (same : SameType old new) : old.compile = new.compile := by
  induction same with
  | rel old new change => exact change.agree
  | refl node => rfl
  | symm old new same induction => exact induction.symm
  | trans old middle new first second inductionFirst inductionSecond =>
      exact inductionFirst.trans inductionSecond

/-- `Pick<Hero, "a" | "b">` and `Pick<Readonly<Hero>, ("a" | ("b"))>`. -/
theorem compile_pick_renoted :
    let keys : List TypeNode := [.literal (.string "a"), .literal (.string "b")]
    let renotedKeys : List TypeNode :=
      [.literal (.string "a"), .parenthesized (.literal (.string "b"))]
    let short : TypeNode := .generic "Pick" [.reference "Hero", .union keys]
    let long : TypeNode :=
      .generic "Pick" [.generic "Readonly" [.reference "Hero"], .parenthesized (.union renotedKeys)]
    SameType short long ∧ short.compile = long.compile := by
  intro keys renotedKeys short long
  have inHero : Renotes .schema short
      (.generic "Pick" [.generic "Readonly" [.reference "Hero"], .union keys]) :=
    .inGeneric _ _ [] _ (.readonly _)
  have inKey : Renotes .schema
      (.generic "Pick" [.generic "Readonly" [.reference "Hero"], .union keys])
      (.generic "Pick" [.generic "Readonly" [.reference "Hero"], .union renotedKeys]) :=
    .inGeneric _ _ [_] [] (.inUnion _ [_] [] (.parentheses _ _))
  have inKeys : Renotes .schema
      (.generic "Pick" [.generic "Readonly" [.reference "Hero"], .union renotedKeys]) long :=
    .inGeneric _ _ [_] [] (.parentheses _ _)
  have same : SameType short long :=
    .trans _ _ _ (.rel _ _ inHero) (.trans _ _ _ (.rel _ _ inKey) (.rel _ _ inKeys))
  exact ⟨same, compile_eq_of_sameType same⟩

end TypeNode

end TypeSchema
