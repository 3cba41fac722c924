import Mathlib.Data.Option.Basic
import TypeSchema.Proofs.Declaration.RoundTrip

/-!
Layouts of the JSON of declarations. Each value in it has a role: what it is read as. The roles say
which fields of an object are read and as what, and so what it is to lay the object out anew: to give
its fields in another order, and with them fields that are passed over.
-/

namespace TypeSchema

namespace Json

/-- The kind of a type, if it has one. -/
def kind? (json : Json) : Option String :=
  (kinded? "kind" true json).map (·.kind)

/-- Whether a source is a list of declarations. A declaration that is written as the array of its fields
starts with its name. -/
def isList : Json → Bool
  | .array (.string _ :: _) => false
  | .array _ => true
  | _ => false

/-- What a value is read as. -/
inductive Role where
  /-- A text or a truth value, or anything in a value that is passed over. -/
  | atom
  /-- A kind, or the name of a primitive type. -/
  | keyword
  | literal
  | type
  | directive
  | member
  | indexSignature
  | body
  | generic
  | span
  | template
  | declaration
  | list (item : Role)

namespace Role

/-- What the value of a type of a kind is read as. -/
def ofKind : String → Role
  | "primitive" => .keyword
  | "literal" => .literal
  | "array" => .type
  | "tuple" => .list .type
  | "object" => .body
  | "union" => .list .type
  | "intersection" => .list .type
  | "generic" => .generic
  | "template_literal" => .template
  | "parenthesized" => .type
  | _ => .atom

/-- The fields that are read of a value, and as what. -/
def slots (json : Json) : Role → List (String × Role)
  | .atom => []
  | .keyword => []
  | .list _ => []
  | .literal => [("type", .keyword), ("value", .atom)]
  | .type => [("kind", .keyword), ("value", json.kind?.elim .atom ofKind)]
  | .directive => [("tag", .atom), ("argument", .atom)]
  | .member =>
    [("key", .atom), ("optional", .atom), ("type", .type), ("comment", .atom),
      ("directives", .list .directive)]
  | .indexSignature => [("key", .type), ("value", .type)]
  | .body => [("members", .list .member), ("index_signature", .indexSignature)]
  | .generic => [("name", .atom), ("args", .list .type)]
  | .span => [("type", .type), ("literal", .atom)]
  | .template => [("head", .atom), ("spans", .list .span)]
  | .declaration => [("name", .atom), ("node", .type)]

def ofField (role : Role) (json : Json) (name : String) : Role :=
  ((role.slots json).lookup name).getD .atom

/-- What an item of an array is read as. A structure may be given as the array of its fields. -/
def ofItem (role : Role) (json : Json) (position : Nat) : Role :=
  match role with
  | .list item => item
  | role => ((role.slots json)[position]?.map (·.2)).getD .atom

/-- Whether a field of this name is passed over in an object of which other fields are read. -/
def PassesOver (role : Role) (json : Json) (name : String) : Prop :=
  role.slots json ≠ [] ∧ ∀ slot ∈ role.slots json, slot.1 ≠ name

/-- What the JSON of a source is read as: a declaration or a list of them. -/
def ofSource (json : Json) : Role :=
  if json.isList then .list .declaration else .declaration

end Role

/-- Whether the value of a pair stands before its kind. -/
def valueFirst (kindName : String) : Json → Bool
  | .object fields =>
    (fields.find? fun field => field.1 == kindName || field.1 == "value").any (·.1 == "value")
  | _ => false

/-- A field of an object, with the value that it has in another layout. -/
structure MovedField where
  name : String
  value : Json
  other : Json

namespace MovedField

def before (field : MovedField) : String × Json :=
  (field.name, field.value)

def after (field : MovedField) : String × Json :=
  (field.name, field.other)

end MovedField

/-- A value and another layout of it: in objects, at any depth, the fields may stand in another order,
and fields may be added that are passed over. -/
inductive Relaid : Role → Json → Json → Prop
  | same (role : Role) (json : Json) : Relaid role json json
  | array {role : Role} (pairs : List (Json × Json))
      (relaid : ∀ position item other, pairs[position]? = some (item, other) →
        Relaid (role.ofItem (.array (pairs.map (·.1))) position) item other) :
      Relaid role (.array (pairs.map (·.1))) (.array (pairs.map (·.2)))
  | object {role : Role} (moved : List MovedField) (added others : List (String × Json))
      (relaid : ∀ field ∈ moved,
        Relaid (role.ofField (.object (moved.map (·.before))) field.name) field.value field.other)
      (passed : ∀ field ∈ added, role.PassesOver (.object (moved.map (·.before))) field.1)
      (order : others.Perm (moved.map (·.after) ++ added)) :
      Relaid role (.object (moved.map (·.before))) (.object others)

/-- Whether the field of a name is read leniently in a value that is read leniently or not. -/
def Role.readsLeniently (role : Role) (lenient : Bool) (json : Json) (name : String) : Bool :=
  match role with
  | .type => lenient || (name == "value" && valueFirst "kind" json)
  | _ => lenient

/-- Whether a kind, or the name of a primitive type, is written somewhere in a value as an object around
an empty object where that is not read: where no value around it stands before its own kind. -/
inductive Bare : Bool → Role → Json → Prop
  | here (name : String) : Bare false .keyword (.object [(name, .object [])])
  | item {lenient : Bool} {role : Role} {items : List Json} {position : Nat} {item : Json}
      (listed : items[position]? = some item)
      (bare : Bare lenient (role.ofItem (.array items) position) item) :
      Bare lenient role (.array items)
  | field {lenient : Bool} {role : Role} {fields : List (String × Json)} {name : String}
      {value : Json} (listed : (name, value) ∈ fields)
      (bare : Bare (role.readsLeniently lenient (.object fields) name)
        (role.ofField (.object fields) name) value) :
      Bare lenient role (.object fields)

/-! ### What a layout keeps of the fields that are read -/

section Fields

variable {moved : List MovedField} {added others : List (String × Json)}

theorem field_relaid {name : String} {alike : Json → Json → Prop}
    (kept : ∀ field ∈ moved, field.name = name → alike field.value field.other)
    (passed : ∀ field ∈ added, field.1 ≠ name)
    (order : others.Perm (moved.map (·.after) ++ added)) :
    Option.Rel (Option.Rel alike) (field? name (moved.map (·.before))) (field? name others) := by
  have unread : added.filter (·.1 == name) = [] := by
    simpa [List.filter_eq_nil_iff] using passed
  have before : (moved.map (·.before)).filter (·.1 == name) =
      (moved.filter (·.name == name)).map (·.before) := List.filter_map
  have after : (moved.map (·.after)).filter (·.1 == name) =
      (moved.filter (·.name == name)).map (·.after) := List.filter_map
  have found := order.filter (·.1 == name)
  rw [List.filter_append, unread, List.append_nil, after] at found
  have listed : ∀ field ∈ moved.filter (·.name == name), field ∈ moved ∧ field.name = name := by
    simp
  rw [field?, field?, before]
  -- A repeated name stays repeated, so the reading fails in both layouts or in neither.
  generalize moved.filter (·.name == name) = same at listed found ⊢
  generalize others.filter (·.1 == name) = otherSame at found ⊢
  obtain _ | ⟨field, _ | ⟨second, rest⟩⟩ := same
  · obtain rfl := found.eq_nil
    exact .some .none
  · obtain rfl := found.eq_singleton
    obtain ⟨inside, named⟩ := listed field (List.mem_singleton.mpr rfl)
    exact .some (.some (kept field inside named))
  · have long := found.length_eq
    obtain _ | ⟨_, _ | _⟩ := otherSame
    · cases long
    · cases long
    · exact .none

/-- Slots given alike: the same ones are given, each with alike values for its role. -/
inductive SlotsAlike (alike : Role → Json → Json → Prop) :
    List (String × Role) → Given → Given → Prop
  | nil : SlotsAlike alike [] [] []
  | cons {slot : String × Role} {slots : List (String × Role)} {value other : Option Json}
      {given others : Given} (first : Option.Rel (alike slot.2) value other)
      (rest : SlotsAlike alike slots given others) :
      SlotsAlike alike (slot :: slots) (value :: given) (other :: others)

/-- Whether what is given for one of the slots holds a bare kind. -/
def SlotsBare (lenient : String → Bool) : List (String × Role) → Given → Prop
  | (name, role) :: slots, value :: given =>
    (∃ json, value = some json ∧ Bare (lenient name) role json) ∨ SlotsBare lenient slots given
  | _, _ => False

theorem byName_relaid {alike : Role → Json → Json → Prop} {slots : List (String × Role)}
    (kept : ∀ slot ∈ slots, ∀ field ∈ moved, field.name = slot.1 →
      alike slot.2 field.value field.other)
    (passed : ∀ slot ∈ slots, ∀ field ∈ added, field.1 ≠ slot.1)
    (order : others.Perm (moved.map (·.after) ++ added)) :
    Option.Rel (SlotsAlike alike slots)
      (byName? (slots.map (·.1)) (.object (moved.map (·.before))))
      (byName? (slots.map (·.1)) (.object others)) := by
  simp only [byName?]
  induction slots with
  | nil => exact .some .nil
  | cons slot slots induction =>
      obtain ⟨keptFirst, keptRest⟩ := List.forall_mem_cons.mp kept
      obtain ⟨passedFirst, passedRest⟩ := List.forall_mem_cons.mp passed
      have first := field_relaid keptFirst passedFirst order
      have rest := induction keptRest passedRest
      simp only [List.map_cons, List.mapM_cons]
      generalize field? slot.1 (moved.map (·.before)) = value at first
      generalize field? slot.1 others = other at first
      generalize (slots.map (·.1)).mapM (fun name => field? name (moved.map (·.before))) = given at rest
      generalize (slots.map (·.1)).mapM (fun name => field? name others) = givenOther at rest
      match first, rest with
      | .none, _ => exact .none
      | .some _, .none => exact .none
      | .some first, .some rest => exact .some (.cons first rest)

end Fields

theorem byPosition_relaid {alike : Role → Json → Json → Prop} {slots : List (String × Role)}
    {pairs : List (Json × Json)} (few : pairs.length ≤ slots.length)
    (kept : ∀ (position : Nat) (item other : Json), pairs[position]? = some (item, other) →
      ∀ slot : String × Role, slots[position]? = some slot → alike slot.2 item other) :
    SlotsAlike alike slots
      (pairs.map (some ·.1) ++ List.replicate (slots.length - pairs.length) none)
      (pairs.map (some ·.2) ++ List.replicate (slots.length - pairs.length) none) := by
  induction slots generalizing pairs with
  | nil =>
      obtain rfl := List.eq_nil_of_length_eq_zero (Nat.le_zero.mp few)
      exact .nil
  | cons slot slots induction =>
      match pairs with
      | [] => exact .cons .none (@induction [] (Nat.zero_le _) (by simp))
      | (item, other) :: pairs =>
          have few : pairs.length ≤ slots.length := Nat.le_of_succ_le_succ few
          simp only [List.length_cons, Nat.reduceSubDiff]
          exact .cons (.some (kept 0 item other rfl slot rfl))
            (induction few fun position => kept (position + 1))

/-- What the parts of a value have to do with those of another layout of it. -/
theorem Relaid.parts {role : Role} {json other : Json} (relaid : Relaid role json other) :
    (json.depth = 0 ∧ other = json) ∨
      (∃ pairs : List (Json × Json),
        json = .array (pairs.map (·.1)) ∧ other = .array (pairs.map (·.2)) ∧
          ∀ position item otherItem, pairs[position]? = some (item, otherItem) →
            Relaid (role.ofItem json position) item otherItem) ∨
      ∃ (moved : List MovedField) (added others : List (String × Json)),
        json = .object (moved.map (·.before)) ∧ other = .object others ∧
          (∀ field ∈ moved, Relaid (role.ofField json field.name) field.value field.other) ∧
          (∀ field ∈ added, role.PassesOver json field.1) ∧
          others.Perm (moved.map (·.after) ++ added) := by
  cases relaid with
  | array pairs relaid => exact .inr (.inl ⟨pairs, rfl, rfl, relaid⟩)
  | object moved added others relaid passed order =>
      exact .inr (.inr ⟨moved, added, others, rfl, rfl, relaid, passed, order⟩)
  | same =>
      match json with
      | .null | .bool _ | .number _ | .string _ => exact .inl ⟨rfl, rfl⟩
      | .array items =>
          refine .inr (.inl ⟨items.map fun item => (item, item), ?_, ?_, ?_⟩)
          · simp [Function.comp_def]
          · simp [Function.comp_def]
          · intro position item other listed
            obtain ⟨_, _, same⟩ := Option.map_eq_some_iff.mp (List.getElem?_map.symm.trans listed)
            obtain ⟨rfl, rfl⟩ := same
            exact .same _ _
      | .object fields =>
          refine .inr (.inr ⟨fields.map fun field => ⟨field.1, field.2, field.2⟩, [], fields,
            ?_, rfl, ?_, ?_, ?_⟩)
          · simp [Function.comp_def, MovedField.before]
          · intro field listed
            obtain ⟨_, _, rfl⟩ := List.mem_map.mp listed
            exact .same _ _
          · simp
          · simp [Function.comp_def, MovedField.after]

theorem Relaid.flat_or_deep {role : Role} {json other : Json} (relaid : Relaid role json other) :
    (json.depth = 0 ∧ other = json) ∨ (0 < json.depth ∧ 0 < other.depth) := by
  obtain flat | ⟨_, rfl, rfl, _⟩ | ⟨_, _, _, rfl, rfl, _⟩ := relaid.parts
  · exact .inl flat
  · exact .inr ⟨Nat.succ_pos _, Nat.succ_pos _⟩
  · exact .inr ⟨Nat.succ_pos _, Nat.succ_pos _⟩

namespace Role

theorem ofField_slot (role : Role) (json : Json) :
    ∀ slot ∈ role.slots json, role.ofField json slot.1 = slot.2 := by
  cases role <;> simp [slots, ofField, List.lookup_cons]

theorem ofField_eq_atom_or_mem (role : Role) (json : Json) (name : String) :
    role.ofField json name = .atom ∨ (name, role.ofField json name) ∈ role.slots json := by
  rw [ofField]
  cases found : (role.slots json).lookup name with
  | none => exact .inl rfl
  | some slotRole =>
      obtain ⟨before, after, split, -⟩ := List.lookup_eq_some_iff.mp found
      simp [split]

end Role

theorem not_bare_atom {lenient : Bool} {json : Json} : ¬Bare lenient .atom json := by
  intro bare
  generalize same : Role.atom = role at bare
  induction bare with
  | here => cases same
  | item _ _ induction => subst same; exact induction rfl
  | field _ _ induction => subst same; exact induction rfl

theorem Role.ofItem_slot {role : Role} {json : Json} {position : Nat} {slot : String × Role}
    (listed : (role.slots json)[position]? = some slot) : role.ofItem json position = slot.2 := by
  match role with
  | .list _ => cases listed
  | .atom | .keyword => cases listed
  | .literal | .type | .directive | .member | .indexSignature | .body | .generic | .span
  | .template | .declaration => simp [ofItem, listed]

theorem depth_le_depthOfFields {name : String} {value : Json} {fields : List (String × Json)}
    (listed : (name, value) ∈ fields) : value.depth ≤ depthOfFields fields := by
  induction fields with
  | nil => cases listed
  | cons field others induction =>
      obtain same | listed := List.mem_cons.mp listed
      · subst same
        exact Nat.le_max_left _ _
      · exact Nat.le_trans (induction listed) (Nat.le_max_right _ _)

theorem byNameOrPosition_flat {names : List String} {json : Json} (flat : json.depth = 0) :
    byNameOrPosition? names json = none := by
  cases json with
  | array => cases flat
  | object => cases flat
  | _ => rfl

/-- A part of a value and one of another, the second another layout of the first. -/
structure PartsRelaid (json other : Json) (role : Role) (part otherPart : Json) : Prop where
  relaid : Relaid role part otherPart
  inside : part.depth < json.depth
  otherInside : otherPart.depth < other.depth

theorem Relaid.byNameOrPosition_alike {role : Role} {json other : Json}
    (relaid : Relaid role json other) :
    Option.Rel (SlotsAlike (PartsRelaid json other) (role.slots json))
      (byNameOrPosition? ((role.slots json).map (·.1)) json)
      (byNameOrPosition? ((role.slots json).map (·.1)) other) := by
  obtain ⟨flat, rfl⟩ | ⟨pairs, rfl, rfl, each⟩ |
    ⟨moved, added, others, rfl, rfl, each, passed, order⟩ := relaid.parts
  · rw [byNameOrPosition_flat flat]
    exact .none
  · simp only [byNameOrPosition?, List.length_map, List.map_map]
    split
    · rename_i few
      refine .some (byPosition_relaid (by simpa using few) ?_)
      intro position item other paired slot listed
      have inside := List.mem_of_getElem? paired
      refine ⟨?_, ?_, ?_⟩
      · rw [← Role.ofItem_slot listed]
        exact each position item other paired
      · exact Nat.lt_succ_of_le (depth_le_depthOfItems (List.mem_map_of_mem inside))
      · exact Nat.lt_succ_of_le (depth_le_depthOfItems (List.mem_map_of_mem inside))
    · exact .none
  · refine byName_relaid ?_ (fun slot inside field listed => ((passed field listed).2 slot inside).symm)
      order
    intro slot inside field listed named
    have placed : field.after ∈ others :=
      order.mem_iff.mpr (List.mem_append_left _ (List.mem_map_of_mem listed))
    refine ⟨?_, ?_, ?_⟩
    · rw [← role.ofField_slot _ slot inside, ← named]
      exact each field listed
    · exact Nat.lt_succ_of_le (depth_le_depthOfFields (List.mem_map_of_mem listed))
    · exact Nat.lt_succ_of_le (depth_le_depthOfFields placed)

/-- Where no fields are read of an object, none may be added. -/
theorem Relaid.object_of_slots_eq_nil {role : Role} {other : Json} {fields : List (String × Json)}
    (relaid : Relaid role (.object fields) other) (unread : role.slots (.object fields) = []) :
    ∃ (moved : List MovedField) (others : List (String × Json)),
      fields = moved.map (·.before) ∧ other = .object others ∧ others.Perm (moved.map (·.after)) ∧
        ∀ field ∈ moved, Relaid .atom field.value field.other := by
  obtain ⟨flat, _⟩ | ⟨_, same, _⟩ | ⟨moved, added, others, same, rfl, each, passed, order⟩ :=
    relaid.parts
  · cases flat
  · cases same
  · cases same
    refine ⟨moved, others, rfl, rfl, ?_, ?_⟩
    · match added, passed, order with
      | [], _, order => simpa using order
      | field :: _, passed, _ => exact absurd unread (passed field (List.mem_cons_self ..)).1
    · intro field listed
      have relaid := each field listed
      rwa [Role.ofField, unread] at relaid

/-! ### Where a bare kind stands -/

theorem mem_of_field {name : String} {fields : List (String × Json)} {given : Option Json}
    (read : field? name fields = some given) (value : Json) :
    given = some value ↔ (name, value) ∈ fields := by
  have listed : (name, value) ∈ fields ↔ (name, value) ∈ fields.filter (·.1 == name) := by simp
  have named : ∀ field ∈ fields.filter (·.1 == name), field.1 = name := by simp
  rw [listed]
  rw [field?] at read
  generalize fields.filter (·.1 == name) = same at read named
  obtain _ | ⟨⟨other, only⟩, _ | _⟩ := same
  · cases read
    simp
  · cases read
    obtain rfl := named _ (List.mem_singleton.mpr rfl)
    simp [eq_comm]
  · cases read

theorem slotsBare_byName {lenient : String → Bool} {slots : List (String × Role)}
    {fields : List (String × Json)} {given : Given}
    (read : byName? (slots.map (·.1)) (.object fields) = some given) :
    SlotsBare lenient slots given ↔
      ∃ slot ∈ slots, ∃ value, (slot.1, value) ∈ fields ∧ Bare (lenient slot.1) slot.2 value := by
  simp only [byName?] at read
  induction slots generalizing given with
  | nil => simp [SlotsBare]
  | cons slot slots induction =>
      simp only [List.map_cons, List.mapM_cons, Option.bind_eq_bind, Option.bind_eq_some_iff] at read
      obtain ⟨value, first, others, rest, same⟩ := read
      cases same
      simp [SlotsBare, induction rest, mem_of_field first]

theorem slotsBare_byPosition {lenient : String → Bool} {slots : List (String × Role)}
    {items : List Json} (few : items.length ≤ slots.length) :
    SlotsBare lenient slots
        (items.map some ++ List.replicate (slots.length - items.length) none) ↔
      ∃ (position : Nat) (item : Json) (slot : String × Role),
        items[position]? = some item ∧ slots[position]? = some slot ∧
          Bare (lenient slot.1) slot.2 item := by
  induction slots generalizing items with
  | nil => simp [SlotsBare]
  | cons slot slots induction =>
      match items with
      | [] =>
          have rest := @induction [] (Nat.zero_le _)
          simpa [SlotsBare, List.replicate_succ] using rest
      | item :: items =>
          have few : items.length ≤ slots.length := Nat.le_of_succ_le_succ few
          simp only [List.length_cons, Nat.reduceSubDiff, List.map_cons, List.cons_append, SlotsBare,
            induction few]
          constructor
          · rintro (⟨_, same, bare⟩ | ⟨position, other, otherSlot, listed, read, bare⟩)
            · cases same
              exact ⟨0, item, slot, rfl, rfl, bare⟩
            · exact ⟨position + 1, other, otherSlot, listed, read, bare⟩
          · rintro ⟨_ | position, other, otherSlot, listed, read, bare⟩
            · cases listed
              cases read
              exact .inl ⟨item, rfl, bare⟩
            · exact .inr ⟨position, other, otherSlot, listed, read, bare⟩

/-- A bare kind stands in what is given for one of the fields that are read. -/
theorem bare_iff_slotsBare {lenient : Bool} {role : Role} {json : Json} {given : Given}
    (readsFields : role.slots json ≠ [])
    (read : byNameOrPosition? ((role.slots json).map (·.1)) json = some given) :
    Bare lenient role json ↔ SlotsBare (role.readsLeniently lenient json) (role.slots json) given := by
  match json, read with
  | .object fields, read =>
      rw [slotsBare_byName read]
      constructor
      · intro bare
        cases bare with
        | here => exact absurd rfl readsFields
        | field listed bare =>
            obtain atom | slot := role.ofField_eq_atom_or_mem (.object fields) _
            · rw [atom] at bare
              exact absurd bare not_bare_atom
            · exact ⟨_, slot, _, listed, bare⟩
      · rintro ⟨slot, inside, value, listed, bare⟩
        rw [← role.ofField_slot _ slot inside] at bare
        exact .field listed bare
  | .array items, read =>
      simp only [byNameOrPosition?, List.length_map] at read
      split at read
      · rename_i few
        cases read
        rw [slotsBare_byPosition few]
        have same (name : String) : role.readsLeniently lenient (.array items) name = lenient := by
          cases role <;> simp [Role.readsLeniently, valueFirst]
        simp only [same]
        constructor
        · intro bare
          cases bare with
          | @item _ _ _ position item listed bare =>
              have inItems := (List.getElem?_eq_some_iff.mp listed).1
              have read := List.getElem?_eq_getElem (Nat.lt_of_lt_of_le inItems few)
              rw [Role.ofItem_slot read] at bare
              exact ⟨position, item, _, listed, read, bare⟩
        · rintro ⟨position, item, slot, listed, read, bare⟩
          rw [← Role.ofItem_slot read] at bare
          exact .item listed bare
      · cases read

end Json

end TypeSchema
