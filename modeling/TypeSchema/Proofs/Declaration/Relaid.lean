import TypeSchema.Proofs.Declaration.Layout

/-!
Declarations do not depend on the layout of their JSON, apart from kinds written as objects around
empty objects: these are read only where the reading is lenient, and that depends on the layout. So each
reader is compared, on another layout of a value, with the one that is lenient throughout on the value.
-/

namespace TypeSchema

/-- A result is another one, unless something forbids it; then there is none. -/
def KeptUnless {α : Type} (forbidden : Prop) (full part : Option α) : Prop :=
  ∀ value, part = some value ↔ full = some value ∧ ¬forbidden

namespace KeptUnless

variable {α β : Type} {forbidden other : Prop} {full part : Option α}

theorem none : KeptUnless forbidden (Option.none : Option α) Option.none := by
  simp [KeptUnless]

theorem of_eq (allowed : ¬forbidden) (value : Option α) : KeptUnless forbidden value value := by
  simp [KeptUnless, allowed]

theorem congr (kept : KeptUnless forbidden full part) (same : other ↔ forbidden) :
    KeptUnless other full part := by
  rwa [KeptUnless, same]

theorem bind {next nextPart : α → Option β} (kept : KeptUnless forbidden full part)
    (keptNext : ∀ value, full = some value → part = some value →
      KeptUnless other (next value) (nextPart value)) :
    KeptUnless (forbidden ∨ other) (full.bind next) (part.bind nextPart) := by
  intro result
  simp only [Option.bind_eq_some_iff, not_or]
  constructor
  · rintro ⟨value, read, rest⟩
    obtain ⟨readFull, allowed⟩ := (kept value).mp read
    obtain ⟨restFull, allowedRest⟩ := (keptNext value readFull read result).mp rest
    exact ⟨⟨value, readFull, restFull⟩, allowed, allowedRest⟩
  · rintro ⟨⟨value, readFull, restFull⟩, allowed, allowedRest⟩
    have read := (kept value).mpr ⟨readFull, allowed⟩
    exact ⟨value, read, (keptNext value readFull read result).mpr ⟨restFull, allowedRest⟩⟩

theorem map (kept : KeptUnless forbidden full part) (wrap : α → β) :
    KeptUnless forbidden (full.map wrap) (part.map wrap) := by
  have mapped := kept.bind fun value _ _ => of_eq not_false (some (wrap value))
  simp only [Option.map_eq_bind]
  exact mapped.congr (by simp)

end KeptUnless

namespace Json

/-- A value and another layout of it, neither nested too deeply. -/
structure Within (depth otherDepth : Nat) (role : Role) (json other : Json) : Prop where
  relaid : Relaid role json other
  deep : json.depth ≤ depth
  otherDeep : other.depth ≤ otherDepth

/-! What is given for fields. -/

section Fields

variable {depth otherDepth : Nat} {role : Role} {json other : Json} {lenient : Bool} {α : Type}

theorem Within.succ (within : Within depth otherDepth role json other) :
    Within (depth + 1) (otherDepth + 1) role json other :=
  ⟨within.relaid, Nat.le_succ_of_le within.deep, Nat.le_succ_of_le within.otherDeep⟩

theorem SlotsAlike.within {slots : List (String × Role)} {given otherGiven : Given}
    (within : Within (depth + 1) (otherDepth + 1) role json other)
    (alike : SlotsAlike (PartsRelaid json other) slots given otherGiven) :
    SlotsAlike (Within depth otherDepth) slots given otherGiven := by
  induction alike with
  | nil => exact .nil
  | cons first _ induction =>
      refine .cons ?_ induction
      cases first with
      | none => exact .none
      | some part =>
          have deep := within.deep
          have otherDeep := within.otherDeep
          have inside := part.inside
          have otherInside := part.otherInside
          exact .some ⟨part.relaid, by omega, by omega⟩

theorem Role.slots_names (role : Role) (json other : Json) :
    (role.slots json).map (·.1) = (role.slots other).map (·.1) := by
  cases role <;> rfl

/-- A reader of the fields of a value is kept if it is kept on what is given for them. -/
theorem keptUnless_fields {names : List String} {read readOther : Given → Option α}
    (within : Within (depth + 1) (otherDepth + 1) role json other)
    (named : (role.slots json).map (·.1) = names) (readsFields : role.slots other ≠ [])
    (kept : ∀ given otherGiven, byNameOrPosition? names json = some given →
      byNameOrPosition? names other = some otherGiven →
      SlotsAlike (Within depth otherDepth) (role.slots json) given otherGiven →
      KeptUnless (SlotsBare (role.readsLeniently lenient other) (role.slots other) otherGiven)
        (read given) (readOther otherGiven)) :
    KeptUnless (Bare lenient role other) ((byNameOrPosition? names json).bind read)
      ((byNameOrPosition? names other).bind readOther) := by
  subst named
  have alike := within.relaid.byNameOrPosition_alike
  have bare := @bare_iff_slotsBare lenient role other
  rw [role.slots_names json other] at alike kept ⊢
  generalize byNameOrPosition? ((role.slots other).map (·.1)) json = given at alike kept ⊢
  generalize byNameOrPosition? ((role.slots other).map (·.1)) other = otherGiven at alike bare kept ⊢
  match given, otherGiven, alike with
  | none, none, _ => exact .none
  | some given, some otherGiven, .some alike =>
      exact (kept given otherGiven rfl rfl (SlotsAlike.within within alike)).congr
        (bare readsFields rfl)

variable {given otherGiven : Option Json} {read readOther : Json → Option α}

theorem keptUnless_required (alike : Option.Rel (Within depth otherDepth role) given otherGiven)
    (kept : ∀ json other, Within depth otherDepth role json other →
      KeptUnless (Bare lenient role other) (read json) (readOther other)) :
    KeptUnless (∃ json, otherGiven = some json ∧ Bare lenient role json)
      (required? read given) (required? readOther otherGiven) := by
  match given, otherGiven, alike with
  | none, none, _ => exact .none
  | some json, some other, .some within => exact (kept json other within).congr (by simp)

theorem keptUnless_defaulted (absent : α)
    (alike : Option.Rel (Within depth otherDepth role) given otherGiven)
    (kept : ∀ json other, Within depth otherDepth role json other →
      KeptUnless (Bare lenient role other) (read json) (readOther other)) :
    KeptUnless (∃ json, otherGiven = some json ∧ Bare lenient role json)
      (defaulted? absent read given) (defaulted? absent readOther otherGiven) := by
  match given, otherGiven, alike with
  | none, none, _ => exact .of_eq (by simp) _
  | some json, some other, .some within => exact (kept json other within).congr (by simp)

theorem keptUnless_optional (alike : Option.Rel (Within depth otherDepth role) given otherGiven)
    (kept : ∀ json other, Within depth otherDepth role json other →
      KeptUnless (Bare lenient role other) (read json) (readOther other)) :
    KeptUnless (∃ json, otherGiven = some json ∧ Bare lenient role json)
      (optional? read given) (optional? readOther otherGiven) := by
  match given, otherGiven, alike with
  | none, none, _ => exact .of_eq (by simp) _
  | some json, some other, .some within =>
      by_cases null : json = .null
      · subst null
        cases within.relaid
        exact .of_eq (by rintro ⟨_, same, bare⟩; cases same; cases bare) _
      · have otherNull : other ≠ .null := by
          rintro rfl
          cases within.relaid
          exact null rfl
        simp only [optional?]
        exact ((kept json other within).map some).congr (by simp)

end Fields

/-! Texts, kinds and lists. -/

section Items

variable {depth otherDepth : Nat} {role : Role} {json other : Json} {lenient : Bool} {α : Type}
  {read readOther : Json → Option α}

theorem Within.asString (within : Within depth otherDepth .atom json other) :
    KeptUnless (Bare lenient .atom other) (asString? json) (asString? other) := by
  have same : asString? json = asString? other := by
    cases within.relaid <;> rfl
  rw [same]
  exact .of_eq not_bare_atom _

theorem Within.asBool (within : Within depth otherDepth .atom json other) :
    KeptUnless (Bare lenient .atom other) (asBool? json) (asBool? other) := by
  have same : asBool? json = asBool? other := by
    cases within.relaid <;> rfl
  rw [same]
  exact .of_eq not_bare_atom _

theorem keptUnless_mapM {pairs : List (Json × Json)} {bare : Json → Prop}
    (kept : ∀ pair ∈ pairs, KeptUnless (bare pair.2) (read pair.1) (readOther pair.2)) :
    KeptUnless (∃ item ∈ pairs.map (·.2), bare item)
      ((pairs.map (·.1)).mapM read) ((pairs.map (·.2)).mapM readOther) := by
  induction pairs with
  | nil => exact .of_eq (by simp) _
  | cons pair pairs induction =>
      obtain ⟨first, rest⟩ := List.forall_mem_cons.mp kept
      simp only [List.map_cons, List.mapM_cons]
      refine (first.bind fun value _ _ =>
        (induction rest).bind fun values _ _ => .of_eq not_false _).congr ?_
      simp

theorem Within.asList (within : Within depth otherDepth (.list role) json other)
    (kept : ∀ json other, Within depth otherDepth role json other →
      KeptUnless (Bare lenient role other) (read json) (readOther other)) :
    KeptUnless (Bare lenient (.list role) other) (asList? read json) (asList? readOther other) := by
  obtain ⟨relaid, deep, otherDeep⟩ := within
  obtain ⟨flat, rfl⟩ | ⟨pairs, rfl, rfl, each⟩ | ⟨moved, added, others, rfl, rfl, _⟩ := relaid.parts
  · cases other with
    | array => cases flat
    | _ => exact .none
  · have itemsKept : ∀ pair ∈ pairs,
        KeptUnless (Bare lenient role pair.2) (read pair.1) (readOther pair.2) := by
      intro pair listed
      obtain ⟨position, found⟩ := List.mem_iff_getElem?.mp listed
      have inside := depth_le_depthOfItems (List.mem_map_of_mem (f := (·.1)) listed)
      have otherInside := depth_le_depthOfItems (List.mem_map_of_mem (f := (·.2)) listed)
      rw [Json.depth] at deep otherDeep
      exact kept _ _ ⟨each position _ _ found, by omega, by omega⟩
    refine (keptUnless_mapM itemsKept).congr ?_
    constructor
    · intro bare
      cases bare with
      | item listed bare => exact ⟨_, List.mem_of_getElem? listed, bare⟩
    · rintro ⟨item, listed, bare⟩
      obtain ⟨position, found⟩ := List.mem_iff_getElem?.mp listed
      exact .item found bare
  · exact .none

theorem saysNothing_relaid (lenient : Bool) (relaid : Relaid .atom json other) :
    saysNothing lenient json = saysNothing lenient other := by
  obtain ⟨_, rfl⟩ | ⟨_, rfl, rfl, _⟩ | ⟨_, _, _, rfl, _⟩ := relaid.parts
  · rfl
  · rfl
  · obtain ⟨moved, others, same, rfl, order, _⟩ := relaid.object_of_slots_eq_nil rfl
    rw [same]
    match moved, others, order.length_eq with
    | [], [], _ => rfl
    | _ :: _, _ :: _, _ => rfl

theorem saysNothing_iff (lenient : Bool) {value : Json} :
    saysNothing lenient value ↔
      saysNothing true value ∧ ¬(lenient = false ∧ value = .object []) := by
  match value with
  | .null | .bool _ | .number _ | .string _ | .array _ | .object (_ :: _) => simp [saysNothing]
  | .object [] => simp [saysNothing]

theorem bare_keyword_iff {name : String} {value : Json} :
    Bare lenient .keyword (.object [(name, value)]) ↔ lenient = false ∧ value = .object [] := by
  constructor
  · intro bare
    cases bare with
    | here => exact ⟨rfl, rfl⟩
    | field _ bare => exact absurd bare not_bare_atom
  · rintro ⟨rfl, rfl⟩
    exact .here name

theorem Within.asKind (within : Within depth otherDepth .keyword json other) :
    KeptUnless (Bare lenient .keyword other) (asKind? true json) (asKind? lenient other) := by
  obtain ⟨flat, rfl⟩ | ⟨_, rfl, rfl, _⟩ | ⟨_, _, _, rfl, _⟩ := within.relaid.parts
  · cases other with
    | array => cases flat
    | object => cases flat
    | string name => exact .of_eq (fun bare => nomatch bare) _
    | _ => exact .none
  · exact .none
  · obtain ⟨moved, others, same, rfl, order, each⟩ := within.relaid.object_of_slots_eq_nil rfl
    rw [same]
    match moved, others, order, each with
    | [], others, order, _ =>
        obtain rfl := order.eq_nil
        exact .none
    | _ :: _ :: _, others, order, _ =>
        match others, order.length_eq with
        | _ :: _ :: _, _ => exact .none
    | [field], others, order, each =>
        obtain rfl := order.eq_singleton
        have same (lenient) := saysNothing_relaid lenient (each field (List.mem_singleton.mpr rfl))
        refine KeptUnless.congr (fun name => ?_) bare_keyword_iff
        simp only [List.map_cons, List.map_nil, MovedField.before, asKind?, same,
          Option.ite_none_right_eq_some]
        rw [saysNothing_iff lenient]
        exact and_right_comm

end Items

end Json

open Json

/-! The parts of a declaration, each with the reader of its fields. -/

section Parts

variable {depth otherDepth : Nat} {json other : Json} {lenient : Bool}

theorem Directive.keptUnless_bare (within : Within depth otherDepth .directive json other) :
    KeptUnless (Bare lenient .directive other) (ofJson? json) (ofJson? other) := by
  apply keptUnless_fields within.succ rfl nofun
  intro given otherGiven _ _ alike
  match given, otherGiven, alike with
  | _, _, .cons tag (.cons argument .nil) =>
      refine .bind (keptUnless_required tag fun _ _ => Within.asString) fun _ _ _ => ?_
      refine .bind (keptUnless_defaulted "" argument fun _ _ => Within.asString) fun _ _ _ => ?_
      exact .of_eq not_false _

variable {read readOther : Json → Option TypeNode}
  (types : ∀ json other, Within depth otherDepth .type json other →
    KeptUnless (Bare lenient .type other) (read json) (readOther other))

include types

theorem Member.keptUnless_bare (within : Within depth otherDepth .member json other) :
    KeptUnless (Bare lenient .member other) (ofJson? read json) (ofJson? readOther other) := by
  apply keptUnless_fields within.succ rfl nofun
  intro given otherGiven _ _ alike
  match given, otherGiven, alike with
  | _, _, .cons key (.cons optional (.cons type (.cons comment (.cons directives .nil)))) =>
      refine .bind (keptUnless_required key fun _ _ => Within.asString) fun _ _ _ => ?_
      refine .bind (keptUnless_defaulted false optional fun _ _ => Within.asBool) fun _ _ _ => ?_
      refine .bind (keptUnless_required type types) fun _ _ _ => ?_
      refine .bind (keptUnless_optional comment fun _ _ => Within.asString) fun _ _ _ => ?_
      refine .bind (keptUnless_defaulted [] directives fun _ _ within =>
        within.asList fun _ _ => Directive.keptUnless_bare) fun _ _ _ => ?_
      exact .of_eq not_false _

theorem IndexSignature.keptUnless_bare
    (within : Within depth otherDepth .indexSignature json other) :
    KeptUnless (Bare lenient .indexSignature other) (ofJson? read json) (ofJson? readOther other) := by
  apply keptUnless_fields within.succ rfl nofun
  intro given otherGiven _ _ alike
  match given, otherGiven, alike with
  | _, _, .cons key (.cons value .nil) =>
      refine .bind (keptUnless_required key types) fun _ _ _ => ?_
      refine .bind (keptUnless_required value types) fun _ _ _ => ?_
      exact .of_eq not_false _

theorem ObjectType.keptUnless_bare (within : Within depth otherDepth .body json other) :
    KeptUnless (Bare lenient .body other) (ofJson? read json) (ofJson? readOther other) := by
  apply keptUnless_fields within.succ rfl nofun
  intro given otherGiven _ _ alike
  match given, otherGiven, alike with
  | _, _, .cons members (.cons indexSignature .nil) =>
      refine .bind (keptUnless_defaulted [] members fun _ _ within =>
        within.asList fun _ _ => Member.keptUnless_bare types) fun _ _ _ => ?_
      refine .bind (keptUnless_optional indexSignature fun _ _ =>
        IndexSignature.keptUnless_bare types) fun _ _ _ => ?_
      exact .of_eq not_false _

theorem TemplateSpan.keptUnless_bare (within : Within depth otherDepth .span json other) :
    KeptUnless (Bare lenient .span other) (ofJson? read json) (ofJson? readOther other) := by
  apply keptUnless_fields within.succ rfl nofun
  intro given otherGiven _ _ alike
  match given, otherGiven, alike with
  | _, _, .cons type (.cons text .nil) =>
      refine .bind (keptUnless_required type types) fun _ _ _ => ?_
      refine .bind (keptUnless_defaulted "" text fun _ _ => Within.asString) fun _ _ _ => ?_
      exact .of_eq not_false _

theorem TemplateLiteral.keptUnless_bare (within : Within depth otherDepth .template json other) :
    KeptUnless (Bare lenient .template other) (ofJson? read json) (ofJson? readOther other) := by
  apply keptUnless_fields within.succ rfl nofun
  intro given otherGiven _ _ alike
  match given, otherGiven, alike with
  | _, _, .cons head (.cons spans .nil) =>
      refine .bind (keptUnless_required head fun _ _ => Within.asString) fun _ _ _ => ?_
      refine .bind (keptUnless_defaulted [] spans fun _ _ within =>
        within.asList fun _ _ => TemplateSpan.keptUnless_bare types) fun _ _ _ => ?_
      exact .of_eq not_false _

/-- A generic type is never an array, so its fields are read only from an object. -/
theorem TypeNode.keptUnless_bare_generic (within : Within depth otherDepth .generic json other) :
    KeptUnless (Bare lenient .generic other) (genericOfJson? read json)
      (genericOfJson? readOther other) := by
  obtain ⟨flat, rfl⟩ | ⟨_, rfl, rfl, _⟩ | ⟨_, _, _, rfl, rfl, _⟩ := within.relaid.parts
  · cases other with
    | array => cases flat
    | object => cases flat
    | _ => exact .none
  · exact .none
  · apply keptUnless_fields within.succ rfl nofun
    intro given otherGiven _ _ alike
    match given, otherGiven, alike with
    | _, _, .cons name (.cons arguments .nil) =>
        refine .bind (keptUnless_required name fun _ _ => Within.asString) fun _ _ _ => ?_
        refine .bind (keptUnless_required arguments fun _ _ within =>
          within.asList types) fun _ _ _ => ?_
        exact .of_eq not_false _

end Parts

/-! Pairs of a kind and a value. -/

namespace Json

/-- The kind of a pair and its value, from what is given for the two. -/
def givenKinded? (lenient valueFirst : Bool) : Given → Option Kinded
  | [some kind, some value] =>
    (asKind? lenient kind).map fun kind => ⟨kind, value, lenient || valueFirst⟩
  | _ => none

theorem kinded_eq (kindName : String) (lenient : Bool) (json : Json) :
    kinded? kindName lenient json =
      (byNameOrPosition? [kindName, "value"] json).bind
        (givenKinded? lenient (valueFirst kindName json)) := by
  cases json with
  | array items =>
      obtain _ | ⟨kind, _ | ⟨value, _ | _⟩⟩ := items
      · rfl
      · rfl
      · simp [kinded?, byNameOrPosition?, givenKinded?, valueFirst]
      · rfl
  | object fields =>
      have read : kinded? kindName lenient (.object fields) = (do
          let kind ← (← field? kindName fields)
          let value ← (← field? "value" fields)
          let kind ← asKind? lenient kind
          let first ← fields.find? fun field => field.1 == kindName || field.1 == "value"
          return ⟨kind, value, lenient || first.1 == "value"⟩) := rfl
      rw [read, valueFirst]
      simp only [byNameOrPosition?, byName?, List.mapM_cons, List.mapM_nil]
      rcases kind : field? kindName fields with _ | _ | kind
      · rfl
      · cases field? "value" fields <;> rfl
      · rcases field? "value" fields with _ | _ | value
        · rfl
        · rfl
        · have listed := (mem_of_field kind _).mp rfl
          cases found : fields.find? fun field => field.1 == kindName || field.1 == "value" with
          | none =>
              rw [List.find?_eq_none] at found
              simpa using found _ listed
          | some first =>
              simp [givenKinded?, Option.map_eq_bind]
  | _ => rfl

theorem asKind_true {lenient : Bool} {json : Json} {kind : String}
    (read : asKind? lenient json = some kind) : asKind? true json = some kind := by
  match json, read with
  | .string _, read => exact read
  | .object [(name, value)], read =>
      simp only [asKind?, Option.ite_none_right_eq_some] at read ⊢
      exact ⟨((saysNothing_iff lenient).mp read.1).1, read.2⟩

/-- A reader of a kind and its value is kept if it is kept on the value. -/
theorem keptUnless_kinded {depth otherDepth : Nat} {role : Role} {json other : Json} {lenient : Bool}
    {α : Type} {kindName : String} {read readOther : Kinded → Option α} (valueRole : Json → Role)
    (within : Within (depth + 1) (otherDepth + 1) role json other)
    (pair : ∀ json, role.slots json = [(kindName, .keyword), ("value", valueRole json)])
    (eased : role.readsLeniently lenient other kindName = lenient)
    (kept : ∀ kind value otherValue, (kinded? kindName true json).map (·.kind) = some kind →
      (kinded? kindName true other).map (·.kind) = some kind →
      Within depth otherDepth (valueRole json) value otherValue →
      KeptUnless (Bare (role.readsLeniently lenient other "value") (valueRole other) otherValue)
        (read ⟨kind, value, true⟩)
        (readOther ⟨kind, otherValue, lenient || valueFirst kindName other⟩)) :
    KeptUnless (Bare lenient role other) ((kinded? kindName true json).bind read)
      ((kinded? kindName lenient other).bind readOther) := by
  simp only [kinded_eq, Option.bind_assoc] at kept ⊢
  refine keptUnless_fields within (by rw [pair]; rfl) (by rw [pair]; nofun)
    fun given otherGiven read otherRead alike => ?_
  rw [pair] at alike ⊢
  match given, otherGiven, alike with
  | _, _, .cons .none (.cons _ .nil) => exact .none
  | _, _, .cons (.some _) (.cons .none .nil) => exact .none
  | _, _, .cons (.some kind) (.cons (.some value) .nil) =>
      simp only [givenKinded?, Option.bind_map, Function.comp_def, Bool.true_or]
      refine (kind.asKind.bind fun name readName otherName => kept name _ _ ?_ ?_ value).congr ?_
      · simp [read, givenKinded?, readName]
      · simp [otherRead, givenKinded?, asKind_true otherName]
      · simp [SlotsBare, eased]

end Json

section Types

variable {depth otherDepth : Nat} {json other : Json} {lenient : Bool}

theorem Literal.keptUnless_bare (within : Within depth otherDepth .literal json other) :
    KeptUnless (Bare lenient .literal other) (ofJson? true json) (ofJson? lenient other) := by
  refine keptUnless_kinded (fun _ => .atom) within.succ (fun _ => rfl) rfl
    fun kind value otherValue _ _ within => ?_
  simp only [bind_pure_comp, Option.map_eq_map]
  split
  · exact within.asString.map Literal.string
  · exact within.asString.map Literal.number
  · exact within.asBool.map Literal.boolean
  · exact .none

variable {read readOther : TypeReader}
  (types : ∀ json other lenient, Within depth otherDepth .type json other →
    KeptUnless (Bare lenient .type other) (read true json) (readOther lenient other))

include types

theorem TypeNode.keptUnless_bare_kinded (kind : String)
    (within : Within depth otherDepth (.ofKind kind) json other) :
    KeptUnless (Bare lenient (.ofKind kind) other) (ofKinded? read ⟨kind, json, true⟩)
      (ofKinded? readOther ⟨kind, other, lenient⟩) := by
  have typesHere := fun json other => types json other lenient
  unfold ofKinded?
  dsimp only
  split
  · refine ((within.asKind.bind fun _ _ _ => .of_eq not_false _).congr ?_).map _
    exact (iff_of_eq (or_false _)).symm
  · exact (Literal.keptUnless_bare within).map _
  · exact within.asString.map _
  · exact (typesHere _ _ within).map _
  · exact (within.asList typesHere).map _
  · exact (ObjectType.keptUnless_bare typesHere within).map _
  · exact (within.asList typesHere).map _
  · exact (within.asList typesHere).map _
  · exact keptUnless_bare_generic typesHere within
  · exact (TemplateLiteral.keptUnless_bare typesHere within).map _
  · exact (typesHere _ _ within).map _
  · exact .none

end Types

namespace TypeNode

theorem ofJsonWithin_flat {depth : Nat} {lenient : Bool} {json : Json} (flat : json.depth = 0) :
    ofJsonWithin? depth lenient json = none := by
  cases depth with
  | zero => rfl
  | succ depth => rw [ofJsonWithin?, kinded_eq, byNameOrPosition_flat flat]; rfl

/-- A type is read from another layout as it is read leniently from the first one, unless the other
layout has a bare kind. -/
theorem ofJsonWithin_keptUnless_bare {depth otherDepth : Nat} {json other : Json} (lenient : Bool)
    (within : Within depth otherDepth .type json other) :
    KeptUnless (Bare lenient .type other) (ofJsonWithin? depth true json)
      (ofJsonWithin? otherDepth lenient other) := by
  -- The other layout is read to a depth of its own: what is added to it may be nested more deeply.
  induction depth generalizing otherDepth json other lenient with
  | zero =>
      obtain ⟨flat, rfl⟩ | ⟨deep, _⟩ := within.relaid.flat_or_deep
      · rw [ofJsonWithin_flat flat, ofJsonWithin_flat flat]
        exact .none
      · have shallow := within.deep
        omega
  | succ depth induction =>
      obtain ⟨flat, rfl⟩ | ⟨_, otherDeep⟩ := within.relaid.flat_or_deep
      · rw [ofJsonWithin_flat flat, ofJsonWithin_flat flat]
        exact .none
      · obtain _ | otherDepth := otherDepth
        · have shallow := within.otherDeep
          omega
        · refine keptUnless_kinded (fun json => json.kind?.elim .atom .ofKind) within (fun _ => rfl)
            (by simp [Role.readsLeniently]) fun kind value otherValue found otherFound part => ?_
          rw [kind?, found] at part
          have types := fun json other lenient => @induction otherDepth json other lenient
          rw [kind?, otherFound]
          exact keptUnless_bare_kinded types kind part

end TypeNode

namespace Declaration

/-- Reads a declaration, the type in it by `readType?`. -/
def ofJsonBy? (readType? : Json → Option TypeNode) (json : Json) : Option Declaration := do
  match ← byNameOrPosition? ["name", "node"] json with
  | [name, node] =>
    return { name := ← required? asString? name, node := ← required? readType? node }
  | _ => none

/-- Reads declarations, the types in them by `readType?`. -/
def listOfJsonBy? (readType? : Json → Option TypeNode) (json : Json) : Option (List Declaration) :=
  if json.isList then asList? (ofJsonBy? readType?) json
  else (ofJsonBy? readType? json).map fun declaration => [declaration]

/-- Only a declaration may be an array that starts with a text. -/
theorem ofJsonBy_array {readType? : Json → Option TypeNode} {items : List Json}
    (list : (Json.array items).isList) : ofJsonBy? readType? (.array items) = none := by
  have unnamed : ∀ item others, items = item :: others → asString? item = none := by
    intro item others same
    subst same
    cases item with
    | string => cases list
    | _ => rfl
  match items with
  | [] => rfl
  | [item] =>
      simp [ofJsonBy?, byNameOrPosition?, required?, unnamed item [] rfl]
  | [item, node] => simp [ofJsonBy?, byNameOrPosition?, required?, unnamed item [node] rfl]
  | _ :: _ :: _ :: _ => simp [ofJsonBy?, byNameOrPosition?]

theorem listOfJson_eq (json : Json) : listOfJson? json = listOfJsonBy? TypeNode.ofJson? json := by
  have one : ofJson? = ofJsonBy? TypeNode.ofJson? := rfl
  rw [listOfJson?, listOfJsonBy?, one]
  by_cases list : json.isList
  · cases json with
    | array => rw [if_pos list, ofJsonBy_array list]
    | _ => cases list
  · have unlisted : asList? (ofJsonBy? TypeNode.ofJson?) json = none := by
      cases json with
      | array items =>
          cases items with
          | nil => exact absurd rfl list
          | cons item others =>
              cases item with
              | string => rfl
              | _ => exact absurd rfl list
      | _ => rfl
    rw [if_neg list]
    cases ofJsonBy? TypeNode.ofJson? json with
    | none => exact unlisted
    | some declaration => rfl

theorem isList_relaid {role : Role} {json other : Json} (relaid : Relaid role json other) :
    other.isList = json.isList := by
  obtain ⟨_, rfl⟩ | ⟨pairs, rfl, rfl, each⟩ | ⟨_, _, _, rfl, rfl, _⟩ := relaid.parts
  · rfl
  · match pairs, each with
    | [], _ => rfl
    | (item, otherItem) :: _, each =>
        have first := each 0 item otherItem rfl
        cases first with
        | same => cases item <;> rfl
        | _ => rfl
  · rfl

/-- Reads declarations leniently throughout. -/
def listLeniently? : Json → Option (List Declaration) :=
  listOfJsonBy? fun json => TypeNode.ofJsonWithin? json.depth true json

theorem ofJsonBy_keptUnless_bare {depth otherDepth : Nat} {json other : Json}
    (within : Within depth otherDepth .declaration json other) :
    KeptUnless (Bare false .declaration other)
      (ofJsonBy? (fun json => TypeNode.ofJsonWithin? json.depth true json) json)
      (ofJsonBy? TypeNode.ofJson? other) := by
  apply keptUnless_fields within.succ rfl nofun
  intro given otherGiven _ _ alike
  match given, otherGiven, alike with
  | _, _, .cons name (.cons node .nil) =>
      refine .bind (keptUnless_required name fun _ _ => Within.asString) fun _ _ _ => ?_
      refine .bind (keptUnless_required node fun _ _ within =>
        TypeNode.ofJsonWithin_keptUnless_bare false
          ⟨within.relaid, Nat.le_refl _, Nat.le_refl _⟩) fun _ _ _ => ?_
      exact .of_eq not_false _

theorem listOfJson_keptUnless_bare {json other : Json}
    (relaid : Relaid (.ofSource json) json other) :
    KeptUnless (Bare false (.ofSource other) other) (listLeniently? json) (listOfJson? other) := by
  have within : Within json.depth other.depth (.ofSource json) json other :=
    ⟨relaid, Nat.le_refl _, Nat.le_refl _⟩
  rw [listOfJson_eq, listLeniently?, listOfJsonBy?, listOfJsonBy?, isList_relaid relaid]
  rw [Role.ofSource] at within ⊢
  rw [isList_relaid relaid]
  by_cases list : json.isList
  · simp only [if_pos list] at within ⊢
    exact within.asList fun _ _ => ofJsonBy_keptUnless_bare
  · simp only [if_neg list] at within ⊢
    exact (ofJsonBy_keptUnless_bare within).map _

/-- Another layout of declarations is read as the same ones, unless it has a bare kind. -/
theorem listOfJson_relaid {json other : Json} {declarations : List Declaration}
    (relaid : Relaid (.ofSource json) json other) (read : listOfJson? json = some declarations)
    (others : List Declaration) :
    listOfJson? other = some others ↔
      others = declarations ∧ ¬Bare false (.ofSource other) other := by
  -- A value is a layout of itself, so what is read of it is what is read leniently.
  have leniently := ((listOfJson_keptUnless_bare (.same _ json) declarations).mp read).1
  rw [listOfJson_keptUnless_bare relaid others, leniently, Option.some_inj, eq_comm]

theorem readJson_read {source : String} {json : Json} (read : Json.read? source.toList = some json) :
    readJson source =
      match listOfJson? json with
      | none => .error (.unreadable .notDeclarations)
      | some declarations => .ok (declarations.map (·.hydrate)) := by
  rw [Json.read?] at read
  rw [readJson]
  cases first : Json.readFirst? source.toList with
  | none => rw [first] at read; cases read
  | some found =>
      rw [first] at read
      simp only [Option.ite_none_right_eq_some, Option.some_inj] at read
      obtain ⟨ended, same⟩ := read
      dsimp only
      rw [same]
      cases listOfJson? json with
      | none => rfl
      | some declarations => simp only [ended, if_true]

/-- Neither the order of fields nor those that are passed over matter, at any depth, to what is read of
a source: from another layout of its JSON the same declarations are read. But a kind may be written as
an object around an empty object only within a value that stands before its own kind, so a layout is
refused, whatever is read from others, if a kind is written so anywhere else in it. -/
theorem readJson_relaid {json other : Json} {declarations : List Declaration}
    (relaid : Relaid (.ofSource json) json other) (read : listOfJson? json = some declarations) :
    (∀ others, listOfJson? other = some others ↔
      others = declarations ∧ ¬Bare false (.ofSource other) other) ∧
    ∀ source otherSource : String, Json.read? source.toList = some json →
      Json.read? otherSource.toList = some other →
      readJson source = .ok (declarations.map (·.hydrate)) ∧
      (¬Bare false (.ofSource other) other →
        readJson otherSource = .ok (declarations.map (·.hydrate))) ∧
      (Bare false (.ofSource other) other →
        readJson otherSource = .error (.unreadable .notDeclarations)) := by
  have same := listOfJson_relaid relaid read
  refine ⟨same, fun source otherSource sourceRead otherRead => ?_⟩
  rw [readJson_read sourceRead, readJson_read otherRead, read]
  refine ⟨rfl, fun plain => ?_, fun bare => ?_⟩
  · rw [(same declarations).mpr ⟨rfl, plain⟩]
  · cases found : listOfJson? other with
    | none => rfl
    | some others => exact absurd bare ((same others).mp found).2

/-- A list of texts, and another layout of it. -/
theorem readJson_relaid_texts :
    let text : Json := .object [("kind", .string "primitive"), ("value", .string "string")]
    let relaidText : Json := .object [("value", .string "string"), ("kind", .string "primitive")]
    let json : Json := .object [("name", .string "Texts"),
      ("node", .object [("kind", .string "array"), ("value", text)])]
    let relaid : Json := .object [
      ("node", .object [("value", relaidText), ("note", .array []), ("kind", .string "array")]),
      ("shared", .bool true), ("name", .string "Texts")]
    let declarations : List Declaration := [⟨"Texts", .array (.primitive .string)⟩]
    (Relaid (.ofSource json) json relaid ∧ listOfJson? json = some declarations) ∧
      ¬Bare false (.ofSource relaid) relaid ∧
      readJson relaid.render = .ok (declarations.map (·.hydrate)) := by
  intro text relaidText json relaid declarations
  have inner : Relaid .type text relaidText := by
    refine .object [⟨"kind", .string "primitive", .string "primitive"⟩,
      ⟨"value", .string "string", .string "string"⟩] [] _ ?_ (by simp) (.swap _ _ _)
    simp only [List.forall_mem_cons]
    exact ⟨.same _ _, .same _ _, by simp⟩
  have node : Relaid .type (.object [("kind", .string "array"), ("value", text)]) (.object [
      ("value", relaidText), ("note", .array []), ("kind", .string "array")]) := by
    refine .object [⟨"kind", .string "array", .string "array"⟩, ⟨"value", text, relaidText⟩]
      [("note", .array [])] _ ?_ ?_ (@List.perm_append_comm _ [_, _] [_])
    · simp only [List.forall_mem_cons]
      exact ⟨.same _ _, inner, by simp⟩
    · simp [Role.PassesOver, Role.slots]
  have whole : Relaid .declaration json relaid := by
    refine .object [⟨"name", .string "Texts", .string "Texts"⟩, ⟨"node", _, _⟩]
      [("shared", .bool true)] _ ?_ ?_ (@List.perm_append_comm _ [_, _] [_])
    · simp only [List.forall_mem_cons]
      exact ⟨.same _ _, node, by simp⟩
    · simp [Role.PassesOver, Role.slots]
  obtain ⟨same, texts⟩ := @readJson_relaid json relaid declarations whole rfl
  have plain := ((same declarations).mp rfl).2
  have first : Json.read? json.render.toList = some json :=
    read_render (by simp [json, text]) (by decide)
  have other : Json.read? relaid.render.toList = some relaid :=
    read_render (by simp [relaid, relaidText]) (by decide)
  exact ⟨⟨whole, rfl⟩, plain, (texts _ _ first other).2.1 plain⟩

/-- A kind that is written as an object around an empty object is read if the value around it stands
before its own kind, and not if it stands after it. -/
theorem readJson_bare_kind :
    let early : Json := .object [("value", .object [("string", .object [])]),
      ("kind", .string "primitive")]
    let late : Json := .object [("kind", .string "primitive"),
      ("value", .object [("string", .object [])])]
    let json (node : Json) : Json := .object [("name", .string "A"), ("node", node)]
    Relaid (.ofSource (json early)) (json early) (json late) ∧
      listOfJson? (json early) = some [⟨"A", .primitive .string⟩] ∧
      listOfJson? (json late) = none ∧
      readJson (json early).render = .ok [⟨"A", .primitive .string⟩] ∧
      readJson (json late).render = .error (.unreadable .notDeclarations) := by
  intro early late json
  have node : Relaid .type early late := by
    refine .object [⟨"value", .object [("string", .object [])], .object [("string", .object [])]⟩,
      ⟨"kind", .string "primitive", .string "primitive"⟩] [] _ ?_ (by simp) (.swap _ _ _)
    simp only [List.forall_mem_cons]
    exact ⟨.same _ _, .same _ _, by simp⟩
  have whole : Relaid .declaration (json early) (json late) := by
    refine .object [⟨"name", .string "A", .string "A"⟩, ⟨"node", _, _⟩] [] _ ?_ (by simp) (.refl _)
    simp only [List.forall_mem_cons]
    exact ⟨.same _ _, node, by simp⟩
  have earlyRead : listOfJson? (json early) = some [⟨"A", .primitive .string⟩] := rfl
  have lateRead : listOfJson? (json late) = none := rfl
  refine ⟨whole, earlyRead, lateRead, ?_, ?_⟩
  · rw [readJson_read (read_render (by simp [json, early]) (by decide)), earlyRead]
    rfl
  · rw [readJson_read (read_render (by simp [json, late]) (by decide)), lateRead]

end Declaration

end TypeSchema
