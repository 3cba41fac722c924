import TypeSchema.Proofs.TypeNode.Compilation
import TypeSchema.Proofs.TypeNode.Induction

/-!
What a type has to meet to have a schema: a list of checks, in the order in which they are made. The
main statement is that a type has a schema if it passes all of them, and fails with the error of the
first that it does not pass if there is one. Keys, selections and holes of templates are checked
whole, and no check looks inside them.
-/

namespace TypeSchema

/-- A condition on a type. -/
inductive Check where
  /-- A union or an intersection, `empty` naming the one without parts, has parts. -/
  | hasParts (empty : Construct) (parts : List TypeNode)
  /-- The keys of a record are strings. -/
  | recordKey (site : RecordSite) (key : TypeNode)
  /-- A type that a selection of keys is made of is a string literal. -/
  | selectedKey (utility : Utility) (inUnion : Bool) (leaf : TypeNode)
  /-- The type of a hole of a template has a pattern. -/
  | hole (type : TypeNode)
  /-- A generic name is that of a utility that takes this number of types. -/
  | application (name : String) (count : Nat)

namespace Check

def holeKeywords : List Primitive :=
  [.string, .number, .boolean, .any, .unknown]

/-- The error of a check that is not passed. -/
def fault? : Check → Option GenerateError
  | hasParts empty parts => if parts.isEmpty then some (.unsupported empty) else none
  | recordKey site key =>
    match key.unwrap with
    | .primitive .string => none
    | other => some (.recordKey site other.describe)
  | selectedKey utility inUnion leaf =>
    match leaf with
    | .literal (.string _) => none
    | other => some (.keySelection utility other.kindName inUnion)
  | hole type =>
    match type.unwrap with
    | .primitive keyword =>
      if keyword ∈ holeKeywords then none else some (.templateSpan keyword.keyword)
    | other => some (.templateSpan other.kindName)
  | application name count =>
    match Utility.ofName? name with
    | none => some (.unsupported (.unknownGeneric name))
    | some utility =>
      if count = utility.arity then none
      else some (.unsupported (.utilityArity utility count))

end Check

namespace TypeNode

def isUnion : TypeNode → Bool
  | .union _ => true
  | _ => false

mutual

/-- The types that a selection of keys is made of: parentheses and unions taken apart, from left to
right. -/
def leaves : TypeNode → List TypeNode
  | .parenthesized inner => inner.leaves
  | .union parts => leavesAll parts
  | node => [node]

def leavesAll : List TypeNode → List TypeNode
  | [] => []
  | node :: others => node.leaves ++ leavesAll others

end

def selectionChecks (utility : Utility) (keys : TypeNode) : List Check :=
  keys.leaves.map (.selectedKey utility keys.unwrap.isUnion)

mutual

/-- The checks of a type, in order. -/
def checks : TypeNode → List Check
  | .primitive _ => []
  | .literal _ => []
  | .reference _ => []
  | .array element => element.checks
  | .tuple elements => checksAll elements
  | .object ⟨members, none⟩ => memberChecks members
  | .object ⟨members, some ⟨key, value⟩⟩ =>
    .recordKey .indexSignature key :: value.checks ++ memberChecks members
  | .union parts => .hasParts .emptyUnion parts :: checksAll parts
  | .intersection parts => .hasParts .emptyIntersection parts :: checksAll parts
  | .generic name arguments =>
    .application name arguments.length ::
      match name, arguments with
      | "Array", [element] => element.checks
      | "Record", [key, value] => .recordKey .generic key :: value.checks
      | "Partial", [inner] => inner.checks
      | "Required", [inner] => inner.checks
      | "Readonly", [inner] => inner.checks
      | "Pick", [inner, keys] => selectionChecks .pickKeys keys ++ inner.checks
      | "Omit", [inner, keys] => selectionChecks .omitKeys keys ++ inner.checks
      | _, _ => []
  | .template ⟨_, spans⟩ => spans.map fun span => .hole span.type
  | .parenthesized inner => inner.checks

def checksAll : List TypeNode → List Check
  | [] => []
  | node :: others => node.checks ++ checksAll others

def memberChecks : List Member → List Check
  | [] => []
  | ⟨_, _, type, _, _⟩ :: others => type.checks ++ memberChecks others

end

end TypeNode

namespace Check

variable {α β : Type} {first second rest : List Check} {check : Check}

/-- A result is what checks say: a value if all are passed, the first fault otherwise. -/
def Decide (checks : List Check) (result : Except GenerateError α) : Prop :=
  match checks.findSome? fault? with
  | none => ∃ value, result = .ok value
  | some error => result = .error error

theorem decide_nil (value : α) : Decide [] (.ok value) := ⟨value, rfl⟩

theorem decide_fault {error : GenerateError} (fault : check.fault? = some error) :
    Decide (check :: rest) (.error error : Except GenerateError α) := by
  simp only [Decide, List.findSome?_cons, fault]

theorem decide_pass {result : Except GenerateError α} (passed : check.fault? = none)
    (decided : Decide rest result) : Decide (check :: rest) result := by
  simpa only [Decide, List.findSome?_cons, passed] using decided

theorem decide_bind {result : Except GenerateError α} {next : α → Except GenerateError β}
    (decided : Decide first result) (decidedNext : ∀ value, Decide second (next value)) :
    Decide (first ++ second) (result >>= next) := by
  cases found : first.findSome? fault? with
  | some error =>
      simp only [Decide, found] at decided
      simp only [Decide, List.findSome?_append, found, Option.some_or, decided]
      rfl
  | none =>
      simp only [Decide, found] at decided
      obtain ⟨value, rfl⟩ := decided
      change Decide (first ++ second) (next value)
      simpa only [Decide, List.findSome?_append, found, Option.none_or] using decidedNext value

theorem decide_check {result : Except GenerateError α} {next : α → Except GenerateError β}
    (decided : Decide [check] result) (decidedNext : ∀ value, Decide rest (next value)) :
    Decide (check :: rest) (result >>= next) :=
  decide_bind decided decidedNext

theorem decide_map {result : Except GenerateError α} (decided : Decide first result)
    (change : α → β) : Decide first (result >>= fun value => .ok (change value)) := by
  have appended := decide_bind decided fun value => decide_nil (change value)
  rwa [List.append_nil] at appended

section

variable {checks : List Check} {result : Except GenerateError α} (decided : Decide checks result)

include decided

theorem Decide.ok_iff :
    (∃ value, result = .ok value) ↔ ∀ check ∈ checks, check.fault? = none := by
  rw [← List.findSome?_eq_none_iff]
  cases found : checks.findSome? fault? with
  | none =>
      simp only [Decide, found] at decided
      exact ⟨fun _ => rfl, fun _ => decided⟩
  | some error =>
      simp only [Decide, found] at decided
      simp only [decided, reduceCtorEq, exists_false]

theorem Decide.error_iff (error : GenerateError) :
    result = .error error ↔ checks.findSome? fault? = some error := by
  cases found : checks.findSome? fault? with
  | none =>
      simp only [Decide, found] at decided
      obtain ⟨value, passed⟩ := decided
      simp only [passed, reduceCtorEq]
  | some first =>
      simp only [Decide, found] at decided
      simp only [decided, Except.error.injEq, Option.some.injEq]

end

end Check

namespace TypeNode

open Check

private theorem checkRecordKey_decided (site : RecordSite) (key : TypeNode) :
    Decide [.recordKey site key] (key.checkRecordKey site) := by
  by_cases isString : key.unwrap = .primitive .string
  · exact decide_pass (by simp only [fault?, isString]) ⟨(), by simp only [checkRecordKey, isString]⟩
  · have failed : key.checkRecordKey site = .error (.recordKey site key.unwrap.describe) := by
      simp only [checkRecordKey]
    rw [failed]
    exact decide_fault (by simp only [fault?])

private theorem patternFragment_decided (type : TypeNode) :
    Decide [.hole type] type.patternFragment := by
  cases form : type.unwrap with
  | primitive keyword =>
      cases keyword <;> simp [Decide, fault?, patternFragment, form, holeKeywords]
  | _ => simp [Decide, fault?, patternFragment, form]

private theorem spanSource_decided (spans : List TemplateSpan) :
    Decide (spans.map fun span => .hole span.type) (TemplateLiteral.spanSource spans) := by
  induction spans with
  | nil => exact decide_nil []
  | cons span spans induction =>
      exact decide_check (patternFragment_decided span.type) fun _ => decide_map induction _

private theorem maskKeysAll_decided (utility : Utility) (parts : List TypeNode)
    (decided : ∀ part ∈ parts,
      Decide (part.leaves.map (.selectedKey utility true)) (part.maskKeys utility true)) :
    Decide ((leavesAll parts).map (.selectedKey utility true)) (maskKeysAll utility parts) := by
  induction parts with
  | nil => exact decide_nil []
  | cons part parts induction =>
      obtain ⟨decidedPart, decidedParts⟩ := List.forall_mem_cons.mp decided
      simp only [leavesAll, List.map_append, maskKeysAll]
      exact decide_bind decidedPart fun _ => decide_map (induction decidedParts) _

/-- The leaves of a union, and they alone, are told to be parts of one. -/
theorem maskKeys_decided (utility : Utility) (inUnion : Bool) (keys : TypeNode) :
    Decide (keys.leaves.map (.selectedKey utility (inUnion || keys.unwrap.isUnion)))
      (keys.maskKeys utility inUnion) := by
  induction keys generalizing inUnion with
  | parenthesized inner induction =>
      simpa only [leaves, maskKeys, unwrap] using induction inUnion
  | union parts induction =>
      simp only [leaves, maskKeys, unwrap, isUnion, Bool.or_true]
      refine maskKeysAll_decided utility parts fun part member => ?_
      simpa only [Bool.true_or] using induction part member true
  | literal value =>
      cases value <;> simp [Decide, fault?, leaves, unwrap, isUnion, maskKeys]
  | _ => simp [Decide, fault?, leaves, unwrap, isUnion, maskKeys]

private theorem compileAll_decided (nodes : List TypeNode)
    (decided : ∀ node ∈ nodes, Decide node.checks node.compile) :
    Decide (checksAll nodes) (compileAll nodes) := by
  induction nodes with
  | nil => exact decide_nil []
  | cons node nodes induction =>
      obtain ⟨decidedNode, decidedNodes⟩ := List.forall_mem_cons.mp decided
      exact decide_bind decidedNode fun _ => decide_map (induction decidedNodes) _

private theorem compileAnd_decided (nodes : List TypeNode) (schema : Schema)
    (decided : ∀ node ∈ nodes, Decide node.checks node.compile) :
    Decide (checksAll nodes) (compileAnd schema nodes) := by
  induction nodes generalizing schema with
  | nil => exact decide_nil schema
  | cons node nodes induction =>
      obtain ⟨decidedNode, decidedNodes⟩ := List.forall_mem_cons.mp decided
      exact decide_bind decidedNode fun other => induction (schema.and other) decidedNodes

private theorem memberChecks_cons (member : Member) (others : List Member) :
    memberChecks (member :: others) = member.type.checks ++ memberChecks others := by
  cases member
  rfl

private theorem compileMembers_decided (members : List Member)
    (decided : ∀ member ∈ members, Decide member.type.checks member.type.compile) :
    Decide (memberChecks members) (compileMembers members) := by
  induction members with
  | nil => exact decide_nil []
  | cons member members induction =>
      obtain ⟨decidedMember, decidedMembers⟩ := List.forall_mem_cons.mp decided
      rw [memberChecks_cons, compileMembers_cons]
      exact decide_bind decidedMember fun _ => decide_map (induction decidedMembers) _

private theorem object_decided (members : List Member) (signature : Option IndexSignature)
    (decidedMembers : ∀ member ∈ members, Decide member.type.checks member.type.compile)
    (decidedValue : ∀ index ∈ signature, Decide index.value.checks index.value.compile) :
    Decide (TypeNode.object ⟨members, signature⟩).checks
      (TypeNode.object ⟨members, signature⟩).compile := by
  have shape := compileMembers_decided members decidedMembers
  cases signature with
  | none => exact decide_map shape _
  | some signature =>
      obtain ⟨key, value⟩ := signature
      have checkedKey := checkRecordKey_decided .indexSignature key
      have decidedValue := decidedValue ⟨key, value⟩ rfl
      cases members with
      | nil =>
          rw [compile_index_alone]
          simp only [checks, memberChecks, List.append_nil]
          exact decide_check checkedKey fun _ => decide_map decidedValue _
      | cons member members =>
          rw [compile_index_and_members]
          exact decide_check checkedKey fun _ =>
            decide_bind decidedValue fun _ => decide_map shape _

private theorem union_decided (parts : List TypeNode)
    (decided : ∀ part ∈ parts, Decide part.checks part.compile) :
    Decide (TypeNode.union parts).checks (TypeNode.union parts).compile := by
  match parts with
  | [] => exact decide_fault rfl
  | [part] =>
      have decidedPart := decided part (List.mem_singleton_self part)
      simpa only [checks, checksAll, List.append_nil, compile] using decide_pass rfl decidedPart
  | first :: second :: others =>
      rw [compile_union_of_two]
      exact decide_pass rfl (decide_map (compileAll_decided _ decided) _)

private theorem intersection_decided (parts : List TypeNode)
    (decided : ∀ part ∈ parts, Decide part.checks part.compile) :
    Decide (TypeNode.intersection parts).checks (TypeNode.intersection parts).compile := by
  cases parts with
  | nil => exact decide_fault rfl
  | cons part others =>
      obtain ⟨decidedPart, decidedOthers⟩ := List.forall_mem_cons.mp decided
      exact decide_pass rfl
        (decide_bind decidedPart fun schema => compileAnd_decided others schema decidedOthers)

private theorem selection_decided (utility : Utility) (keys : TypeNode) :
    Decide (selectionChecks utility keys) (keys.maskKeys utility false) := by
  simpa only [selectionChecks, Bool.false_or] using maskKeys_decided utility false keys

private theorem generic_decided (name : String) (arguments : List TypeNode)
    (decided : ∀ argument ∈ arguments, Decide argument.checks argument.compile) :
    Decide (TypeNode.generic name arguments).checks (TypeNode.generic name arguments).compile := by
  cases application name arguments with
  | arrayOf element => exact decide_pass rfl (decide_map (decided element (by simp)) _)
  | record key value =>
      exact decide_pass rfl (decide_check (checkRecordKey_decided .generic key) fun _ =>
        decide_map (decided value (by simp)) _)
  | allOptional inner => exact decide_pass rfl (decide_map (decided inner (by simp)) _)
  | allRequired inner => exact decide_pass rfl (decide_map (decided inner (by simp)) _)
  | allReadonly inner => exact decide_pass rfl (decided inner (by simp))
  | pickKeys inner keys =>
      exact decide_pass rfl (decide_bind (selection_decided .pickKeys keys) fun _ =>
        decide_map (decided inner (by simp)) _)
  | omitKeys inner keys =>
      exact decide_pass rfl (decide_bind (selection_decided .omitKeys keys) fun _ =>
        decide_map (decided inner (by simp)) _)
  | wrongArity utility arguments wrong =>
      have fault : (Check.application utility.name arguments.length).fault? =
          some (.unsupported (.utilityArity utility arguments.length)) := by
        simp only [fault?, Utility.ofName?_name, if_neg wrong]
      rw [checks.eq_def, compile_of_wrongArity wrong]
      exact decide_fault fault
  | unknown name arguments unknown =>
      have fault : (Check.application name arguments.length).fault? =
          some (.unsupported (.unknownGeneric name)) := by
        simp only [fault?, unknown]
      rw [checks.eq_def, compile_of_unknown unknown]
      exact decide_fault fault

theorem compile_decided (node : TypeNode) : Decide node.checks node.compile := by
  induction node with
  | primitive keyword => exact decide_nil _
  | literal value => exact decide_nil _
  | reference name => exact decide_nil _
  | array element induction => exact decide_map induction _
  | tuple elements induction => exact decide_map (compileAll_decided elements induction) _
  | object members signature inductionMembers inductionIndex =>
      exact object_decided members signature inductionMembers fun index member =>
        (inductionIndex index member).2
  | union parts induction => exact union_decided parts induction
  | intersection parts induction => exact intersection_decided parts induction
  | generic name arguments induction => exact generic_decided name arguments induction
  | template head spans induction =>
      exact decide_map (decide_map (spanSource_decided spans) _) _
  | parenthesized inner induction => simpa only [checks, compile] using induction

theorem compile_ok_iff (node : TypeNode) :
    (∃ schema, node.compile = .ok schema) ↔ ∀ check ∈ node.checks, check.fault? = none :=
  (compile_decided node).ok_iff

theorem compile_error_iff (node : TypeNode) (error : GenerateError) :
    node.compile = .error error ↔ node.checks.findSome? fault? = some error :=
  (compile_decided node).error_iff error

/-- A type has a schema exactly if it passes all its checks; otherwise it fails with the error of
the first check that it does not pass. -/
theorem compile_eq_first_fault (node : TypeNode) :
    ((∃ schema, node.compile = .ok schema) ↔ ∀ check ∈ node.checks, check.fault? = none) ∧
      ∀ error, node.compile = .error error ↔
        ∃ before check after, node.checks = before ++ check :: after ∧
          (∀ earlier ∈ before, earlier.fault? = none) ∧ check.fault? = some error := by
  refine ⟨compile_ok_iff node, fun error => ?_⟩
  rw [compile_error_iff, List.findSome?_eq_some_iff]
  constructor
  · rintro ⟨before, check, after, split, fault, passed⟩
    exact ⟨before, check, after, split, passed, fault⟩
  · rintro ⟨before, check, after, split, passed, fault⟩
    exact ⟨before, check, after, split, fault, passed⟩

-- The keys come before the type that they are picked from.
example : (TypeNode.generic "Pick" [.union [], .reference "Key"]).compile =
    .error (.keySelection .pickKeys "type reference" false) := rfl

end TypeNode

end TypeSchema
