import Mathlib.Data.List.Basic
import TypeSchema.TypeNode.Compile

/-!
How the schema of a type comes about, one equation for each form of type, and what a generic type
can be.
-/

namespace TypeSchema

namespace Utility

def arity : Utility → Nat
  | arrayOf | allOptional | allRequired | allReadonly => 1
  | record | pickKeys | omitKeys => 2

@[simp] theorem ofName?_name (utility : Utility) : ofName? utility.name = some utility := by
  cases utility <;> rfl

theorem name_of_ofName? {name : String} {utility : Utility}
    (found : ofName? name = some utility) : utility.name = name := by
  have sound := List.find?_some found
  exact eq_of_beq sound

end Utility

/-- The member of a shape that a member of an object type becomes, given the schema of its type. -/
def Member.entry (member : Member) (schema : Schema) : ShapeEntry :=
  let refined := schema.chainedAll (Directive.refinements member.directives)
  ⟨member.key, member.comment, if member.optional then refined.optional else refined⟩

namespace TypeNode

/-- What a generic type can be: a utility with its number of types, a utility with another number,
or a name without a meaning. -/
inductive Application : String → List TypeNode → Prop
  | arrayOf (element : TypeNode) : Application "Array" [element]
  | record (key value : TypeNode) : Application "Record" [key, value]
  | allOptional (inner : TypeNode) : Application "Partial" [inner]
  | allRequired (inner : TypeNode) : Application "Required" [inner]
  | allReadonly (inner : TypeNode) : Application "Readonly" [inner]
  | pickKeys (inner keys : TypeNode) : Application "Pick" [inner, keys]
  | omitKeys (inner keys : TypeNode) : Application "Omit" [inner, keys]
  | wrongArity (utility : Utility) (arguments : List TypeNode)
      (wrong : arguments.length ≠ utility.arity) : Application utility.name arguments
  | unknown (name : String) (arguments : List TypeNode)
      (unknown : Utility.ofName? name = none) : Application name arguments

private theorem application_of_arity (utility : Utility) (arguments : List TypeNode)
    (right : arguments.length = utility.arity) : Application utility.name arguments := by
  cases utility with
  | arrayOf =>
      obtain ⟨element, rfl⟩ := List.length_eq_one_iff.mp right
      exact .arrayOf element
  | record =>
      obtain ⟨key, value, rfl⟩ := List.length_eq_two.mp right
      exact .record key value
  | allOptional =>
      obtain ⟨inner, rfl⟩ := List.length_eq_one_iff.mp right
      exact .allOptional inner
  | allRequired =>
      obtain ⟨inner, rfl⟩ := List.length_eq_one_iff.mp right
      exact .allRequired inner
  | allReadonly =>
      obtain ⟨inner, rfl⟩ := List.length_eq_one_iff.mp right
      exact .allReadonly inner
  | pickKeys =>
      obtain ⟨inner, keys, rfl⟩ := List.length_eq_two.mp right
      exact .pickKeys inner keys
  | omitKeys =>
      obtain ⟨inner, keys, rfl⟩ := List.length_eq_two.mp right
      exact .omitKeys inner keys

theorem application (name : String) (arguments : List TypeNode) : Application name arguments := by
  cases found : Utility.ofName? name with
  | none => exact .unknown name arguments found
  | some utility =>
      obtain rfl := Utility.name_of_ofName? found
      by_cases right : arguments.length = utility.arity
      · exact application_of_arity utility arguments right
      · exact .wrongArity utility arguments right

theorem compile_generic_array (element : TypeNode) :
    (TypeNode.generic "Array" [element]).compile = (TypeNode.array element).compile := rfl

theorem compile_generic_record (key value : TypeNode) :
    (TypeNode.generic "Record" [key, value]).compile = do
      key.checkRecordKey .generic
      return .recordOf (← value.compile) := rfl

theorem compile_generic_partial (inner : TypeNode) :
    (TypeNode.generic "Partial" [inner]).compile = do
      return (← inner.compile).chained (.bare "partial") := rfl

theorem compile_generic_required (inner : TypeNode) :
    (TypeNode.generic "Required" [inner]).compile = do
      return (← inner.compile).chained (.bare "required") := rfl

theorem compile_generic_readonly (inner : TypeNode) :
    (TypeNode.generic "Readonly" [inner]).compile = inner.compile := rfl

theorem compile_generic_pick (inner keys : TypeNode) :
    (TypeNode.generic "Pick" [inner, keys]).compile = do
      let mask ← keys.maskKeys .pickKeys false
      return (← inner.compile).chained ⟨"pick", [.mask mask]⟩ := rfl

theorem compile_generic_omit (inner keys : TypeNode) :
    (TypeNode.generic "Omit" [inner, keys]).compile = do
      let mask ← keys.maskKeys .omitKeys false
      return (← inner.compile).chained ⟨"omit", [.mask mask]⟩ := rfl

theorem compile_of_wrongArity {utility : Utility} {arguments : List TypeNode}
    (wrong : arguments.length ≠ utility.arity) :
    (TypeNode.generic utility.name arguments).compile =
      .error (.unsupported (.utilityArity utility arguments.length)) := by
  rw [compile.eq_def]
  simp only [Utility.ofName?_name]
  split <;> simp_all [Utility.arity]

theorem compile_of_unknown {name : String} {arguments : List TypeNode}
    (unknown : Utility.ofName? name = none) :
    (TypeNode.generic name arguments).compile =
      .error (.unsupported (.unknownGeneric name)) := by
  simp only [compile, unknown]

theorem compile_union_of_two (first second : TypeNode) (others : List TypeNode) :
    (TypeNode.union (first :: second :: others)).compile = do
      return .ofCall "union" [.schemas (← compileAll (first :: second :: others))] := rfl

theorem compile_index_alone (signature : IndexSignature) :
    (TypeNode.object ⟨[], some signature⟩).compile = do
      signature.key.checkRecordKey .indexSignature
      return .recordOf (← signature.value.compile) := by
  cases signature
  rfl

theorem compile_index_and_members (signature : IndexSignature) (member : Member)
    (others : List Member) :
    (TypeNode.object ⟨member :: others, some signature⟩).compile = do
      signature.key.checkRecordKey .indexSignature
      let schema ← signature.value.compile
      return (Schema.recordOf schema).and (.objectOf (← compileMembers (member :: others))) := by
  cases signature
  rfl

theorem compileMembers_cons (member : Member) (others : List Member) :
    compileMembers (member :: others) = do
      let schema ← member.type.compile
      let rest ← compileMembers others
      return member.entry schema :: rest := by
  cases member
  rfl

end TypeNode

end TypeSchema
