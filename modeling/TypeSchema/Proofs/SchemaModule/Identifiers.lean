import TypeSchema.Proofs.Name.CamelCase
import TypeSchema.Proofs.SchemaModule.Strict

/-!
Names of bindings. The binding of a declaration is named after the declaration in camel case, and so is
every reference to it. Camel case is no one-to-one renaming: declarations of different names share a
binding's name when their names agree in camel case. The main statement is that this is the only way,
and says which names in ASCII agree.
-/

namespace TypeSchema

namespace Name

theorem schemaName_eq_iff {first second : String} :
    schemaName first = schemaName second ↔ camelCase first = camelCase second := by
  rw [schemaName, schemaName, String.append_left_inj]

end Name

namespace SchemaModule

open Name

variable {options : BindingOptions} {declarations : List Declaration} {bindings : List Binding}
  {skipped : List Skipped}

/-- The declarations that have a schema. -/
def compiling (declarations : List Declaration) : List Declaration :=
  declarations.filter (·.node.compile.isOk)

theorem compiling_cons_ok {declaration : Declaration} {schema : Schema}
    (compiled : declaration.node.compile = .ok schema) (others : List Declaration) :
    compiling (declaration :: others) = declaration :: compiling others :=
  List.filter_cons_of_pos (by rw [compiled]; rfl)

theorem compiling_cons_error {declaration : Declaration} {error : GenerateError}
    (failed : declaration.node.compile = .error error) (others : List Declaration) :
    compiling (declaration :: others) = compiling others :=
  List.filter_cons_of_neg (by rw [failed]; exact Bool.false_ne_true)

theorem Sorts.identifiers (sorts : Sorts options declarations bindings skipped)
    (usual : options.target = none) :
    bindings.map (·.identifier) = (compiling declarations).map (schemaName ·.name) := by
  induction sorts with
  | nil => rfl
  | @bound declaration binding _ _ _ isBound others induction =>
      obtain ⟨schema, compiled, result⟩ := Result.bind_eq_ok_iff.mp isBound
      cases result
      rw [compiling_cons_ok compiled, List.map_cons, List.map_cons, induction, usual]
      rfl
  | leftOut failed others induction =>
      rw [compiling_cons_error (Declaration.compile_of_bind_error failed), induction]

/-- What declarations are sorted into, if the module does not fail, does not depend on whether any may
be left out. -/
theorem sorts_of_bindAll {options : ModuleOptions}
    (made : bindAll options declarations = .ok (bindings, skipped)) :
    Sorts options.binding declarations bindings skipped := by
  have sorts := sorts_filterMap options.binding declarations
  cases skip : options.skipUnsupported with
  | true =>
      rw [bindAll_skipping skip] at made
      cases made
      exact sorts
  | false =>
      rw [sorts.bindAll_strict options skip] at made
      cases leftOut : declarations.filterMap (·.skipped?) with
      | nil =>
          rw [leftOut] at made sorts
          cases made
          exact sorts
      | cons first others =>
          rw [leftOut] at made
          cases made

theorem sorts_of_generate {options : ModuleOptions} {generated : GeneratedModule}
    (made : generate declarations options = .ok generated) :
    ∃ bindings, Sorts options.binding declarations bindings generated.skipped ∧
      generated.identifiers = bindings.map (·.identifier) ∧
      generated.code = render bindings options := by
  unfold generate at made
  split at made
  case isTrue => cases made
  case isFalse =>
    obtain ⟨⟨bindings, skipped⟩, all, result⟩ := Result.bind_eq_ok_iff.mp made
    cases result
    exact ⟨bindings, sorts_of_bindAll all, rfl, rfl⟩

/-- A reference to one declaration is the name of another's binding if the names of both agree in camel
case, and only then. -/
theorem compile_reference_eq_iff {first second : Declaration} {binding : Binding}
    (usual : options.target = none) (isBound : second.bind options = .ok binding) :
    (TypeNode.reference first.name).compile = .ok (.reference binding.identifier) ↔
      camelCase first.name = camelCase second.name := by
  obtain ⟨schema, -, result⟩ := Result.bind_eq_ok_iff.mp isBound
  cases result
  rw [usual, ← schemaName_eq_iff]
  constructor
  · intro same
    injection same with same
    injection same with same
    injection same
  · intro same
    exact congrArg (fun identifier => Except.ok (Schema.reference identifier)) same

/-- The bindings of a module have different names exactly when the declarations with a schema have
names that differ in camel case, and a reference to one declaration leads to the schema of another
exactly when the two names agree in camel case. Names in ASCII agree exactly when they have the same
humps, which takes the same letters and digits in the same order, whatever their case. -/
theorem identifiers_nodup_iff {options : ModuleOptions} {generated : GeneratedModule}
    (made : generate declarations options = .ok generated) :
    (∃ bindings, Sorts options.binding declarations bindings generated.skipped ∧
      generated.code = render bindings options ∧
      generated.identifiers = bindings.map (·.identifier)) ∧
    (generated.identifiers.Nodup ↔
      ((compiling declarations).map (camelCase ·.name)).Nodup) ∧
    (∀ first ∈ declarations, ∀ second ∈ declarations, ∀ binding,
      second.bind options.binding = .ok binding →
      ((TypeNode.reference first.name).compile = .ok (.reference binding.identifier) ↔
        camelCase first.name = camelCase second.name)) ∧
    ∀ first ∈ declarations, ∀ second ∈ declarations,
      IsAscii first.name.toList → IsAscii second.name.toList →
      (camelCase first.name = camelCase second.name ↔
        humps (words first.name.toList) = humps (words second.name.toList)) ∧
      (camelCase first.name = camelCase second.name →
        (first.name.toList.filter Unicode.isAlphanumeric).map Char.toLower =
          (second.name.toList.filter Unicode.isAlphanumeric).map Char.toLower) := by
  obtain ⟨bindings, sorts, identifiers, code⟩ := sorts_of_generate made
  refine ⟨⟨bindings, sorts, code, identifiers⟩, ?_,
    fun first _ second _ binding isBound => compile_reference_eq_iff rfl isBound,
    fun first _ second _ ascii otherAscii =>
      ⟨camelCase_eq_iff ascii otherAscii, letters_eq_of_camelCase_eq ascii otherAscii⟩⟩
  rw [identifiers, sorts.identifiers rfl]
  unfold List.Nodup
  rw [List.pairwise_map, List.pairwise_map]
  exact List.Pairwise.iff fun first second => not_congr schemaName_eq_iff

/-- Three declarations, one of them without a schema. -/
theorem identifiers_nodup_three :
    ∃ generated,
      generate [⟨"UserID", .primitive .string⟩, ⟨"user_name", .reference "UserID"⟩,
        ⟨"user_id", .union []⟩] {} = .ok generated ∧
      generated.identifiers.Nodup := by
  have compiles : (generate [⟨"UserID", .primitive .string⟩, ⟨"user_name", .reference "UserID"⟩,
      ⟨"user_id", .union []⟩] {}).isOk = true := by rfl
  obtain ⟨generated, made⟩ := Result.isOk_iff.mp compiles
  exact ⟨generated, made, (identifiers_nodup_iff made).2.1.mpr (by decide +kernel)⟩

/-- Two names that agree in camel case. -/
theorem generate_user_id_twice :
    let declarations : List Declaration :=
      [⟨"UserId", .primitive .string⟩, ⟨"user_id", .primitive .number⟩]
    (declarations.map (·.name)).Nodup ∧
    ∃ generated, generate declarations {} = .ok generated ∧
      generated.identifiers = ["userIdSchema", "userIdSchema"] := by
  intro declarations
  have distinct : (declarations.map (·.name)).Nodup := by decide +kernel
  have identifiers : (generate declarations {}).toOption.map (·.identifiers) =
      some ["userIdSchema", "userIdSchema"] := by decide +kernel
  refine ⟨distinct, ?_⟩
  cases made : generate declarations {} with
  | ok generated =>
      rw [made] at identifiers
      exact ⟨generated, rfl, Option.some.inj identifiers⟩
  | error error =>
      rw [made] at identifiers
      cases identifiers

end SchemaModule

end TypeSchema
