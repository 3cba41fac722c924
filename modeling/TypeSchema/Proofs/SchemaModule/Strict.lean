import TypeSchema.Proofs.SchemaModule.Skipping

/-!
The option to skip. A module made under it and one made without it come from the same sorting of the
declarations: they are the same module if every declaration has a schema, and if not, the module
without the option fails for the reason given for the first declaration that the other leaves out.
-/

namespace TypeSchema.SchemaModule

/-- Declarations sorted in their order, each either into those that are bound or into those that are
left out, with the reason. -/
inductive Sorts (options : BindingOptions) : List Declaration → List Binding → List Skipped → Prop
  | nil : Sorts options [] [] []
  | bound {declaration : Declaration} {binding : Binding} {declarations : List Declaration}
      {bindings : List Binding} {skipped : List Skipped}
      (isBound : declaration.bind options = .ok binding)
      (others : Sorts options declarations bindings skipped) :
      Sorts options (declaration :: declarations) (binding :: bindings) skipped
  | leftOut {declaration : Declaration} {error : GenerateError} {declarations : List Declaration}
      {bindings : List Binding} {skipped : List Skipped}
      (failed : declaration.bind options = .error error)
      (others : Sorts options declarations bindings skipped) :
      Sorts options (declaration :: declarations) bindings (⟨declaration.name, error⟩ :: skipped)

variable {declarations : List Declaration} {bindings : List Binding} {skipped : List Skipped}

theorem sorts_filterMap (options : BindingOptions) (declarations : List Declaration) :
    Sorts options declarations (declarations.filterMap (·.binding? options))
      (declarations.filterMap (·.skipped?)) := by
  induction declarations with
  | nil => exact .nil
  | cons declaration declarations induction =>
      cases compiled : declaration.node.compile with
      | ok schema =>
          have bound := Declaration.bind_ok options compiled
          simp only [List.filterMap_cons, Declaration.binding?, Declaration.skipped?, bound,
            compiled]
          exact .bound bound induction
      | error error =>
          have failed := Declaration.bind_error options compiled
          simp only [List.filterMap_cons, Declaration.binding?, Declaration.skipped?, failed,
            compiled]
          exact .leftOut failed induction

/-- What becomes of a sorting where nothing may be left out: the first reason counts, whatever comes
after it. -/
def strictly (bindings : List Binding) :
    List Skipped → Except GenerateError (List Binding × List Skipped)
  | [] => .ok (bindings, [])
  | first :: _ => .error first.error

theorem Sorts.bindAll_strict (options : ModuleOptions)
    (sorts : Sorts options.binding declarations bindings skipped)
    (strict : options.skipUnsupported = false) :
    bindAll options declarations = strictly bindings skipped := by
  induction sorts with
  | nil => rfl
  | @bound _ _ _ _ skipped isBound others induction =>
      rw [bindAll, isBound, induction]
      cases skipped <;> rfl
  | leftOut failed others induction =>
      rw [bindAll, failed, strict]
      rfl

/-- With the option to skip there is a module of every list of declarations, sorted; without it the
same module, if the sorting leaves nothing out, and the first reason otherwise. -/
theorem generate_strict (options : ModuleOptions) (nonempty : declarations ≠ []) :
    ∃ generated bindings,
      generate declarations { options with skipUnsupported := true } = .ok generated ∧
      Sorts options.binding declarations bindings generated.skipped ∧
      generated.identifiers = bindings.map (·.identifier) ∧
      generated.code = render bindings options ∧
      generate declarations { options with skipUnsupported := false } =
        match generated.skipped with
        | [] => .ok generated
        | first :: _ => .error first.error := by
  have sorts := sorts_filterMap options.binding declarations
  have strict : bindAll { options with skipUnsupported := false } declarations = _ :=
    Sorts.bindAll_strict _ sorts rfl
  refine ⟨_, _, generate_skipping rfl nonempty, sorts, rfl, rfl, ?_⟩
  rw [generate, if_neg (by simpa using nonempty), strict]
  cases declarations.filterMap (·.skipped?) <;> rfl

/-- Two declarations without a schema beside one that has one. -/
theorem generate_strict_two_failures :
    let declarations : List Declaration :=
      [⟨"Power", .primitive .string⟩, ⟨"Powers", .generic "Map" []⟩, ⟨"Villain", .union []⟩]
    declarations ≠ [] ∧ ∃ generated,
      generate declarations { skipUnsupported := true } = .ok generated ∧
      generated.identifiers = ["powerSchema"] ∧
      generated.skipped.map (·.name) = ["Powers", "Villain"] ∧
      ∃ first ∈ generated.skipped.head?,
        generate declarations { skipUnsupported := false } = .error first.error := by
  intro declarations
  have nonempty : declarations ≠ [] := List.cons_ne_nil _ _
  obtain ⟨generated, bindings, made, -, -, -, strict⟩ := generate_strict {} nonempty
  have identifiers : (generate declarations { skipUnsupported := true }).toOption.map
      (·.identifiers) = some ["powerSchema"] := by rfl
  have skipped : (generate declarations { skipUnsupported := true }).toOption.map
      (·.skipped.map (·.name)) = some ["Powers", "Villain"] := by rfl
  rw [made] at identifiers skipped
  refine ⟨nonempty, generated, made, Option.some.inj identifiers, Option.some.inj skipped, ?_⟩
  cases reasons : generated.skipped with
  | nil =>
      simp [Except.toOption, reasons] at skipped
  | cons first others =>
      rw [reasons] at strict
      exact ⟨first, rfl, strict⟩

end TypeSchema.SchemaModule
