import TypeSchema.Proofs.Schema.Constructors
import TypeSchema.Proofs.SchemaModule.Header
import TypeSchema.Proofs.SchemaModule.Identifiers

/-!
The name of the schema library in a module. The module imports the library under the name that it is given
and calls its constructors by that name; nothing else of the module depends on the name.
-/

namespace TypeSchema

namespace Binding

/-- A binding under another name of the library. -/
def under (library : String) (binding : Binding) : Binding :=
  { binding with library }

theorem write_libraryText (exported : Bool) (binding : Binding) :
    LibraryText binding.schema.constructors fun library =>
      (binding.under (String.ofList library)).write exported := by
  have whole := ((binding.schema.libraryText 0).opened ((if exported then "export ".toList else []) ++
    "const ".toList ++ binding.identifier.toList ++ " = ".toList)).closed [';']
  simpa only [write, under, String.toList_ofList] using whole

end Binding

namespace SchemaModule

variable {declarations : List Declaration}

theorem writeBindings_libraryText (exported first : Bool) (bindings : List Binding) :
    LibraryText (bindings.flatMap (·.schema.constructors)) fun library =>
      writeBindings exported first (bindings.map (·.under (String.ofList library))) := by
  induction bindings generalizing first with
  | nil => exact .fixed []
  | cons binding others induction =>
      exact ((binding.write_libraryText exported).opened (if first then [] else ['\n'])).append
        ((induction false).opened ['\n'])

theorem bind_under (declaration : Declaration) (options : ModuleOptions) (library : Option String) :
    declaration.bind { options with library }.binding =
      (declaration.bind options.binding).map (·.under (Name.libraryName library)) := by
  cases compiled : declaration.node.compile with
  | ok schema => rw [Declaration.bind_ok _ compiled, Declaration.bind_ok _ compiled]; rfl
  | error error => rw [Declaration.bind_error _ compiled, Declaration.bind_error _ compiled]; rfl

theorem bindAll_under (options : ModuleOptions) (library : Option String)
    (declarations : List Declaration) :
    bindAll { options with library } declarations =
      (bindAll options declarations).map fun (bindings, skipped) =>
        (bindings.map (·.under (Name.libraryName library)), skipped) := by
  induction declarations with
  | nil => rfl
  | cons declaration others induction =>
      rw [bindAll, bindAll, bind_under, induction]
      cases declaration.bind options.binding with
      | ok binding => cases bindAll options others <;> rfl
      | error error =>
          cases options.skipUnsupported with
          | true => cases bindAll options others <;> rfl
          | false => rfl

/-- The constructors that the schemas of declarations call, in the order in which they are written. -/
def constructors (declarations : List Declaration) : List String :=
  (declarations.filterMap (·.node.compile.toOption)).flatMap Schema.constructors

section

variable {options : BindingOptions} {bindings : List Binding} {skipped : List Skipped}

theorem Sorts.bindings_eq (sorts : Sorts options declarations bindings skipped) :
    bindings = declarations.filterMap (·.binding? options) := by
  induction sorts with
  | nil => rfl
  | bound isBound _ induction =>
      rw [List.filterMap_cons, Declaration.binding_eq_some_iff.mpr isBound, ← induction]
  | leftOut failed _ induction =>
      rw [List.filterMap_cons, Declaration.binding?, failed, induction]
      rfl

theorem Sorts.schemas_eq (sorts : Sorts options declarations bindings skipped) :
    bindings.map (·.schema) = declarations.filterMap (·.node.compile.toOption) := by
  induction sorts with
  | nil => rfl
  | bound isBound _ induction =>
      obtain ⟨schema, compiled, result⟩ := Result.bind_eq_ok_iff.mp isBound
      cases result
      rw [List.map_cons, induction, List.filterMap_cons, compiled]
      rfl
  | leftOut failed _ induction =>
      rw [induction, List.filterMap_cons, Declaration.compile_of_bind_error failed]
      rfl

end

theorem write_under (options : ModuleOptions) (bindings : List Binding) :
    ∃ first later, List.Forall₂ Calls (bindings.flatMap (·.schema.constructors)) later ∧
      ∀ library : Option String, ∃ line, ImportsLibrary line (Name.libraryName library) ∧
        write (bindings.map (·.under (Name.libraryName library))) { options with library } =
          options.headed line ++
            (first ++ later.flatMap ((Name.libraryName library).toList ++ ·)) := by
  obtain ⟨first, later, calls, text⟩ :=
    (writeBindings_libraryText options.exported (!options.importHeader) bindings).segmented
  refine ⟨first, later, calls, fun library => ?_⟩
  obtain ⟨line, written, imports⟩ := ({ options with library } : ModuleOptions).importLine_imports
  refine ⟨line, imports, ?_⟩
  have body := text (Name.libraryName library).toList
  simp only [String.ofList_toList] at body
  rw [write, ModuleOptions.header_isEmpty, ModuleOptions.header_eq written, body]
  rfl

/-- Under every name of the library the same declarations are bound and the same ones left out. There are
texts, the same for every name, that make up the module when the name is put between them: after the
header, which imports the library under that name and no other, the name stands before each constructor
that is called and nowhere else. -/
theorem generate_library (declarations : List Declaration) (options : ModuleOptions) :
    ∃ first later, List.Forall₂ Calls (constructors declarations) later ∧
      ∀ library : Option String,
        ∃ line, (∀ name, ImportsLibrary line name ↔ name = Name.libraryName library) ∧
          generate declarations { options with library } =
            (generate declarations options).map fun generated =>
              { generated with
                code := String.ofList (options.headed line ++
                  (first ++ later.flatMap ((Name.libraryName library).toList ++ ·))) } := by
  -- which declarations are bound does not depend on the name
  let bound := declarations.filterMap (·.binding? options.binding)
  have schemas : bound.flatMap (·.schema.constructors) = constructors declarations := by
    rw [constructors, ← (sorts_filterMap options.binding declarations).schemas_eq, List.flatMap_map]
  obtain ⟨first, later, calls, text⟩ := write_under options bound
  rw [schemas] at calls
  refine ⟨first, later, calls, fun library => ?_⟩
  obtain ⟨line, imports, code⟩ := text library
  refine ⟨line, fun name => ⟨fun again => again.unique imports, fun same => same ▸ imports⟩, ?_⟩
  unfold generate
  split
  next => rfl
  next =>
    rw [bindAll_under]
    cases made : bindAll options declarations with
    | error error => rfl
    | ok sorted =>
        obtain ⟨bindings, skipped⟩ := sorted
        obtain rfl : bindings = bound := (sorts_of_bindAll made).bindings_eq
        have identifiers : (bound.map (·.under (Name.libraryName library))).map (·.identifier) =
            bound.map (·.identifier) := List.map_map
        refine congrArg Except.ok ?_
        rw [render, code, identifiers]

end SchemaModule

end TypeSchema
