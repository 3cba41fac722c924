import Mathlib.Data.List.Basic
import TypeSchema.Proofs.TypeScript.Lowering
import TypeSchema.SchemaModule

/-!
Leaving declarations out. A module made under the option to skip leaves out the declarations without
a schema and keeps the others, both in order. Of a TypeScript source that holds as long as each
declaration can be lowered: the first that cannot be lowered takes the whole module with it. The main
statement is this condition.
-/

namespace TypeSchema

namespace Declaration

def binding? (options : BindingOptions) (declaration : Declaration) : Option Binding :=
  (declaration.bind options).toOption

/-- What is told of a declaration without a schema. -/
def skipped? (declaration : Declaration) : Option Skipped :=
  match declaration.node.compile with
  | .ok _ => none
  | .error error => some ⟨declaration.name, error⟩

theorem bind_ok {declaration : Declaration} {schema : Schema} (options : BindingOptions)
    (compiled : declaration.node.compile = .ok schema) :
    declaration.bind options = .ok {
      sourceName := declaration.name
      identifier := options.target.getD (Name.schemaName declaration.name)
      library := Name.libraryName options.library
      schema } := by
  simp only [bind, compiled]
  rfl

theorem bind_error {declaration : Declaration} {error : GenerateError} (options : BindingOptions)
    (failed : declaration.node.compile = .error error) :
    declaration.bind options = .error error := by
  simp only [bind, failed]
  rfl

theorem compile_of_bind_error {declaration : Declaration} {error : GenerateError}
    {options : BindingOptions} (failed : declaration.bind options = .error error) :
    declaration.node.compile = .error error := by
  cases compiled : declaration.node.compile with
  | ok schema => exact nomatch (bind_ok options compiled).symm.trans failed
  | error other =>
      rw [bind_error options compiled] at failed
      cases failed
      rfl

theorem binding_eq_some_iff {declaration : Declaration} {options : BindingOptions}
    {binding : Binding} :
    declaration.binding? options = some binding ↔ declaration.bind options = .ok binding := by
  unfold binding?
  cases declaration.bind options with
  | ok bound => exact Option.some.injEq bound binding ▸ Except.ok.injEq bound binding ▸ Iff.rfl
  | error error => exact iff_of_false nofun nofun

end Declaration

namespace SchemaModule

variable {options : ModuleOptions}

/-- With the option to skip, every declaration is bound or left out, and none ends the module. -/
theorem bindAll_skipping (skip : options.skipUnsupported = true)
    (declarations : List Declaration) :
    bindAll options declarations =
      .ok (declarations.filterMap (·.binding? options.binding),
        declarations.filterMap (·.skipped?)) := by
  induction declarations with
  | nil => rfl
  | cons declaration declarations induction =>
      cases compiled : declaration.node.compile with
      | ok schema =>
          have bound := Declaration.bind_ok options.binding compiled
          simp only [bindAll, List.filterMap_cons, Declaration.binding?, Declaration.skipped?, bound,
            compiled, induction]
          rfl
      | error error =>
          have failed := Declaration.bind_error options.binding compiled
          simp only [bindAll, List.filterMap_cons, Declaration.binding?, Declaration.skipped?, failed,
            compiled, induction, skip]
          rfl

end SchemaModule

namespace TypeScript.DeclarationTree

open Result

def name : DeclarationTree → String
  | .typeAlias name _ => name
  | .interface name _ _ => name

/-- The name of the schema of a declared type, or why it has none. -/
def schemaName (tree : DeclarationTree) : Except GenerateError String := do
  let declaration ← tree.lower
  let _ ← declaration.node.compile
  return Name.schemaName declaration.name

/-- What is to be told of a declared type without a schema. -/
def skipped? (tree : DeclarationTree) : Option Skipped :=
  match tree.schemaName with
  | .ok _ => none
  | .error error => some ⟨tree.name, error⟩

theorem name_of_lower {tree : DeclarationTree} {declaration : Declaration}
    (lowered : tree.lower = .ok declaration) : declaration.name = tree.name := by
  cases tree with
  | typeAlias name type =>
      obtain ⟨node, -, result⟩ := bind_eq_ok_iff.mp lowered
      cases result
      rfl
  | interface name bases body =>
      obtain ⟨object, -, lowered⟩ := bind_eq_ok_iff.mp lowered
      obtain ⟨parts, -, result⟩ := bind_eq_ok_iff.mp lowered
      cases result
      rfl

theorem schemaName_of_lower {tree : DeclarationTree} {declaration : Declaration}
    (lowered : tree.lower = .ok declaration) :
    tree.schemaName = declaration.node.compile.map fun _ => Name.schemaName declaration.name := by
  unfold schemaName
  rw [lowered]
  change (declaration.node.compile >>= fun _ => _) = _
  cases declaration.node.compile <;> rfl

-- Both lists follow the trees, since a lowered declaration keeps the name of its tree.
theorem filterMap_schemaName (options : ModuleOptions) {trees : List DeclarationTree}
    {declarations : List Declaration} (lowered : lowerAll trees = .ok declarations) :
    (declarations.filterMap (·.binding? options.binding)).map (·.identifier) =
      trees.filterMap (·.schemaName.toOption) := by
  induction trees generalizing declarations with
  | nil =>
      cases lowered
      rfl
  | cons tree trees induction =>
      obtain ⟨declaration, others, first, rest, rfl⟩ := cons_eq_ok_iff.mp lowered
      have same : (declaration.binding? options.binding).map (·.identifier) =
          tree.schemaName.toOption := by
        rw [schemaName_of_lower first, Declaration.binding?]
        cases compiled : declaration.node.compile with
        | ok schema =>
            rw [Declaration.bind_ok options.binding compiled]
            rfl
        | error error =>
            rw [Declaration.bind_error options.binding compiled]
            rfl
      rw [List.filterMap_cons, List.filterMap_cons, ← same, ← induction rest]
      cases declaration.binding? options.binding <;> rfl

theorem filterMap_skipped {trees : List DeclarationTree}
    {declarations : List Declaration} (lowered : lowerAll trees = .ok declarations) :
    declarations.filterMap (·.skipped?) = trees.filterMap (·.skipped?) := by
  induction trees generalizing declarations with
  | nil =>
      cases lowered
      rfl
  | cons tree trees induction =>
      obtain ⟨declaration, others, first, rest, rfl⟩ := cons_eq_ok_iff.mp lowered
      have same : declaration.skipped? = tree.skipped? := by
        have named := schemaName_of_lower first
        simp only [Declaration.skipped?, skipped?, named, name_of_lower first]
        cases declaration.node.compile <;> rfl
      simp only [List.filterMap_cons, same, induction rest]

end TypeScript.DeclarationTree

namespace SchemaModule

open Result TypeScript

variable {source : String} {options : ModuleOptions} {trees : List DeclarationTree}

def ofTypeScript (source : String) (options : ModuleOptions) :
    Except GenerateError GeneratedModule := do
  generate (← Declaration.readTypeScript source) options

/-- Each declared type is told of once in a module: by the name of its schema, or by its own name
and why it has none, both in the order of the source. -/
structure Accounts (trees : List DeclarationTree) (generated : GeneratedModule) : Prop where
  identifiers : generated.identifiers = trees.filterMap (·.schemaName.toOption)
  skipped : generated.skipped = trees.filterMap (·.skipped?)

theorem generate_skipping (skip : options.skipUnsupported = true) {declarations : List Declaration}
    (nonempty : declarations ≠ []) :
    generate declarations options = .ok {
      code := render (declarations.filterMap (·.binding? options.binding)) options
      identifiers := (declarations.filterMap (·.binding? options.binding)).map (·.identifier)
      skipped := declarations.filterMap (·.skipped?) } := by
  unfold generate
  rw [if_neg (by simpa using nonempty), bindAll_skipping skip]
  rfl

theorem ofTypeScript_of_lowered (skip : options.skipUnsupported = true)
    (read : declarationTrees? source = some trees) (nonempty : trees ≠ [])
    {declarations : List Declaration}
    (lowered : DeclarationTree.lowerAll trees = .ok declarations) :
    ∃ generated, ofTypeScript source options = .ok generated ∧ Accounts trees generated := by
  have filled : declarations ≠ [] := by
    cases trees with
    | nil => exact absurd rfl nonempty
    | cons tree trees =>
        obtain ⟨declaration, others, -, -, rfl⟩ := cons_eq_ok_iff.mp lowered
        exact List.cons_ne_nil declaration others
  have made : ofTypeScript source options = generate declarations options := by
    simp only [ofTypeScript, Declaration.readTypeScript, read, lowered]
    rfl
  rw [made, generate_skipping skip filled]
  exact ⟨_, rfl, DeclarationTree.filterMap_schemaName options lowered,
    DeclarationTree.filterMap_skipped lowered⟩

theorem ofTypeScript_of_refused (read : declarationTrees? source = some trees)
    {error : GenerateError} (refused : DeclarationTree.lowerAll trees = .error error) :
    ofTypeScript source options = .error error := by
  simp only [ofTypeScript, Declaration.readTypeScript, read, refused]
  rfl

/-- With the option to skip, a source of one declaration or more has a module that tells of each
declaration, exactly when every declaration can be lowered; and if not, it has no module at all but
the error of the first that cannot. -/
theorem ofTypeScript_accounts_iff (skip : options.skipUnsupported = true)
    (read : declarationTrees? source = some trees) (nonempty : trees ≠ []) :
    ((∃ generated, ofTypeScript source options = .ok generated ∧ Accounts trees generated) ↔
      ∀ tree ∈ trees, tree.lowers = true) ∧
    ∀ error, ofTypeScript source options = .error error ↔
      ∃ before tree after, trees = before ++ tree :: after ∧
        (∀ earlier ∈ before, earlier.lowers = true) ∧ tree.lower = .error error := by
  rw [← DeclarationTree.lowerAll_ok_iff]
  simp only [← DeclarationTree.lowerAll_error_iff]
  cases lowered : DeclarationTree.lowerAll trees with
  | ok declarations =>
      obtain ⟨generated, result, accounts⟩ := ofTypeScript_of_lowered skip read nonempty lowered
      refine ⟨iff_of_true ⟨generated, result, accounts⟩ ⟨declarations, rfl⟩, fun error => ?_⟩
      rw [result]
      exact iff_of_false nofun nofun
  | error refusal =>
      have result : ofTypeScript source options = .error refusal :=
        ofTypeScript_of_refused read lowered
      rw [result]
      refine ⟨iff_of_false ?_ nofun, fun error => ?_⟩
      · rintro ⟨generated, made, -⟩
        cases made
      · simp only [Except.error.injEq]

/-- One schema and one declaration left out. -/
theorem ofTypeScript_accounts_map :
    ∃ trees, declarationTrees? "type A = string;\ntype B = Map<string, A>;" = some trees ∧
      ∃ generated, ofTypeScript "type A = string;\ntype B = Map<string, A>;" {} = .ok generated ∧
        Accounts trees generated := by
  have readable : (declarationTrees? "type A = string;\ntype B = Map<string, A>;").any
      (fun trees => !trees.isEmpty && trees.all (·.lowers)) = true := by decide +kernel
  obtain ⟨trees, read, holds⟩ := (Option.any_eq_true _ _).mp readable
  obtain ⟨filled, lowers⟩ := Bool.and_eq_true_iff.mp holds
  have nonempty : trees ≠ [] := by simpa using filled
  have skip : ({} : ModuleOptions).skipUnsupported = true := rfl
  exact ⟨trees, read,
    (ofTypeScript_accounts_iff skip read nonempty).1.mpr (List.all_eq_true.mp lowers)⟩

/-- A keyword without a schema takes the declaration after it along. -/
theorem ofTypeScript_symbol_refused :
    ∃ trees, declarationTrees? "type A = symbol;\ntype B = string;" = some trees ∧
      trees.length = 2 ∧
      ¬ ∃ generated, ofTypeScript "type A = symbol;\ntype B = string;" {} = .ok generated := by
  have readable : (declarationTrees? "type A = symbol;\ntype B = string;").any
      (fun trees => trees.length == 2) = true := by decide +kernel
  have refused : (ofTypeScript "type A = symbol;\ntype B = string;" {}).isOk = false := by
    decide +kernel
  obtain ⟨trees, read, length⟩ := (Option.any_eq_true _ _).mp readable
  refine ⟨trees, read, eq_of_beq length, fun made => ?_⟩
  rw [isOk_iff.mpr made] at refused
  cases refused

end SchemaModule

end TypeSchema
