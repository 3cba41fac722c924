import TypeSchema.SchemaModule

/-!
What a module starts with: a banner and the line that imports the schema library.
-/

namespace TypeSchema

/-- The name to which an import of the schema library binds it. -/
inductive ImportsLibrary : List Char → String → Prop
  | own : ImportsLibrary "import \x7b z \x7d from \"zod\";".toList "z"
  | renamed (name : String) :
      ImportsLibrary ("import \x7b z as ".toList ++ name.toList ++ " \x7d from \"zod\";".toList) name

theorem ImportsLibrary.unique {line : List Char} {name other : String}
    (imports : ImportsLibrary line name) (again : ImportsLibrary line other) : name = other := by
  generalize same : line = text at again
  cases imports with
  | own =>
      cases again with
      | own => rfl
      | renamed => simp at same
  | renamed =>
      cases again with
      | own => simp at same
      | renamed =>
          have names := List.append_cancel_left (List.append_cancel_right same)
          exact String.toList_inj.mp names

namespace ModuleOptions

theorem importLine_imports (options : ModuleOptions) :
    ∃ line, options.importLine = line ++ ['\n'] ∧
      ImportsLibrary line (Name.libraryName options.library) := by
  unfold importLine
  cases options.library with
  | none => exact ⟨_, rfl, .own⟩
  | some library =>
      dsimp only
      split
      next usual =>
        subst usual
        exact ⟨_, rfl, .own⟩
      next =>
        refine ⟨_, ?_, .renamed library⟩
        simp only [List.append_assoc]
        rfl

/-- What a module starts with, by the line that imports the schema library. -/
def headed (options : ModuleOptions) (line : List Char) : List Char :=
  if options.importHeader then "// Generated by normalize-zodgen\n".toList ++ line ++ ['\n'] else []

theorem header_eq {options : ModuleOptions} {line : List Char}
    (written : options.importLine = line ++ ['\n']) :
    options.header = options.headed line := by
  rw [header, written, headed]
  simp only [List.append_assoc]

theorem header_isEmpty (options : ModuleOptions) :
    options.header.isEmpty = !options.importHeader := by
  unfold header
  cases options.importHeader <;> rfl

end ModuleOptions

end TypeSchema
