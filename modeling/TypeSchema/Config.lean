import TypeSchema.SchemaModule
import TypeSchema.Toml.Reader

/-!
The configuration file: a TOML document whose table `generate` says how modules are generated.
What the file does not say is as usual, and what it says beyond that is not looked at.
-/

namespace TypeSchema

def configFileName : String :=
  "zodgen.toml"

namespace ModuleOptions

/-- Options with the value of a key taken over, if it has the right type. -/
def set? (options : ModuleOptions) (key : String) (value : Toml.Value) : Option ModuleOptions :=
  match key, value with
  | "schema_library_alias", .string text => some { options with library := some text }
  | "export", .boolean value => some { options with exported := value }
  | "import_header", .boolean value => some { options with importHeader := value }
  | "skip_unsupported", .boolean value => some { options with skipUnsupported := value }
  | key, _ => if key ∈ keys then none else some options
where
  keys : List String :=
    ["schema_library_alias", "export", "import_header", "skip_unsupported"]

/-- Options with the values of entries taken over. -/
def setAll? (options : ModuleOptions) : Toml.Entries → Option ModuleOptions
  | [] => some options
  | (key, value) :: others => do (← options.set? key value).setAll? others

/-- The options that a value stands for: a table, or an array of the values of the keys in order. A
date counts as a table without any of the keys. -/
def ofToml? : Toml.Value → Option ModuleOptions
  | .table _ entries => ({} : ModuleOptions).setAll? entries
  | .array items => ({} : ModuleOptions).setAll? (set?.keys.zip items)
  | .date => some {}
  | _ => none

/-- Reads the options from the text of a configuration file; without one they are as usual. -/
def readConfig? : Option String → Option ModuleOptions
  | none => some {}
  | some text => do
    let entries ← Toml.read? text.toList
    match entries.lookup "generate" with
    | some value => ofToml? value
    | none => return {}

end ModuleOptions

end TypeSchema
