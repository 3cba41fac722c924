import TypeSchema.CommandLine.Message
import TypeSchema.Config
import TypeSchema.Declaration.Source
import TypeSchema.TypeScript.Source

/-!
Running a command. The configuration is read first, then the source; the module generated from it
goes to one place, and what is left out of it is told beside.
-/

namespace TypeSchema.CommandLine

structure Sources where
  /-- The text of the configuration file, if there is one. -/
  config : Except FileError (Option String)
  input : Except FileError String

namespace Command

def configPath (command : Command) : String :=
  command.config.getD configFileName

/-- Options of the configuration file with those of the command in their place. -/
def override (command : Command) (options : ModuleOptions) : ModuleOptions :=
  { options with
    library := command.library.or options.library
    skipUnsupported := options.skipUnsupported && !command.strict
    exported := options.exported && !command.noExport }

def options (command : Command) (sources : Sources) : Except Failure ModuleOptions :=
  match sources.config with
  | .error error => .error (.unreadableConfig command.configPath error)
  | .ok text? =>
    match ModuleOptions.readConfig? text? with
    | none => .error (.invalidConfig command.configPath)
    | some options => .ok (command.override options)

def readDeclarations (command : Command) (text : String) :
    Except GenerateError (List Declaration) :=
  match command.format with
  | .typescript => Declaration.readTypeScript text
  | .json => Declaration.readJson text

def generate (command : Command) (sources : Sources) : Except Failure GeneratedModule := do
  let options ← command.options sources
  match sources.input with
  | .error error => .error (.unreadableInput command.input error)
  | .ok text =>
    match command.readDeclarations text >>= (SchemaModule.generate · options) with
    | .error error => .error (.generation command.input error)
    | .ok generated => .ok generated

/-- Whether the source is the standard input: a path of the name `-` alone. -/
def readsStandardInput (command : Command) : Bool :=
  match pathNames command.input.toList with
  | "-" :: names => names.all fun name => name = "" || name = "."
  | _ => false

/-- What a command reads in a directory. A configuration file that no argument names need not be
there. -/
def sources (command : Command) (directory : Directory) (stdin : String) : Sources where
  config :=
    match command.config with
    | some path => (directory.read path).map some
    | none => .ok (directory.text? [configFileName])
  input := if command.readsStandardInput then .ok stdin else directory.read command.input

end Command

/-- The lines about declarations that are left out of a module. -/
def skippedLines (skipped : List Skipped) : String :=
  textOfLines (skipped.map fun declaration =>
    "skipped " ++ declaration.name ++ ": " ++ declaration.error.message)

structure Outcome where
  code : Nat
  stdout : String
  stderr : String
  directory : Directory

def runCommand (command : Command) (directory : Directory) (stdin : String) : Outcome :=
  match command.generate (command.sources directory stdin) with
  | .error failure => ⟨1, "", failure.message, directory⟩
  | .ok generated =>
    let skipped := skippedLines generated.skipped
    match command.output with
    | none => ⟨0, generated.code, skipped, directory⟩
    | some path =>
      match directory.write path generated.code with
      | .ok written => ⟨0, "", skipped, written⟩
      | .error error => ⟨1, "", skipped ++ (Failure.unwritableOutput path error).message, directory⟩

def run (arguments : List String) (directory : Directory) (stdin : String) : Outcome :=
  match Request.ofArguments arguments with
  | .error fault => ⟨2, "", fault.message, directory⟩
  | .ok (.help full) => ⟨0, if full then fullHelp else shortHelp, "", directory⟩
  | .ok .version => ⟨0, versionText, "", directory⟩
  | .ok (.generate command) => runCommand command directory stdin

end TypeSchema.CommandLine
