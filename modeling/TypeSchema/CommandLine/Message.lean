import TypeSchema.CommandLine.Directory
import TypeSchema.CommandLine.Request
import TypeSchema.GenerateError

/-!
What the command line says: help, version and errors.
-/

namespace TypeSchema.CommandLine

def programName : String :=
  "normalize-zodgen"

def versionText : String :=
  programName ++ " 0.2.0\n"

def usageLine : String :=
  "Usage: " ++ programName ++ " [OPTIONS] <INPUT>"

def aboutLine : String :=
  "Generate Zod validators from TypeScript type declarations"

def textOfLines (lines : List String) : String :=
  String.join (lines.map (· ++ "\n"))

def shortHelp : String :=
  textOfLines
    [aboutLine, "", usageLine, "", "Arguments:",
      "  <INPUT>  Input file (\x60-\x60 for stdin)", "", "Options:",
      "  -o, --output <OUTPUT>  Output file (stdout if omitted)",
      "      --alias <ALIAS>    Binding name of the schema library",
      "      --config <CONFIG>  Config file (defaults to zodgen.toml in the current directory)",
      "      --format <FORMAT>  Input format [default: typescript] [possible values: typescript, json]",
      "      --strict           Fail on the first unsupported declaration instead of skipping it",
      "      --no-export        Emit bindings without \x60export\x60",
      "  -h, --help             Print help (see more with '--help')",
      "  -V, --version          Print version"]

def fullHelp : String :=
  textOfLines
    [aboutLine, "", usageLine, "", "Arguments:", "  <INPUT>",
      "          Input file (\x60-\x60 for stdin)", "", "Options:", "  -o, --output <OUTPUT>",
      "          Output file (stdout if omitted)", "", "      --alias <ALIAS>",
      "          Binding name of the schema library", "", "      --config <CONFIG>",
      "          Config file (defaults to zodgen.toml in the current directory)", "",
      "      --format <FORMAT>", "          Input format", "          ",
      "          [default: typescript]", "", "          Possible values:",
      "          - typescript: TypeScript declarations",
      "          - json:       Declarations in the JSON IR", "", "      --strict",
      "          Fail on the first unsupported declaration instead of skipping it", "",
      "      --no-export", "          Emit bindings without \x60export\x60", "", "  -h, --help",
      "          Print help (see a summary with '-h')", "", "  -V, --version",
      "          Print version"]

def UsageFault.describe : UsageFault → String
  | unexpectedArgument argument => "unexpected argument '" ++ argument ++ "' found"
  | repeated usage => "the argument '" ++ usage ++ "' cannot be used multiple times"
  | missingValue usage => "a value is required for '" ++ usage ++ "' but none was supplied"
  | unexpectedValue usage value =>
    "unexpected value '" ++ value ++ "' for '" ++ usage ++ "' found; no more were expected"
  | unknownFormat name =>
    "invalid value '" ++ name ++ "' for '--format <FORMAT>'\n  [possible values: typescript, json]"
  | missingInput => "the following required arguments were not provided:\n  <INPUT>"

def UsageFault.message (fault : UsageFault) : String :=
  "error: " ++ fault.describe ++ "\n\n" ++ usageLine ++
    "\n\nFor more information, try '--help'.\n"

inductive Failure where
  | unreadableConfig (path : String) (error : FileError)
  | invalidConfig (path : String)
  | unreadableInput (path : String) (error : FileError)
  | generation (path : String) (error : GenerateError)
  | unwritableOutput (path : String) (error : FileError)
deriving DecidableEq

def Failure.describe : Failure → String
  | unreadableConfig path error =>
    "failed to read " ++ path ++ ": " ++ error.describe ++ ": " ++ error.describe
  | invalidConfig path => "invalid config " ++ path
  | unreadableInput path error => "failed to read " ++ path ++ ": " ++ error.describe
  | generation path error => "failed to generate schemas for " ++ path ++ ": " ++ error.message
  | unwritableOutput path error => "failed to write " ++ path ++ ": " ++ error.describe

def Failure.message (failure : Failure) : String :=
  "error: " ++ failure.describe ++ "\n"

end TypeSchema.CommandLine
