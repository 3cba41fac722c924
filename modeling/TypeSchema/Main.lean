import TypeSchema.CommandLine.Run

/-!
The program: generates schemas from type declarations.
-/

namespace TypeSchema.CommandLine

/-- The reason a file operation fails. -/
def fileError : IO.Error → FileError
  | .noFileOrDirectory .. => .notFound
  | .inappropriateType _ _ details =>
    if details.toLower = "not a directory" then .notDirectory else .isDirectory
  | error => .other (toString error)

def readFile (path : String) : IO (Except FileError String) := do
  try
    return .ok (← IO.FS.readFile path)
  catch error =>
    return .error (fileError error)

def writeFile (path text : String) : IO (Except FileError Unit) := do
  try
    IO.FS.writeFile path text
    return .ok ()
  catch error =>
    return .error (fileError error)

def readSources (command : Command) : IO Sources := do
  let config ←
    match command.config with
    | some path => do pure ((← readFile path).map some)
    | none => do
      match ← readFile configFileName with
      | .error .notFound => pure (.ok none)
      | .error .isDirectory => pure (.ok none)
      | read => pure (read.map some)
  let input ←
    if command.readsStandardInput then do pure (.ok (← (← IO.getStdin).readToEnd))
    else readFile command.input
  return { config, input }

def execute (command : Command) : IO UInt32 := do
  match command.generate (← readSources command) with
  | .error failure =>
    IO.eprint failure.message
    return 1
  | .ok generated =>
    IO.eprint (skippedLines generated.skipped)
    match command.output with
    | none =>
      IO.print generated.code
      return 0
    | some path =>
      match ← writeFile path generated.code with
      | .ok () => return 0
      | .error error =>
        IO.eprint (Failure.unwritableOutput path error).message
        return 1

end TypeSchema.CommandLine

open TypeSchema.CommandLine

def main (arguments : List String) : IO UInt32 := do
  match Request.ofArguments arguments with
  | .error fault =>
    IO.eprint fault.message
    return 2
  | .ok (.help full) =>
    IO.print (if full then fullHelp else shortHelp)
    return 0
  | .ok .version =>
    IO.print versionText
    return 0
  | .ok (.generate command) => execute command
