/-!
The arguments of the command line. They are read from left to right; the first fault ends it, and so
does a request for help or for the version.
-/

namespace TypeSchema.CommandLine

inductive SourceFormat where
  | typescript
  | json
deriving DecidableEq, Repr

def SourceFormat.ofName? : String → Option SourceFormat
  | "typescript" => some .typescript
  | "json" => some .json
  | _ => none

/-- The options that take a value. -/
inductive Setting where
  | output
  | library
  | config
  | format
deriving DecidableEq, Repr

def Setting.usage : Setting → String
  | output => "--output <OUTPUT>"
  | library => "--alias <ALIAS>"
  | config => "--config <CONFIG>"
  | format => "--format <FORMAT>"

/-- The options that take none. -/
inductive Switch where
  | strict
  | noExport
deriving DecidableEq, Repr

def Switch.usage : Switch → String
  | strict => "--strict"
  | noExport => "--no-export"

inductive OptionKind where
  | setting (setting : Setting)
  | switch (switch : Switch)
  | help
  | version
deriving DecidableEq, Repr

def OptionKind.ofLong? : String → Option OptionKind
  | "output" => some (.setting .output)
  | "alias" => some (.setting .library)
  | "config" => some (.setting .config)
  | "format" => some (.setting .format)
  | "strict" => some (.switch .strict)
  | "no-export" => some (.switch .noExport)
  | "help" => some .help
  | "version" => some .version
  | _ => none

def OptionKind.ofShort? : Char → Option OptionKind
  | 'o' => some (.setting .output)
  | 'h' => some .help
  | 'V' => some .version
  | _ => none

/-- What is wrong with the arguments. -/
inductive UsageFault where
  | unexpectedArgument (argument : String)
  | repeated (usage : String)
  | missingValue (usage : String)
  | unexpectedValue (usage value : String)
  | unknownFormat (name : String)
  | missingInput
deriving DecidableEq, Repr

structure Arguments where
  input : Option String := none
  output : Option String := none
  library : Option String := none
  config : Option String := none
  format : Option SourceFormat := none
  strict : Bool := false
  noExport : Bool := false
deriving DecidableEq, Repr

/-- A request to generate schemas. -/
structure Command where
  /-- The path of the source; a hyphen is the standard input. -/
  input : String
  /-- The path of the file to write, if it is not the standard output. -/
  output : Option String
  library : Option String
  config : Option String
  format : SourceFormat
  strict : Bool
  noExport : Bool
deriving DecidableEq, Repr

inductive Request where
  | generate (command : Command)
  /-- Help, in full or in short. -/
  | help (full : Bool)
  | version
deriving DecidableEq, Repr

namespace Arguments

/-- Takes an argument that is not an option: the path of the source. -/
def addInput (arguments : Arguments) (path : String) : Except UsageFault Arguments :=
  if arguments.input.isSome then .error (.unexpectedArgument path)
  else if path.isEmpty then .error (.missingValue "<INPUT>")
  else .ok { arguments with input := some path }

def set (arguments : Arguments) (setting : Setting) (value : String) :
    Except UsageFault Arguments :=
  match setting with
  | .output =>
    if value.isEmpty then .error (.missingValue setting.usage)
    else if arguments.output.isSome then .error (.repeated setting.usage)
    else .ok { arguments with output := some value }
  | .library =>
    if arguments.library.isSome then .error (.repeated setting.usage)
    else .ok { arguments with library := some value }
  | .config =>
    if value.isEmpty then .error (.missingValue setting.usage)
    else if arguments.config.isSome then .error (.repeated setting.usage)
    else .ok { arguments with config := some value }
  | .format =>
    match SourceFormat.ofName? value with
    | none => .error (.unknownFormat value)
    | some format =>
      if arguments.format.isSome then .error (.repeated setting.usage)
      else .ok { arguments with format := some format }

def turnOn (arguments : Arguments) (switch : Switch) : Except UsageFault Arguments :=
  match switch with
  | .strict =>
    if arguments.strict then .error (.repeated switch.usage)
    else .ok { arguments with strict := true }
  | .noExport =>
    if arguments.noExport then .error (.repeated switch.usage)
    else .ok { arguments with noExport := true }

def complete (arguments : Arguments) : Except UsageFault Request :=
  match arguments.input with
  | none => .error .missingInput
  | some input =>
    .ok (.generate {
      input
      output := arguments.output
      library := arguments.library
      config := arguments.config
      format := arguments.format.getD .typescript
      strict := arguments.strict
      noExport := arguments.noExport })

/-- Takes arguments none of which is an option. -/
def addInputs (arguments : Arguments) : List String → Except UsageFault Arguments
  | [] => .ok arguments
  | path :: others => do (← arguments.addInput path).addInputs others

/-- Whether an argument that follows an option can be its value: a hyphen in front makes it an
option itself, unless it stands alone. -/
def isValue (argument : String) : Bool :=
  argument.toList.head? != some '-' || argument == "-"

/-- The name of a long option and the value after the equals sign, if there is one. -/
def splitLong (text : List Char) : String × Option String :=
  let name := String.ofList (text.takeWhile (· != '='))
  match text.dropWhile (· != '=') with
  | [] => (name, none)
  | _ :: value => (name, some (String.ofList value))

/-- The value written directly after a short option, an equals sign before it left out. -/
def attachedValue? (text : List Char) : Option String :=
  match text with
  | [] => none
  | '=' :: value => some (String.ofList value)
  | value => some (String.ofList value)

def read (arguments : Arguments) : List String → Except UsageFault Request
  | [] => arguments.complete
  | argument :: others =>
    match argument.toList with
    | ['-', '-'] => do (← arguments.addInputs others).complete
    | '-' :: '-' :: long =>
      let (name, value?) := splitLong long
      match OptionKind.ofLong? name, value? with
      | none, _ => .error (.unexpectedArgument ("--" ++ name))
      | some (.setting setting), some value => do (← arguments.set setting value).read others
      | some (.setting setting), none =>
        match others with
        | [] => .error (.missingValue setting.usage)
        | value :: others =>
          if isValue value then do (← arguments.set setting value).read others
          else .error (.missingValue setting.usage)
      | some _, some value => .error (.unexpectedValue ("--" ++ name) value)
      | some (.switch switch), none => do (← arguments.turnOn switch).read others
      | some .help, none => .ok (.help true)
      | some .version, none => .ok .version
    | '-' :: c :: text =>
      match OptionKind.ofShort? c with
      | some (.setting setting) =>
        match attachedValue? text, others with
        | some value, others => do (← arguments.set setting value).read others
        | none, [] => .error (.missingValue setting.usage)
        | none, value :: others =>
          if isValue value then do (← arguments.set setting value).read others
          else .error (.missingValue setting.usage)
      | some .help => .ok (.help false)
      | some .version => .ok .version
      | _ => .error (.unexpectedArgument (String.ofList ['-', c]))
    | _ => do (← arguments.addInput argument).read others

end Arguments

def Request.ofArguments (arguments : List String) : Except UsageFault Request :=
  ({} : Arguments).read arguments

end TypeSchema.CommandLine
