import TypeSchema.Schema.Render
import TypeSchema.TypeNode.Compile

/-!
Modules of schemas: the declarations of a source, compiled one by one and written out as bindings
under a common header.
-/

namespace TypeSchema

structure Binding where
  sourceName : String
  identifier : String
  library : String
  schema : Schema
deriving Inhabited

structure BindingOptions where
  /-- The name of the schema library, if not the usual one. -/
  library : Option String := none
  /-- The name to bind to, if not the one made from the declaration's name. -/
  target : Option String := none

structure ModuleOptions where
  /-- The name of the schema library, if not the usual one. -/
  library : Option String := none
  exported : Bool := true
  /-- Whether the module starts with a banner and the import of the schema library. -/
  importHeader : Bool := true
  /-- Whether a declaration that fails is left out, rather than making the whole fail. -/
  skipUnsupported : Bool := true
deriving DecidableEq, Inhabited

structure Skipped where
  name : String
  error : GenerateError

structure GeneratedModule where
  code : String
  /-- The names of the schemas, in the order of the declarations. -/
  identifiers : List String
  skipped : List Skipped

/-- Compiles a declaration and binds its schema to a name. -/
def Declaration.bind (declaration : Declaration) (options : BindingOptions) :
    Except GenerateError Binding := do
  let schema ← declaration.node.compile
  return {
    sourceName := declaration.name
    identifier := options.target.getD (Name.schemaName declaration.name)
    library := Name.libraryName options.library
    schema }

namespace Binding

def write (binding : Binding) (exported : Bool) : List Char :=
  (if exported then "export ".toList else []) ++ "const ".toList ++ binding.identifier.toList ++
    " = ".toList ++ binding.schema.write binding.library.toList 0 ++ [';']

def render (binding : Binding) (exported : Bool) : String :=
  String.ofList (binding.write exported)

end Binding

namespace ModuleOptions

/-- The options under which the declarations of a module are bound. -/
def binding (options : ModuleOptions) : BindingOptions :=
  { library := options.library }

/-- The import of the schema library, under its own name or another. -/
def importLine (options : ModuleOptions) : List Char :=
  match options.library with
  | none => "import \x7b z \x7d from \"zod\";\n".toList
  | some library =>
    if library = Name.defaultLibrary then "import \x7b z \x7d from \"zod\";\n".toList
    else "import \x7b z as ".toList ++ library.toList ++ " \x7d from \"zod\";\n".toList

def header (options : ModuleOptions) : List Char :=
  if options.importHeader then "// Generated by normalize-zodgen\n".toList ++ options.importLine
  else []

end ModuleOptions

namespace SchemaModule

/-- Bindings, each on lines of its own, with an empty line before each that is not the first of
the text. -/
def writeBindings (exported first : Bool) : List Binding → List Char
  | [] => []
  | binding :: others =>
    (if first then [] else ['\n']) ++ binding.write exported ++ '\n' ::
      writeBindings exported false others

def write (bindings : List Binding) (options : ModuleOptions) : List Char :=
  options.header ++ writeBindings options.exported options.header.isEmpty bindings

def render (bindings : List Binding) (options : ModuleOptions) : String :=
  String.ofList (write bindings options)

/-- Compiles declarations in order, sorting those that fail from the others; unless they may be
skipped, the first that fails ends it. -/
def bindAll (options : ModuleOptions) :
    List Declaration → Except GenerateError (List Binding × List Skipped)
  | [] => .ok ([], [])
  | declaration :: others =>
    match declaration.bind options.binding with
    | .ok binding => do
      let (bindings, skipped) ← bindAll options others
      return (binding :: bindings, skipped)
    | .error error =>
      if options.skipUnsupported then do
        let (bindings, skipped) ← bindAll options others
        return (bindings, ⟨declaration.name, error⟩ :: skipped)
      else
        .error error

/-- Generates the module of a list of declarations, of which there must be one at least. -/
def generate (declarations : List Declaration) (options : ModuleOptions) :
    Except GenerateError GeneratedModule :=
  if declarations.isEmpty then .error .missingDeclaration
  else do
    let (bindings, skipped) ← bindAll options declarations
    return { code := render bindings options, identifiers := bindings.map (·.identifier), skipped }

end SchemaModule

end TypeSchema
