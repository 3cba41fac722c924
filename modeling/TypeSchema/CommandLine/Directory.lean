/-!
The directory a command runs in, and what comes of reading and writing files by the paths of its
arguments. Nothing outside the directory is there.
-/

namespace TypeSchema.CommandLine

/-- Why a file cannot be read or written. -/
inductive FileError where
  | notFound
  | isDirectory
  | notDirectory
  | other (description : String)
deriving DecidableEq, Repr

def FileError.describe : FileError → String
  | notFound => "No such file or directory (os error 2)"
  | isDirectory => "Is a directory (os error 21)"
  | notDirectory => "Not a directory (os error 20)"
  | other description => description

/-- The names of a path, which slashes separate. -/
def pathNames : List Char → List String
  | [] => [""]
  | c :: rest =>
    match pathNames rest with
    | name :: names => if c = '/' then "" :: name :: names else (String.singleton c ++ name) :: names
    | [] => []

/-- A directory: its files with their texts, each under the names that lead to it. -/
structure Directory where
  files : List (List String × String)
deriving DecidableEq

namespace Directory

def text? (directory : Directory) (place : List String) : Option String :=
  directory.files.lookup place

/-- Whether there is a directory at a place: files below it make one. -/
def hasDirectory (directory : Directory) (place : List String) : Bool :=
  place.isEmpty ||
    directory.files.any fun file => place.isPrefixOf file.1 && place.length < file.1.length

/-- The place that names lead to from another place, and whether only a directory can be meant. The
last name need not be there. -/
def follow (directory : Directory) (place : List String) :
    List String → Except FileError (List String × Bool)
  | [] => .ok (place, true)
  | name :: names =>
    if name = "" ∨ name = "." then follow directory place names
    else if name = ".." then
      if place.isEmpty then .error .notFound else follow directory place.dropLast names
    else if names.all (·.isEmpty) then .ok (place ++ [name], !names.isEmpty)
    else if directory.hasDirectory (place ++ [name]) then
      follow directory (place ++ [name]) names
    else if (directory.text? (place ++ [name])).isSome then .error .notDirectory
    else .error .notFound

/-- The place that a path leads to, and whether only a directory can be meant. -/
def locate (directory : Directory) (path : String) : Except FileError (List String × Bool) :=
  if path.isEmpty || path.toList.head? == some '/' then .error .notFound
  else directory.follow [] (pathNames path.toList)

def read (directory : Directory) (path : String) : Except FileError String := do
  let (place, isDirectory) ← directory.locate path
  if directory.hasDirectory place then .error .isDirectory
  else
    match directory.text? place with
    | none => .error .notFound
    | some text => if isDirectory then .error .notDirectory else .ok text

/-- The directory with a text in the file at a place, which replaces what is there. -/
def put (directory : Directory) (place : List String) (text : String) : Directory :=
  if (directory.text? place).isSome then
    ⟨directory.files.map fun file => if file.1 = place then (place, text) else file⟩
  else ⟨directory.files ++ [(place, text)]⟩

def write (directory : Directory) (path text : String) : Except FileError Directory := do
  let (place, isDirectory) ← directory.locate path
  if isDirectory || directory.hasDirectory place then .error .isDirectory
  else return directory.put place text

end Directory

end TypeSchema.CommandLine
