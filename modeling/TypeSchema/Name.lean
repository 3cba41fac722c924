import TypeSchema.Unicode.CaseMapping
import TypeSchema.Unicode.Number

/-!
Names of generated schemas. A declared name is cut into words, the words are put together in lower
camel case, and a suffix marks the result as a schema.
-/

namespace TypeSchema.Name

open Unicode

/-- Whether a word starts at `c`, which follows the letters in `pending` (nearest first) and
comes before `rest`: an upper-case letter after a lower-case one or a digit, or the last letter of
a run of capitals when a lower-case letter follows it. -/
def startsWord (pending : List Char) (c : Char) (rest : List Char) : Bool :=
  match pending with
  | [] => false
  | previous :: _ =>
    isUppercase c &&
      (isLowercase previous || previous.isDigit ||
        (isUppercase previous && rest.head?.any isLowercase))

/-- The word gathered so far, last letter first, if there is one. -/
def finishWord : List Char → List (List Char)
  | [] => []
  | pending => [pending.reverse]

/-- The words of a text, the letters of `pending` (last first) standing before it. -/
def wordsAfter (pending : List Char) : List Char → List (List Char)
  | [] => finishWord pending
  | c :: rest =>
    if !isAlphanumeric c then
      finishWord pending ++ wordsAfter [] rest
    else if startsWord pending c rest then
      finishWord pending ++ wordsAfter [c] rest
    else
      wordsAfter (c :: pending) rest

/-- The words of a name: runs of letters and numbers, cut further where the case says so. -/
def words (name : List Char) : List (List Char) :=
  wordsAfter [] name

/-- A word whose first character is in upper case. -/
def capitalize : List Char → List Char
  | [] => []
  | c :: rest => upperChar c ++ rest

/-- Words put together: all in lower case, each but the first with a capital. -/
def joinCamel : List (List Char) → List Char
  | [] => []
  | first :: others => lower first ++ others.flatMap fun word => capitalize (lower word)

def camelCase (name : String) : String :=
  String.ofList (joinCamel (words name.toList))

def schemaSuffix : String :=
  "Schema"

def schemaName (declared : String) : String :=
  camelCase declared ++ schemaSuffix

/-- The name by which generated code knows the schema library when no other is given. -/
def defaultLibrary : String :=
  "z"

/-- The name by which generated code knows the schema library. -/
def libraryName (library : Option String) : String :=
  library.getD defaultLibrary

end TypeSchema.Name
