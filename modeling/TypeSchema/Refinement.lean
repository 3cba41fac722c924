import TypeSchema.Schema
import TypeSchema.Text.Numeral

/-!
Refinements: the call that a directive of a documentation comment adds to the schema of a member.
A directive with an unknown tag or an argument of the wrong form adds none.
-/

namespace TypeSchema

namespace Refinement

open Text

/-- The check that a format names. -/
def format? (argument : List Char) : Option Call :=
  match String.ofList argument with
  | "email" => some (.bare "email")
  | "uri" => some (.bare "url")
  | "url" => some (.bare "url")
  | "uuid" => some (.bare "uuid")
  | "cuid" => some (.bare "cuid")
  | "date-time" => some (.bare "datetime")
  | _ => none

/-- Whether a text ends in a backslash that escapes nothing. -/
def endsPending (text : List Char) : Bool :=
  (text.reverse.takeWhile (· == '\\')).length % 2 == 1

/-- A match against a pattern. An empty pattern, and one whose last backslash would escape the
slash after it, are of no use. -/
def pattern? (argument : List Char) : Option Call :=
  if argument.isEmpty || endsPending argument then none
  else some ⟨"regex", [.pattern ⟨String.ofList argument⟩]⟩

/-- A bound on a number, as it is written. -/
def bound? (method : String) (argument : List Char) : Option Call :=
  if isFiniteNumeral argument then some ⟨method, [.number (String.ofList argument)]⟩ else none

/-- A bound on a length, in its shortest form. -/
def lengthBound? (method : String) (argument : List Char) : Option Call :=
  (readLength? argument).map fun length =>
    ⟨method, [.number (String.ofList (Nat.toDigits 10 length))]⟩

/-- The tags that have a meaning, and what each does with its argument. Two of them are common
misspellings. -/
def table : List (String × (List Char → Option Call)) :=
  [("format", format?), ("pattern", pattern?), ("minimum", bound? "min"),
    ("maximum", bound? "max"), ("minLength", lengthBound? "min"),
    ("maxLength", lengthBound? "max"), ("minLenght", lengthBound? "min"),
    ("maxLenght", lengthBound? "max")]

end Refinement

namespace Directive

def refinement? (directive : Directive) : Option Call :=
  (Refinement.table.lookup directive.tag).bind fun read =>
    read (Text.trim directive.argument.toList)

/-- The calls that directives add, in order. -/
def refinements (directives : List Directive) : List Call :=
  directives.filterMap refinement?

end Directive

end TypeSchema
