import TypeSchema.Text.Trim

/-!
Documentation comments: the directives they carry, and their layout when they are written again.
-/

namespace TypeSchema

/-- A line `@tag argument` of a documentation comment. -/
structure Directive where
  tag : String
  argument : String
deriving DecidableEq, Inhabited

namespace DocComment

open Text

/-- A comment without the marks that open and close it. -/
def body (comment : List Char) : List Char :=
  dropEnd ['*', '/'] (dropStart ['/', '*', '*'] (trim comment))

/-- A line of a comment's body without the stars in its margin. -/
def lineText (line : List Char) : List Char :=
  trim ((trim line).dropWhile (· == '*'))

/-- The directive of a line, if it has one: an at sign, a tag, and the rest of the line as its
argument. -/
def readDirective? (line : List Char) : Option Directive :=
  match lineText line with
  | '@' :: rest =>
    let (tag, argument) := splitAtBlank rest
    if tag.isEmpty then none
    else some ⟨String.ofList tag, String.ofList (trim argument)⟩
  | _ => none

def directives (comment : String) : List Directive :=
  (lines (body comment.toList)).filterMap readDirective?

/-- A line of a comment at an indent. Past the first line, a star stands one column further in, so
that the margin lines up. -/
def layoutLine (indent : List Char) (first : Bool) (line : List Char) : List Char :=
  let text := trim line
  let margin := if !first && text.head? == some '*' then [' '] else []
  indent ++ margin ++ text ++ ['\n']

/-- The lines of a comment at an indent, `first` telling whether they begin the comment. -/
def layoutLines (indent : List Char) (first : Bool) : List (List Char) → List Char
  | [] => []
  | line :: others => layoutLine indent first line ++ layoutLines indent false others

/-- A comment laid out at an indent, every line ended. -/
def layout (indent : List Char) (comment : String) : List Char :=
  layoutLines indent true (lines (trim comment.toList))

end DocComment

end TypeSchema
