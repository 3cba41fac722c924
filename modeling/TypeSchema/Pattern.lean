import TypeSchema.GenerateError
import TypeSchema.TypeNode

/-!
Patterns: the source text of regular expressions. A template literal type becomes an anchored
pattern in which its text is escaped and each hole is a fixed fragment.
-/

namespace TypeSchema

/-- The source text of a regular expression, without the slashes around it. -/
structure Pattern where
  source : String
deriving DecidableEq, Inhabited

namespace Pattern

/-- Whether a character has a meaning of its own in a regular expression. -/
def isMeta (c : Char) : Bool :=
  c ∈ ['.', '*', '+', '?', '^', '$', '{', '}', '(', ')', '|', '[', ']', '\\']

/-- A text as a regular expression that matches this text alone. -/
def escape (text : List Char) : List Char :=
  text.flatMap fun c => if isMeta c then ['\\', c] else [c]

/-- The letters by which a line terminator is written after a backslash. -/
def terminatorEscape? (c : Char) : Option (List Char) :=
  match c with
  | '\n' => some ['n']
  | '\r' => some ['r']
  | '\u2028' => some ['u', '2', '0', '2', '8']
  | '\u2029' => some ['u', '2', '0', '2', '9']
  | _ => none

/-- A pattern's source made fit to stand between slashes: a slash and a line terminator are
escaped, unless a backslash escapes them already (`pending`). -/
def escapeDelimiters (pending : Bool) : List Char → List Char
  | [] => []
  | c :: rest =>
    match terminatorEscape? c with
    | some letters =>
      (if pending then letters else '\\' :: letters) ++ escapeDelimiters false rest
    | none =>
      if pending then c :: escapeDelimiters false rest
      else if c = '\\' then c :: escapeDelimiters true rest
      else if c = '/' then '\\' :: c :: escapeDelimiters false rest
      else c :: escapeDelimiters false rest

/-- A pattern as a regular expression literal. -/
def literal (pattern : Pattern) : List Char :=
  '/' :: escapeDelimiters false pattern.source.toList ++ ['/']

end Pattern

namespace TypeNode

def patternFragment (node : TypeNode) : Except GenerateError (List Char) :=
  match node.unwrap with
  | .primitive .string => .ok ['\\', 'w', '+']
  | .primitive .number => .ok ['\\', 'd', '+']
  | .primitive .boolean => .ok "(?:true|false)".toList
  | .primitive .any => .ok "[\\s\\S]*".toList
  | .primitive .unknown => .ok "[\\s\\S]*".toList
  | .primitive other => .error (.templateSpan other.keyword)
  | other => .error (.templateSpan other.kindName)

end TypeNode

namespace TemplateLiteral

/-- The source of the pattern for the holes of a template and the text after each. -/
def spanSource : List TemplateSpan → Except GenerateError (List Char)
  | [] => .ok []
  | span :: others => do
    let fragment ← span.type.patternFragment
    let rest ← spanSource others
    return fragment ++ Pattern.escape span.literal.toList ++ rest

/-- The pattern that matches the texts of a template literal type from start to end. -/
def pattern (template : TemplateLiteral) : Except GenerateError Pattern := do
  let spans ← spanSource template.spans
  return ⟨String.ofList ('^' :: Pattern.escape template.head.toList ++ spans ++ ['$'])⟩

end TemplateLiteral

end TypeSchema
