/-!
The escapes of template literal types. A backslash takes the next character with it, so a backtick
or a hole after it is text.
-/

namespace TypeSchema.TypeScript.Template

/-- Whether a template's text starts with a backtick and ends with one that is not escaped: the
backslashes before it are even in number. -/
def isClosed (text : List Char) : Bool :=
  match text with
  | '\x60' :: rest =>
    match ['\x60'].isSuffixOf? rest with
    | some body => (body.reverse.takeWhile (· == '\\')).length % 2 == 0
    | none => false
  | _ => false

/-- Whether a text has no backtick and no start of a hole that is not escaped. -/
def isPlain : List Char → Bool
  | [] => true
  | '\\' :: _ :: rest => isPlain rest
  | '$' :: '{' :: _ => false
  | '\x60' :: _ => false
  | _ :: rest => isPlain rest

/-- Whether a text starts with an escape and goes on without a backtick or a hole. -/
def isEscapeRun (text : List Char) : Bool :=
  text.head? == some '\\' && isPlain text

/-- The length of the escape sequence in front of a text: as many characters as belong to its
code point, or one after the backslash. -/
def escapeLength : List Char → Nat
  | 'u' :: '{' :: rest => 3 + (rest.takeWhile (· != '}')).length
  | 'u' :: rest => 1 + (rest.take 4).length
  | _ => 1

/-- Whether a text is made of escape sequences only; `skip` characters have been accounted for. -/
def isAllEscapes : Nat → List Char → Bool
  | _, [] => true
  | skip + 1, _ :: rest => isAllEscapes skip rest
  | 0, c :: rest => c == '\\' && isAllEscapes (escapeLength rest) rest

/-- Whether a text has an escaped hole in it: `\${` with a brace after it that closes it. -/
def hasEscapedHole : List Char → Bool
  | [] => false
  | '\\' :: '$' :: '{' :: rest => '}' ∈ rest || hasEscapedHole rest
  | '\\' :: _ :: rest => hasEscapedHole rest
  | _ :: rest => hasEscapedHole rest

/-- The part of a text before its first backslash, and the part from there on. -/
def splitAtEscape (text : List Char) : List Char × List Char :=
  (text.takeWhile (· != '\\'), text.dropWhile (· != '\\'))

/-- Whether text may stand before a hole: from its first escape on there are only escapes. -/
def mayPrecedeHole (text : List Char) : Bool :=
  isAllEscapes 0 (splitAtEscape text).2

end TypeSchema.TypeScript.Template
