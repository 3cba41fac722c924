import TypeSchema.Unicode.Number

/-!
Identifiers: the keys that need no quotes.
-/

namespace TypeSchema.Text

open Unicode

def startsIdentifier (c : Char) : Bool :=
  isAlphabetic c || c == '_' || c == '$'

def continuesIdentifier (c : Char) : Bool :=
  isAlphanumeric c || c == '_' || c == '$'

def isIdentifier : List Char → Bool
  | [] => false
  | c :: rest => startsIdentifier c && rest.all continuesIdentifier

end TypeSchema.Text
