import TypeSchema.Pattern
import TypeSchema.Unicode.Word

/-!
The regular expressions that template literal types become, read back from a pattern's source,
and which texts they match.
-/

namespace TypeSchema

inductive CharClass where
  | word
  | digit
  | any
deriving DecidableEq

namespace CharClass

def holds : CharClass → Char → Bool
  | word, c => Unicode.isWordChar c
  | digit, c => Unicode.isDecimalDigit c
  | any, _ => true

end CharClass

inductive RegexPiece where
  | start
  | finish
  | char (c : Char)
  | oneOrMore (charClass : CharClass)
  | zeroOrMore (charClass : CharClass)
  | either (alternatives : List (List Char))
deriving DecidableEq

/-- A regular expression: pieces, one after the other. -/
abbrev Regex := List RegexPiece

namespace Regex

/-- What may be left of a text after any number of characters of a class, the shortest match
first. -/
def restsOfMany (charClass : CharClass) : List Char → List (List Char)
  | [] => [[]]
  | c :: rest =>
    if charClass.holds c then (c :: rest) :: restsOfMany charClass rest else [c :: rest]

/-- What may be left of a text after a piece. `atStart` tells whether nothing stands before. -/
def restsOfPiece (atStart : Bool) : RegexPiece → List Char → List (List Char)
  | .start, text => if atStart then [text] else []
  | .finish, text => if text.isEmpty then [text] else []
  | .char _, [] => []
  | .char c, d :: rest => if c = d then [rest] else []
  | .oneOrMore _, [] => []
  | .oneOrMore charClass, c :: rest =>
    if charClass.holds c then restsOfMany charClass rest else []
  | .zeroOrMore charClass, text => restsOfMany charClass text
  | .either alternatives, text => alternatives.filterMap (·.isPrefixOf? text)

/-- Whether the rest of a text, of which `whole` characters made up the whole, can be matched from
its beginning. -/
def matchesFrom (whole : Nat) : Regex → List Char → Bool
  | [], _ => true
  | piece :: others, text =>
    (restsOfPiece (text.length == whole) piece text).any (matchesFrom whole others)

/-- The ends of a text, from the whole of it to the empty one. -/
def endsOf : List Char → List (List Char)
  | [] => [[]]
  | c :: rest => (c :: rest) :: endsOf rest

/-- Whether a regular expression matches a text somewhere. -/
def isMatch (regex : Regex) (text : List Char) : Bool :=
  (endsOf text).any (matchesFrom text.length regex)

/-- Reads the source of a regular expression. Only the forms that template literal types become
are understood. -/
def read? : List Char → Option Regex
  | [] => some []
  | '\\' :: 'w' :: '+' :: rest => (read? rest).map (.oneOrMore .word :: ·)
  | '\\' :: 'd' :: '+' :: rest => (read? rest).map (.oneOrMore .digit :: ·)
  | '[' :: '\\' :: 's' :: '\\' :: 'S' :: ']' :: '*' :: rest =>
    (read? rest).map (.zeroOrMore .any :: ·)
  | '(' :: '?' :: ':' :: 't' :: 'r' :: 'u' :: 'e' :: '|' :: 'f' :: 'a' :: 'l' :: 's' :: 'e' ::
      ')' :: rest =>
    (read? rest).map (.either ["true".toList, "false".toList] :: ·)
  | '^' :: rest => (read? rest).map (.start :: ·)
  | '$' :: rest => (read? rest).map (.finish :: ·)
  | '\\' :: c :: rest => if Pattern.isMeta c then (read? rest).map (.char c :: ·) else none
  | c :: rest => if Pattern.isMeta c then none else (read? rest).map (.char c :: ·)

end Regex

namespace Pattern

def regex? (pattern : Pattern) : Option Regex :=
  Regex.read? pattern.source.toList

/-- Whether a pattern matches a text; nothing is known of a pattern that cannot be read. -/
def isMatch? (pattern : Pattern) (text : String) : Option Bool :=
  pattern.regex?.map (·.isMatch text.toList)

end Pattern

end TypeSchema
