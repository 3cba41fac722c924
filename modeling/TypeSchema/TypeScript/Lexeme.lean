import TypeSchema.TypeScript.Token

/-!
What the grammar reads: tokens with the blanks and comments before them. A reader takes lexemes
from the front of a list, or fails.
-/

namespace TypeSchema.TypeScript

/-- A token that says something, and the blanks and comments before it. -/
structure Lexeme where
  before : List Token
  token : Token
deriving DecidableEq

namespace Lexeme

/-- Whether a lexeme starts a line. A line break in a comment does not count. -/
def startsLine (lexeme : Lexeme) : Bool :=
  lexeme.before.any fun token => token.kind == .blank && token.text.any isLineBreak

def comments (lexeme : Lexeme) : List String :=
  (lexeme.before.filter (·.kind == .comment)).map fun token => String.ofList token.text

/-- The source text of what stands before the token. -/
def leadingText (lexeme : Lexeme) : List Char :=
  lexeme.before.flatMap (·.text)

def text (lexeme : Lexeme) : List Char :=
  lexeme.leadingText ++ lexeme.token.text

def isMark (lexeme : Lexeme) (mark : String) : Bool :=
  lexeme.token.isMark mark

def isMarkOf (lexeme : Lexeme) (marks : List String) : Bool :=
  marks.any lexeme.token.isMark

def isWord (lexeme : Lexeme) (word : String) : Bool :=
  lexeme.token.isWord word

def isWordOf (lexeme : Lexeme) (words : List String) : Bool :=
  words.any lexeme.token.isWord

def isName (lexeme : Lexeme) : Bool :=
  lexeme.token.kind == .word

/-- Whether a token that starts a line goes on with what stands before: a separator or an operator
does, and so does a word that starts like the operator `in` or `instanceof`. -/
def continuesLine (lexeme : Lexeme) : Bool :=
  match lexeme.token.text with
  | ['+', '+'] => false
  | ['-', '-'] => false
  | 'i' :: 'n' :: 's' :: 't' :: 'a' :: 'n' :: 'c' :: 'e' :: 'o' :: 'f' :: rest => endsWord rest
  | 'i' :: 'n' :: rest => endsWord rest
  | c :: _ =>
    c ∈ ['\x60', ',', '.', ';', '*', '%', '>', '<', '=', '?', '^', '|', '&', '/', ':', '+', '-']
  | [] => false
where
  endsWord : List Char → Bool
    | [] => true
    | c :: _ => !c.isAlpha

/-- Whether what stands before a lexeme is complete although no separator follows: the lexeme
starts a line that it can start. -/
def endsLine (lexeme : Lexeme) : Bool :=
  lexeme.startsLine && !lexeme.continuesLine

end Lexeme

/-- The lexemes of tokens, of which `before` are blanks and comments that stand before. What stands
after the last lexeme is dropped. -/
def lexemesAfter (before : List Token) : List Token → List Lexeme
  | [] => []
  | token :: tokens =>
    if token.isTrivia then lexemesAfter (before ++ [token]) tokens
    else ⟨before, token⟩ :: lexemesAfter [] tokens

def lexemes (tokens : List Token) : List Lexeme :=
  lexemesAfter [] tokens

/-- The source text of lexemes, without what stands before the first token. -/
def sourceText : List Lexeme → String
  | [] => ""
  | first :: others => String.ofList (first.token.text ++ others.flatMap (·.text))

/-- The brackets that can be open. -/
inductive Bracket where
  | parenthesis
  | square
  | brace
  /-- A hole of a template. -/
  | hole
deriving DecidableEq

/-- The open brackets, innermost first, after one more token; a closing bracket that does not
close the innermost one is refused. -/
def bracketsAfter (brackets : List Bracket) (token : Token) : Option (List Bracket) :=
  if token.isMark "(" then some (.parenthesis :: brackets)
  else if token.isMark "[" then some (.square :: brackets)
  else if token.isMark "\x7b" then some (.brace :: brackets)
  else if token.kind == .templateHead then some (.hole :: brackets)
  else if token.isMark ")" then close .parenthesis
  else if token.isMark "]" then close .square
  else if token.isMark "\x7d" then close .brace
  else if token.kind == .templateTail then close .hole
  else if token.kind == .openTemplate then none
  else some brackets
where
  /-- The brackets after one that closes the innermost. -/
  close (bracket : Bracket) : Option (List Bracket) :=
    match brackets with
    | innermost :: others => if innermost = bracket then some others else none
    | [] => none

/-- What follows a group, some brackets of which are open. -/
def afterGroup (brackets : List Bracket) : List Lexeme → Option (List Lexeme)
  | [] => none
  | lexeme :: rest =>
    match bracketsAfter brackets lexeme.token with
    | none => none
    | some [] => some rest
    | some (bracket :: others) => afterGroup (bracket :: others) rest

/-- What follows the content of a hole, from the template text after it on. -/
def afterHole (brackets : List Bracket) : List Lexeme → Option (List Lexeme)
  | [] => none
  | lexeme :: rest =>
    if brackets.isEmpty && (lexeme.token.kind == .templateMiddle || lexeme.token.kind == .templateTail)
    then some (lexeme :: rest)
    else (bracketsAfter brackets lexeme.token).bind fun brackets => afterHole brackets rest

/-- What follows type arguments or parameters, `depth` angle brackets and some other brackets of
which are open. -/
def afterAngles (depth : Nat) (brackets : List Bracket) : List Lexeme → Option (List Lexeme)
  | [] => none
  | lexeme :: rest =>
    if brackets.isEmpty && lexeme.isMark "<" then afterAngles (depth + 1) [] rest
    else if brackets.isEmpty && lexeme.isMark ">" then
      if depth ≤ 1 then some rest else afterAngles (depth - 1) [] rest
    else (bracketsAfter brackets lexeme.token).bind fun brackets => afterAngles depth brackets rest

/-- Takes lexemes from the front of a list, or fails. -/
abbrev Reader := StateT (List Lexeme) Option

namespace Reader

def next : Reader Lexeme := do
  match ← get with
  | [] => failure
  | lexeme :: rest =>
    set rest
    return lexeme

/-- Whether the next lexeme satisfies a condition; it stays. -/
def nextIs (p : Lexeme → Bool) : Reader Bool := do
  return (← get).head?.any p

/-- Takes the next lexeme if it satisfies a condition, and tells whether it did. -/
def acceptIf (p : Lexeme → Bool) : Reader Bool := do
  match ← get with
  | [] => return false
  | lexeme :: rest =>
    if p lexeme then
      set rest
      return true
    else return false

def accept (mark : String) : Reader Bool :=
  acceptIf (·.isMark mark)

def acceptWord (word : String) : Reader Bool :=
  acceptIf (·.isWord word)

def expectIf (p : Lexeme → Bool) : Reader Lexeme := do
  let lexeme ← next
  if p lexeme then return lexeme else failure

def expect (mark : String) : Reader Unit := do
  let _ ← expectIf (·.isMark mark)

def expectWord (word : String) : Reader Unit := do
  let _ ← expectIf (·.isWord word)

def name : Reader String := do
  return String.ofList (← expectIf (·.isName)).token.text

/-- The source text taken since the reader stood at `start`. -/
def textSince (start : List Lexeme) : Reader String := do
  return sourceText (start.take (start.length - (← get).length))

/-- Goes on where a function on lexemes leads. -/
def skip (f : List Lexeme → Option (List Lexeme)) : Reader Unit := do
  match f (← get) with
  | some rest => set rest
  | none => failure

/-- Takes a group in brackets. -/
def group : Reader Unit :=
  skip (afterGroup [])

def groupOf (opening : String) : Reader Unit := do
  if ← nextIs (·.isMark opening) then group else failure

end Reader

end TypeSchema.TypeScript
