import TypeSchema.Text.Escape

/-!
The tokens of TypeScript source. Blanks and comments are tokens too, so that the texts of the
tokens of a source, put together, are the source.
-/

namespace TypeSchema.TypeScript

inductive TokenKind where
  | blank
  | comment
  /-- An identifier or a keyword. -/
  | word
  | number
  | string
  | regex
  | template
  /-- A template up to its first hole, and so on to the text after its last. -/
  | templateHead
  | templateMiddle
  | templateTail
  /-- A template that runs to the end of the source, where an escaped backtick stands. -/
  | openTemplate
  /-- Brackets, operators and separators. -/
  | mark
  /-- Text that starts no token. -/
  | invalid
deriving DecidableEq

structure Token where
  kind : TokenKind
  text : List Char
deriving DecidableEq

/-- Whether a character is white space between tokens. -/
def isSpace (c : Char) : Bool :=
  c == ' ' || (9 ≤ c.toNat && c.toNat ≤ 13) || c.toNat == 0xa0 || c.toNat == 0x1680 ||
    (0x2000 ≤ c.toNat && c.toNat ≤ 0x200b) || c.toNat == 0x2028 || c.toNat == 0x2029 ||
    c.toNat == 0x202f || c.toNat == 0x205f || c.toNat == 0x2060 || c.toNat == 0x3000 ||
    c.toNat == 0xfeff

def isLineEnd (c : Char) : Bool :=
  c == '\n' || c == '\r' || c == '\u2028' || c == '\u2029'

/-- Whether a character breaks a line, so that a statement may end there. -/
def isLineBreak (c : Char) : Bool :=
  c == '\n' || c == '\u2028' || c == '\u2029'

/-- The characters that are marks, or that start no token at all. -/
def reserved : List Char :=
  [':', ';', '\x60', '"', '\'', '@', '#', '.', ',', '|', '^', '&', '<', '=', '>', '+', '-', '*',
    '/', '\\', '%', '?', '!', '~', '(', ')', '[', ']', '{', '}']

/-- Whether an identifier may go on with a character: any but controls, white space and marks. -/
def isWordChar (c : Char) : Bool :=
  32 < c.toNat && !isSpace c && c ∉ reserved

def startsWord (c : Char) : Bool :=
  isWordChar c && !c.isDigit

def countWhile (p : Char → Bool) (text : List Char) : Nat :=
  (text.takeWhile p).length

/-- How many characters in front are digits of some sort, single underscores between them
included. -/
def digitsLength (isDigit : Char → Bool) : List Char → Nat
  | [] => 0
  | c :: '_' :: d :: rest =>
    if !isDigit c then 0 else if isDigit d then digitsLength isDigit (d :: rest) + 2 else 1
  | c :: rest => if isDigit c then digitsLength isDigit rest + 1 else 0

def decimalLength (text : List Char) : Nat :=
  digitsLength Char.isDigit text

/-- The length of the exponent in front of a text, zero if there is none. -/
def exponentLength : List Char → Nat
  | e :: sign :: rest =>
    if e = 'e' ∨ e = 'E' then
      if sign = '+' ∨ sign = '-' then
        let digits := decimalLength rest
        if digits = 0 then 0 else 2 + digits
      else
        let digits := decimalLength (sign :: rest)
        if digits = 0 then 0 else 1 + digits
    else 0
  | _ => 0

/-- Whether a point or an exponent may follow digits: they do not start with two zeros, nor with a
zero and an underscore. -/
def mayHaveFraction : List Char → Bool
  | ['0'] => true
  | '0' :: c :: _ => c != '0' && c != '_'
  | _ => true

/-- The length of the number in front of a text that starts with a digit or a point. -/
def numberLength (text : List Char) : Nat :=
  match text with
  | '0' :: x :: rest =>
    let digits :=
      if x = 'x' ∨ x = 'X' then digitsLength (fun c => (Text.hexValue? c).isSome) rest
      else if x = 'o' ∨ x = 'O' then digitsLength (fun c => '0' ≤ c ∧ c ≤ '7') rest
      else if x = 'b' ∨ x = 'B' then digitsLength (fun c => c = '0' ∨ c = '1') rest
      else 0
    if digits = 0 then decimal
    else if (rest.drop digits).head? = some 'n' then digits + 3
    else digits + 2
  | _ => decimal
where
  /-- The length of the decimal number in front of the text. -/
  decimal : Nat :=
    let whole := decimalLength text
    let after := text.drop whole
    if after.head? = some 'n' then whole + 1
    else if !mayHaveFraction (text.take whole) then whole
    else
      let fraction := if after.head? = some '.' then 1 + decimalLength (after.drop 1) else 0
      whole + fraction + exponentLength (after.drop fraction)

/-- The length of the escape sequence whose backslash stands before a text, if it is a valid one. -/
def escapeLength? : List Char → Option Nat
  | [] => none
  | '\r' :: '\n' :: _ => some 2
  | 'x' :: a :: b :: _ =>
    if [a, b].all (fun c => (Text.hexValue? c).isSome) then some 3 else none
  | 'x' :: _ => none
  | 'u' :: '{' :: rest =>
    let digits := countWhile (fun c => (Text.hexValue? c).isSome) rest
    if digits = 0 ∨ (rest.drop digits).head? ≠ some '}' then none else some (digits + 3)
  | 'u' :: a :: b :: c :: d :: _ =>
    if [a, b, c, d].all (fun c => (Text.hexValue? c).isSome) then some 5 else none
  | 'u' :: _ => none
  | _ => some 1

/-- The length of a string up to and with its closing quote, `skip` characters of which have been
accounted for; a raw line end, a bad escape or the end of the text leaves it without one. -/
def stringLength? (quote : Char) : Nat → List Char → Option Nat
  | _, [] => none
  | skip + 1, _ :: rest => (stringLength? quote skip rest).map (· + 1)
  | 0, c :: rest =>
    if c = quote then some 1
    else if c = '\n' ∨ c = '\r' then none
    else if c = '\\' then
      (escapeLength? rest).bind fun length => (stringLength? quote length rest).map (· + 1)
    else (stringLength? quote 0 rest).map (· + 1)

/-- How the text of a template ends. -/
inductive TemplateEnd where
  | backtick
  | hole
  | source
deriving DecidableEq

/-- The length of a template's text up to and with the backtick or the `${` that ends it. A
backslash takes the next character with it. -/
def templateLength : List Char → Nat × TemplateEnd
  | [] => (0, .source)
  | '\x60' :: _ => (1, .backtick)
  | '$' :: '{' :: _ => (2, .hole)
  | '\\' :: _ :: rest =>
    let (length, ending) := templateLength rest
    (length + 2, ending)
  | _ :: rest =>
    let (length, ending) := templateLength rest
    (length + 1, ending)

/-- The token of a template text of which the first character, `rest` standing after it, opens
the template or closes a hole. -/
def templateToken (closed opened : TokenKind) (rest : List Char) : TokenKind × Nat :=
  match templateLength rest with
  | (length, .backtick) => (closed, length + 1)
  | (length, .hole) => (opened, length + 1)
  | (length, .source) =>
    if rest.getLast? = some '\x60' then (.openTemplate, length + 1) else (.invalid, length + 1)

/-- The length of a block comment from after its opening up to and with its end, if it has one. -/
def blockCommentLength? : List Char → Option Nat
  | [] => none
  | '*' :: '/' :: _ => some 2
  | _ :: rest => (blockCommentLength? rest).map (· + 1)

/-- The length of a regular expression literal from after its opening slash, with its flags; a
line end leaves it unfinished. `inClass` tells whether brackets are open. -/
def regexLength? (inClass : Bool) : List Char → Option Nat
  | [] => none
  | '\\' :: c :: rest =>
    if isLineEnd c then none else (regexLength? inClass rest).map (· + 2)
  | c :: rest =>
    if isLineEnd c then none
    else if c = '/' ∧ !inClass then some (1 + countWhile isWordChar rest)
    else (regexLength? (if c = '[' then true else if c = ']' then false else inClass) rest).map
      (· + 1)

/-- What the tokens before a place say about the next one. -/
structure LexicalState where
  /-- For each open brace, innermost first, whether it opens a hole of a template. -/
  holes : List Bool
  /-- Whether a slash starts a regular expression. -/
  regexAllowed : Bool

/-- The kind and the length of the token that starts with `c`, before `rest`. -/
def lexeme (state : LexicalState) (c : Char) (rest : List Char) : TokenKind × Nat :=
  if isSpace c then (.blank, 1 + countWhile isSpace rest)
  else if startsWord c then (.word, 1 + countWhile isWordChar rest)
  else if c.isDigit then (.number, numberLength (c :: rest))
  else
    match c, rest with
    | '/', '/' :: text => (.comment, 2 + countWhile (!isLineEnd ·) text)
    | '/', '*' :: text =>
      match blockCommentLength? text with
      | some length => (.comment, length + 2)
      | none => (.invalid, text.length + 2)
    | '/', text =>
      if state.regexAllowed then
        match regexLength? false text with
        | some length => (.regex, length + 1)
        | none => (.mark, 1)
      else (.mark, 1)
    | '"', text =>
      match stringLength? '"' 0 text with
      | some length => (.string, length + 1)
      | none => (.invalid, 1)
    | '\'', text =>
      match stringLength? '\'' 0 text with
      | some length => (.string, length + 1)
      | none => (.invalid, 1)
    | '\x60', text => templateToken .template .templateHead text
    | '}', text =>
      if state.holes.head? = some true then templateToken .templateTail .templateMiddle text
      else (.mark, 1)
    | '.', '.' :: '.' :: _ => (.mark, 3)
    | '.', d :: text => if d.isDigit then (.number, numberLength ('.' :: d :: text)) else (.mark, 1)
    | '=', '>' :: _ => (.mark, 2)
    | '+', '+' :: _ => (.mark, 2)
    | '-', '-' :: _ => (.mark, 2)
    | '#', d :: text =>
      if startsWord d then (.word, 2 + countWhile isWordChar text) else (.invalid, 1)
    | '#', [] => (.invalid, 1)
    | '\\', _ => (.invalid, 1)
    | c, _ => if c ∈ reserved then (.mark, 1) else (.invalid, 1)

/-- Words after which an expression starts. -/
def expressionWords : List String :=
  ["return", "typeof", "case", "in", "of", "new", "delete", "void", "throw", "do", "else",
    "instanceof", "await", "yield", "extends", "const", "let", "var"]

namespace Token

def isMark (token : Token) (mark : String) : Bool :=
  token.kind == .mark && token.text == mark.toList

def isWord (token : Token) (word : String) : Bool :=
  token.kind == .word && token.text == word.toList

/-- Whether a token says nothing: a blank or a comment. -/
def isTrivia (token : Token) : Bool :=
  token.kind == .blank || token.kind == .comment

/-- Whether a slash after a token starts a regular expression: not after an operand. -/
def allowsRegex (token : Token) : Bool :=
  match token.kind with
  | .word => String.ofList token.text ∈ expressionWords
  | .mark => !(token.isMark ")" || token.isMark "]" || token.isMark "\x7d")
  | .templateHead => true
  | .templateMiddle => true
  | _ => false

end Token

namespace LexicalState

def after (state : LexicalState) (token : Token) : LexicalState :=
  if token.isTrivia then state
  else
    { holes :=
        if token.isMark "\x7b" then false :: state.holes
        else if token.isMark "\x7d" || token.kind == .templateTail then state.holes.drop 1
        else if token.kind == .templateHead then true :: state.holes
        else state.holes
      regexAllowed := token.allowsRegex }

end LexicalState

/-- The tokens of a text, as many as the fuel allows; each takes one character at least. -/
def tokensFrom : Nat → LexicalState → List Char → List Token
  | _, _, [] => []
  | 0, _, _ => []
  | fuel + 1, state, c :: rest =>
    let (kind, length) := lexeme state c rest
    let token : Token := ⟨kind, c :: rest.take (length - 1)⟩
    token :: tokensFrom fuel (state.after token) (rest.drop (length - 1))

/-- The line in front of a source that tells a shell how to run it. -/
def runLine (source : List Char) : List Char :=
  match source with
  | '#' :: '!' :: _ => source.takeWhile (!isLineEnd ·)
  | _ => []

def tokens (source : List Char) : List Token :=
  let first := runLine source
  let rest := tokensFrom source.length ⟨[], true⟩ (source.drop first.length)
  if first.isEmpty then rest else ⟨.comment, first⟩ :: rest

end TypeSchema.TypeScript
