/-!
Escape sequences of string and template literals, resolved: `unescape` gives the text that the
body of a literal stands for. A sequence that names no character is kept as it is written, and a
backslash before any other character stands for that character.
-/

namespace TypeSchema.Text

def hexValue? (c : Char) : Option Nat :=
  if '0' ≤ c ∧ c ≤ '9' then some (c.toNat - '0'.toNat)
  else if 'a' ≤ c ∧ c ≤ 'f' then some (c.toNat - 'a'.toNat + 10)
  else if 'A' ≤ c ∧ c ≤ 'F' then some (c.toNat - 'A'.toNat + 10)
  else none

/-- The number that hexadecimal digits continue from `value`. -/
def hexFrom? (value : Nat) : List Char → Option Nat
  | [] => some value
  | c :: rest => (hexValue? c).bind fun digit => hexFrom? (16 * value + digit) rest

/-- The number that a text of one or more hexadecimal digits denotes; a plus sign may stand
before them. -/
def hexNumber? : List Char → Option Nat
  | [] => none
  | ['+'] => none
  | '+' :: digits => hexFrom? 0 digits
  | digits => hexFrom? 0 digits

/-- The character that the digits of a `\u` escape name. -/
def charOfHex? (digits : List Char) : Option Char :=
  (hexNumber? digits).bind fun code =>
    if h : code.isValidChar then some (Char.ofNatAux code h) else none

/-- The text that a `\u` escape with these digits stands for: their character, or the escape
itself, without braces, if they name none. -/
def resolveUnicode (digits : List Char) : List Char :=
  match charOfHex? digits with
  | some c => [c]
  | none => '\\' :: 'u' :: digits

/-- The text that a backslash and the character after it stand for, `\u` aside. -/
def resolveSimple (c : Char) : List Char :=
  match c with
  | 'n' => ['\n']
  | 'r' => ['\r']
  | 't' => ['\t']
  | 'b' => ['\x08']
  | 'f' => ['\x0c']
  | 'v' => ['\x0b']
  | '0' => ['\x00']
  | '\n' => []
  | c => [c]

/-- Where a reading of a literal's body stands. -/
inductive EscapeState where
  /-- Between characters. -/
  | plain
  /-- After a backslash. -/
  | escape
  /-- After `\u`. -/
  | unicode
  /-- After `\u{` and these digits, last first. -/
  | braced (digits : List Char)
  /-- After `\u` and these digits, last first, of four. -/
  | fixed (digits : List Char)

/-- The text that the rest of a literal's body stands for. -/
def unescapeFrom : EscapeState → List Char → List Char
  | .plain, [] => []
  | .escape, [] => ['\\']
  | .unicode, [] => resolveUnicode []
  | .braced digits, [] => resolveUnicode digits.reverse
  | .fixed digits, [] => resolveUnicode digits.reverse
  | .plain, c :: rest =>
    if c = '\\' then unescapeFrom .escape rest else c :: unescapeFrom .plain rest
  | .escape, c :: rest =>
    if c = 'u' then unescapeFrom .unicode rest
    else resolveSimple c ++ unescapeFrom .plain rest
  | .unicode, c :: rest =>
    if c = '{' then unescapeFrom (.braced []) rest else unescapeFrom (.fixed [c]) rest
  | .braced digits, c :: rest =>
    if c = '}' then resolveUnicode digits.reverse ++ unescapeFrom .plain rest
    else unescapeFrom (.braced (c :: digits)) rest
  | .fixed digits, c :: rest =>
    if digits.length = 3 then resolveUnicode (c :: digits).reverse ++ unescapeFrom .plain rest
    else unescapeFrom (.fixed (c :: digits)) rest

/-- The text that the body of a string or template literal stands for. -/
def unescape (body : List Char) : List Char :=
  unescapeFrom .plain body

end TypeSchema.Text
