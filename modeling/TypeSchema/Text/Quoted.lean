import TypeSchema.Unicode.Blank

/-!
Double-quoted string literals: the form in which a text is written into generated code.
-/

namespace TypeSchema.Text

open Unicode

/-- The lower-case hexadecimal digits of a code point below 65536, four of them. -/
def hexDigits (code : Nat) : List Char :=
  [code / 4096 % 16, code / 256 % 16, code / 16 % 16, code % 16].map Nat.digitChar

/-- A character as it stands inside a quoted literal. Quotes, backslashes, controls and the two
line separators are escaped. -/
def quoteChar (c : Char) : List Char :=
  match c with
  | '"' => ['\\', '"']
  | '\\' => ['\\', '\\']
  | '\n' => ['\\', 'n']
  | '\r' => ['\\', 'r']
  | '\t' => ['\\', 't']
  | '\x08' => ['\\', 'b']
  | '\x0c' => ['\\', 'f']
  | '\u2028' => ['\\', 'u', '2', '0', '2', '8']
  | '\u2029' => ['\\', 'u', '2', '0', '2', '9']
  | c => if isControl c then '\\' :: 'u' :: hexDigits c.toNat else [c]

def quote (text : List Char) : List Char :=
  '"' :: text.flatMap quoteChar ++ ['"']

end TypeSchema.Text
