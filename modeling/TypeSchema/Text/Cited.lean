import TypeSchema.Unicode.Printable

/-!
The form in which a message cites a text: quoted, with all that cannot be shown as itself escaped.
-/

namespace TypeSchema.Text

open Unicode

def citeChar (c : Char) : List Char :=
  match c with
  | '"' => ['\\', '"']
  | '\\' => ['\\', '\\']
  | '\n' => ['\\', 'n']
  | '\r' => ['\\', 'r']
  | '\t' => ['\\', 't']
  | '\x00' => ['\\', '0']
  | c =>
    if isPrintable c then [c]
    else ['\\', 'u', '{'] ++ Nat.toDigits 16 c.toNat ++ ['}']

/-- A text between double quotes, fit to be read in a message. -/
def cite (text : List Char) : List Char :=
  '"' :: text.flatMap citeChar ++ ['"']

end TypeSchema.Text
