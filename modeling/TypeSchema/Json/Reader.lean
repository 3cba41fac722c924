import TypeSchema.Json.Value
import TypeSchema.Text.Escape
import TypeSchema.Text.Numeral

/-!
Reading JSON text, strictly: no comments, no trailing commas, no raw control characters in
strings, no half of a surrogate pair, and no number too large for a binary floating-point number
of 64 bits. Each reader gives what it read and the text that is left.
-/

namespace TypeSchema.Json

open Text

/-- Whether a character may stand between the tokens of JSON. -/
def isSpace (c : Char) : Bool :=
  c == ' ' || c == '\n' || c == '\r' || c == '\t'

def skipSpace (text : List Char) : List Char :=
  text.dropWhile isSpace

/-- The number that four hexadecimal digits denote. -/
def codeUnit? (a b c d : Char) : Option Nat :=
  if [a, b, c, d].all fun digit => (hexValue? digit).isSome then hexFrom? 0 [a, b, c, d] else none

/-- The character that a pair of surrogates stands for. -/
def joinSurrogates (high low : Nat) : Char :=
  Char.ofNat (0x10000 + (high - 0xd800) * 0x400 + (low - 0xdc00))

/-- The character that a backslash and one more character stand for. -/
def simpleEscape? (c : Char) : Option Char :=
  match c with
  | '"' => some '"'
  | '\\' => some '\\'
  | '/' => some '/'
  | 'b' => some '\x08'
  | 'f' => some '\x0c'
  | 'n' => some '\n'
  | 'r' => some '\r'
  | 't' => some '\t'
  | _ => none

/-- Reads the rest of a string, up to and with its closing quote. -/
def readString? : List Char → Option (List Char × List Char)
  | [] => none
  | '"' :: rest => some ([], rest)
  | '\\' :: 'u' :: a :: b :: c :: d :: rest =>
    match codeUnit? a b c d, rest with
    | none, _ => none
    | some unit, rest =>
      if 0xd800 ≤ unit ∧ unit < 0xdc00 then
        match rest with
        | '\\' :: 'u' :: e :: f :: g :: h :: rest =>
          match codeUnit? e f g h with
          | none => none
          | some low =>
            if 0xdc00 ≤ low ∧ low < 0xe000 then
              (readString? rest).map fun (text, rest) => (joinSurrogates unit low :: text, rest)
            else none
        | _ => none
      else if 0xdc00 ≤ unit ∧ unit < 0xe000 then none
      else (readString? rest).map fun (text, rest) => (Char.ofNat unit :: text, rest)
  | '\\' :: c :: rest =>
    match simpleEscape? c with
    | none => none
    | some c => (readString? rest).map fun (text, rest) => (c :: text, rest)
  | c :: rest =>
    if c.toNat < 32 ∨ c = '\\' then none
    else (readString? rest).map fun (text, rest) => (c :: text, rest)

def readSomeDigits? (text : List Char) : Option (List Char × List Char) :=
  match readDigits text with
  | ([], _) => none
  | read => some read

/-- Reads the whole part of a number: zero alone, or digits that do not start with it. -/
def readWhole? (text : List Char) : Option (List Char × List Char) :=
  match readSomeDigits? text with
  | some ('0' :: _ :: _, _) => none
  | read => read

/-- Reads the fraction of a number, if it has one, with its point. -/
def readFraction? : List Char → Option (List Char × List Char)
  | '.' :: rest => (readSomeDigits? rest).map fun (digits, rest) => ('.' :: digits, rest)
  | text => some ([], text)

/-- Reads the exponent of a number, if it has one, with its letter and sign. -/
def readPower? : List Char → Option (List Char × List Char)
  | e :: rest =>
    if e = 'e' ∨ e = 'E' then
      match rest with
      | '+' :: rest => (readSomeDigits? rest).map fun (digits, rest) => (e :: '+' :: digits, rest)
      | '-' :: rest => (readSomeDigits? rest).map fun (digits, rest) => (e :: '-' :: digits, rest)
      | rest => (readSomeDigits? rest).map fun (digits, rest) => (e :: digits, rest)
    else some ([], e :: rest)
  | [] => some ([], [])

/-- Reads a number without its sign. -/
def readUnsigned? (text : List Char) : Option (List Char × List Char) := do
  let (whole, rest) ← readWhole? text
  let (fraction, rest) ← readFraction? rest
  let (power, rest) ← readPower? rest
  return (whole ++ fraction ++ power, rest)

def readNumber? (text : List Char) : Option (Json × List Char) := do
  let (digits, rest) ←
    match text with
    | '-' :: rest => (readUnsigned? rest).map fun (digits, rest) => ('-' :: digits, rest)
    | text => readUnsigned? text
  if isFiniteNumeral digits then return (.number (String.ofList digits), rest) else none

mutual

/-- Reads a value in which at most `depth` arrays and objects are nested. The fuel bounds the
number of steps; no reading takes more than two for each character. -/
def readValue? : Nat → Nat → List Char → Option (Json × List Char)
  | 0, _, _ => none
  | fuel + 1, depth, text =>
    match skipSpace text with
    | 'n' :: 'u' :: 'l' :: 'l' :: rest => some (.null, rest)
    | 't' :: 'r' :: 'u' :: 'e' :: rest => some (.bool true, rest)
    | 'f' :: 'a' :: 'l' :: 's' :: 'e' :: rest => some (.bool false, rest)
    | '"' :: rest => (readString? rest).map fun (text, rest) => (.string (String.ofList text), rest)
    | '[' :: rest =>
      match depth with
      | 0 => none
      | depth + 1 =>
        match skipSpace rest with
        | ']' :: rest => some (.array [], rest)
        | rest => (readItems? fuel depth rest).map fun (items, rest) => (.array items, rest)
    | '{' :: rest =>
      match depth with
      | 0 => none
      | depth + 1 =>
        match skipSpace rest with
        | '}' :: rest => some (.object [], rest)
        | rest => (readFields? fuel depth rest).map fun (fields, rest) => (.object fields, rest)
    | rest => readNumber? rest

/-- Reads the items of an array, of which there is one at least, and the bracket after them. -/
def readItems? : Nat → Nat → List Char → Option (List Json × List Char)
  | 0, _, _ => none
  | fuel + 1, depth, text => do
    let (item, rest) ← readValue? fuel depth text
    match skipSpace rest with
    | ',' :: rest =>
      let (others, rest) ← readItems? fuel depth rest
      return (item :: others, rest)
    | ']' :: rest => return ([item], rest)
    | _ => none

/-- Reads the fields of an object, of which there is one at least, and the brace after them. -/
def readFields? : Nat → Nat → List Char → Option (List (String × Json) × List Char)
  | 0, _, _ => none
  | fuel + 1, depth, text =>
    match skipSpace text with
    | '"' :: rest => do
      let (key, rest) ← readString? rest
      match skipSpace rest with
      | ':' :: rest =>
        let (value, rest) ← readValue? fuel depth rest
        match skipSpace rest with
        | ',' :: rest =>
          let (others, rest) ← readFields? fuel depth rest
          return ((String.ofList key, value) :: others, rest)
        | '}' :: rest => return ([(String.ofList key, value)], rest)
        | _ => none
      | _ => none
    | _ => none

end

/-- How deeply arrays and objects may be nested. -/
def maxDepth : Nat :=
  127

/-- Reads the value at the start of a text. -/
def readFirst? (text : List Char) : Option (Json × List Char) :=
  readValue? (2 * text.length + 1) maxDepth text

/-- Reads a text that holds one value and nothing else. -/
def read? (text : List Char) : Option Json :=
  match readFirst? text with
  | some (json, rest) => if (skipSpace rest).isEmpty then some json else none
  | none => none

end TypeSchema.Json
