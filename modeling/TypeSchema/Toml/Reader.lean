import TypeSchema.Toml.Document
import TypeSchema.Toml.Scalar

/-!
Reading TOML documents. Each reader gives what it read and the text that is left.
-/

namespace TypeSchema.Toml

open Text

/-- Whether a character may stand between the parts of a line. -/
def isBlank (c : Char) : Bool :=
  c == ' ' || c == '\t'

def skipBlanks (text : List Char) : List Char :=
  text.dropWhile isBlank

/-- Whether a character may stand in a comment or a string: controls may not, but for the
tabulator. -/
def isTextChar (c : Char) : Bool :=
  c == '\t' || (32 ≤ c.toNat && c.toNat != 127)

def afterLineEnd? : List Char → Option (List Char)
  | '\n' :: rest => some rest
  | '\r' :: '\n' :: rest => some rest
  | _ => none

/-- What follows the rest of a line that says nothing more: blanks, a comment, and the line end
if the text does not end there. -/
def afterLine? (text : List Char) : Option (List Char) :=
  let rest :=
    match skipBlanks text with
    | '#' :: rest => rest.dropWhile isTextChar
    | rest => rest
  if rest.isEmpty then some [] else afterLineEnd? rest

/-- A text from its first character that is no blank, no line end and not in a comment. -/
def skipFiller (inComment : Bool) : List Char → List Char
  | [] => []
  | '\r' :: '\n' :: rest => skipFiller false rest
  | c :: rest =>
    if c = '\n' then skipFiller false rest
    else if inComment && isTextChar c then skipFiller true rest
    else if !inComment && isBlank c then skipFiller false rest
    else if !inComment && c == '#' then skipFiller true rest
    else c :: rest

/-- The character that a backslash and one more character stand for. -/
def simpleEscape? (c : Char) : Option Char :=
  match c with
  | 'b' => some '\x08'
  | 't' => some '\t'
  | 'n' => some '\n'
  | 'f' => some '\x0c'
  | 'r' => some '\r'
  | '"' => some '"'
  | '\\' => some '\\'
  | _ => none

/-- The character that hexadecimal digits name. -/
def hexChar? (digits : List Char) : Option Char :=
  if digits.all fun digit => (hexValue? digit).isSome then charOfHex? digits else none

/-- Reads the rest of a string in one line with escapes, up to and with its closing quote. -/
def readBasic? : List Char → Option (List Char × List Char)
  | [] => none
  | '"' :: rest => some ([], rest)
  | '\\' :: 'u' :: a :: b :: c :: d :: rest => do
    let named ← hexChar? [a, b, c, d]
    let (text, rest) ← readBasic? rest
    return (named :: text, rest)
  | '\\' :: 'U' :: a :: b :: c :: d :: e :: f :: g :: h :: rest => do
    let named ← hexChar? [a, b, c, d, e, f, g, h]
    let (text, rest) ← readBasic? rest
    return (named :: text, rest)
  | '\\' :: c :: rest => do
    let named ← simpleEscape? c
    let (text, rest) ← readBasic? rest
    return (named :: text, rest)
  | c :: rest =>
    if !isTextChar c || c == '\\' then none
    else (readBasic? rest).map fun (text, rest) => (c :: text, rest)

/-- Reads the rest of a string of several lines with escapes, up to and with its closing quotes,
before which two more may stand. After a backslash at the end of a line, `skipping` tells that
blanks and line ends are left out. -/
def readMultiline? (skipping : Bool) : List Char → Option (List Char × List Char)
  | [] => none
  | '"' :: '"' :: '"' :: '"' :: '"' :: rest => some (['"', '"'], rest)
  | '"' :: '"' :: '"' :: '"' :: rest => some (['"'], rest)
  | '"' :: '"' :: '"' :: rest => some ([], rest)
  | '\r' :: '\n' :: rest =>
    if skipping then readMultiline? true rest
    else (readMultiline? false rest).map fun (text, rest) => ('\n' :: text, rest)
  | '\\' :: 'u' :: a :: b :: c :: d :: rest => do
    let named ← hexChar? [a, b, c, d]
    let (text, rest) ← readMultiline? false rest
    return (named :: text, rest)
  | '\\' :: 'U' :: a :: b :: c :: d :: e :: f :: g :: h :: rest => do
    let named ← hexChar? [a, b, c, d, e, f, g, h]
    let (text, rest) ← readMultiline? false rest
    return (named :: text, rest)
  | '\\' :: c :: rest =>
    if (afterLineEnd? (skipBlanks (c :: rest))).isSome then readMultiline? true (c :: rest)
    else do
      let named ← simpleEscape? c
      let (text, rest) ← readMultiline? false rest
      return (named :: text, rest)
  | c :: rest =>
    if skipping && (isBlank c || c == '\n') then readMultiline? true rest
    else if (isTextChar c && c != '\\') || c == '\n' then
      (readMultiline? false rest).map fun (text, rest) => (c :: text, rest)
    else none

/-- Reads the rest of a string in one line without escapes, up to and with its closing quote. -/
def readLiteral? : List Char → Option (List Char × List Char)
  | [] => none
  | '\'' :: rest => some ([], rest)
  | c :: rest =>
    if isTextChar c then (readLiteral? rest).map fun (text, rest) => (c :: text, rest) else none

/-- Reads the rest of a string of several lines without escapes, up to and with its closing quotes,
before which two more may stand. -/
def readMultilineLiteral? : List Char → Option (List Char × List Char)
  | [] => none
  | '\'' :: '\'' :: '\'' :: '\'' :: '\'' :: rest => some (['\'', '\''], rest)
  | '\'' :: '\'' :: '\'' :: '\'' :: rest => some (['\''], rest)
  | '\'' :: '\'' :: '\'' :: rest => some ([], rest)
  | '\r' :: '\n' :: rest =>
    (readMultilineLiteral? rest).map fun (text, rest) => ('\n' :: text, rest)
  | c :: rest =>
    if isTextChar c || c == '\n' then
      (readMultilineLiteral? rest).map fun (text, rest) => (c :: text, rest)
    else none

/-- The text of a string of several lines from its first line on: a line end directly after the
opening quotes does not count. -/
def firstLine (text : List Char) : List Char :=
  (afterLineEnd? text).getD text

/-- Whether a character may stand in a key without quotes. -/
def isBareKeyChar (c : Char) : Bool :=
  c.isAlphanum || c == '_' || c == '-'

def readSimpleKey? : List Char → Option (String × List Char)
  | '"' :: rest => (readBasic? rest).map fun (text, rest) => (String.ofList text, rest)
  | '\'' :: rest => (readLiteral? rest).map fun (text, rest) => (String.ofList text, rest)
  | text =>
    match text.takeWhile isBareKeyChar with
    | [] => none
    | key => some (String.ofList key, text.dropWhile isBareKeyChar)

/-- Reads a key and the blanks around it; each part takes one step of the fuel. -/
def readKey? : Nat → List Char → Option (List String × List Char)
  | 0, _ => none
  | fuel + 1, text => do
    let (key, rest) ← readSimpleKey? (skipBlanks text)
    match skipBlanks rest with
    | '.' :: rest =>
      let (path, rest) ← readKey? fuel rest
      return (key :: path, rest)
    | rest => return ([key], rest)

/-- Whether a character may stand in a scalar without quotes. -/
def isScalarChar (c : Char) : Bool :=
  c.isAlphanum || c == '+' || c == '-' || c == '.' || c == ':' || c == '_'

/-- The scalar at the start of a text: a blank may stand between a day and a time. -/
def scalarLength (text : List Char) : Nat :=
  let length := (text.takeWhile isScalarChar).length
  match text.drop length with
  | ' ' :: rest =>
    let more := (rest.takeWhile isScalarChar).length
    if isDate (text.take length) && isDate (text.take (length + 1 + more)) then length + 1 + more
    else length
  | _ => length

def readScalar? (text : List Char) : Option (Value × List Char) :=
  let length := scalarLength text
  let scalar := text.take length
  let rest := text.drop length
  if scalar = "true".toList then some (.boolean true, rest)
  else if scalar = "false".toList then some (.boolean false, rest)
  else if isInteger scalar || isFloat scalar then some (.number, rest)
  else if isDate scalar then some (.date, rest)
  else none

mutual

/-- Reads a value. The fuel bounds the number of steps; no reading takes more than two for each
character. -/
def readValue? : Nat → List Char → Option (Value × List Char)
  | 0, _ => none
  | fuel + 1, text =>
    match text with
    | '"' :: '"' :: '"' :: rest => (readMultiline? false (firstLine rest)).map ofText
    | '"' :: rest => (readBasic? rest).map ofText
    | '\'' :: '\'' :: '\'' :: rest => (readMultilineLiteral? (firstLine rest)).map ofText
    | '\'' :: rest => (readLiteral? rest).map ofText
    | '[' :: rest => (readItems? fuel rest).map fun (items, rest) => (.array items, rest)
    | '{' :: rest =>
      match skipBlanks rest with
      | '}' :: rest => some (.table .inline [], rest)
      | rest => (readFields? fuel [] rest).map fun (entries, rest) => (.table .inline entries, rest)
    | text => readScalar? text
where
  /-- A string, its quotes taken. -/
  ofText : List Char × List Char → Value × List Char
    | (text, rest) => (.string (String.ofList text), rest)

/-- Reads the items of an array and the bracket after them; a comma may stand after the last. -/
def readItems? : Nat → List Char → Option (List Value × List Char)
  | 0, _ => none
  | fuel + 1, text =>
    match skipFiller false text with
    | ']' :: rest => some ([], rest)
    | text => do
      let (item, rest) ← readValue? fuel text
      match skipFiller false rest with
      | ',' :: rest =>
        let (others, rest) ← readItems? fuel rest
        return (item :: others, rest)
      | ']' :: rest => return ([item], rest)
      | _ => none

/-- Reads the fields of a table in one line after those read already, and the brace after them. -/
def readFields? : Nat → Entries → List Char → Option (Entries × List Char)
  | 0, _, _ => none
  | fuel + 1, entries, text => do
    let (path, rest) ← readKey? (text.length + 1) text
    match rest with
    | '=' :: rest =>
      let (value, rest) ← readValue? fuel (skipBlanks rest)
      let entries ← entries.addValue value path
      match skipBlanks rest with
      | ',' :: rest => readFields? fuel entries rest
      | '}' :: rest => return (entries, rest)
      | _ => none
    | _ => none

end

/-- A document as far as it is read: its entries, and the path of the table whose header stands
last. -/
structure Document where
  entries : Entries
  path : List String

namespace Document

/-- Reads the rest of a header, up to its end, and starts the table it defines. -/
def readHeader? (document : Document) (add : String → Entries → Option Entries)
    (closing : List Char) (text : List Char) : Option (Document × List Char) := do
  let (path, rest) ← readKey? (text.length + 1) text
  let rest ← closing.isPrefixOf? rest
  let key ← path.getLast?
  let entries ← document.entries.within (add key) path.dropLast
  return (⟨entries, path⟩, rest)

/-- Reads what a line holds: nothing, a header, or a key and its value. A value may end in a later
line. -/
def readLine? (document : Document) (text : List Char) : Option (Document × List Char) :=
  match skipBlanks text with
  | '[' :: '[' :: rest => document.readHeader? Entries.addTableItem [']', ']'] rest
  | '[' :: rest => document.readHeader? Entries.addTable [']'] rest
  | rest =>
    if (afterLine? rest).isSome then some (document, rest)
    else do
      let (path, rest) ← readKey? (rest.length + 1) rest
      match rest with
      | '=' :: rest =>
        let (value, rest) ← readValue? (2 * rest.length + 1) (skipBlanks rest)
        let entries ← document.entries.within (Entries.addValue value path) document.path
        return (⟨entries, document.path⟩, rest)
      | _ => none

/-- Reads lines to the end of a text; each takes one step of the fuel. -/
def readLines? : Nat → Document → List Char → Option Document
  | 0, _, _ => none
  | fuel + 1, document, text =>
    if text.isEmpty then some document
    else do
      let (document, rest) ← document.readLine? text
      readLines? fuel document (← afterLine? rest)

end Document

/-- Reads a document, which may start with a byte order mark. -/
def read? (text : List Char) : Option Entries :=
  let text :=
    match text with
    | '\ufeff' :: rest => rest
    | text => text
  (Document.readLines? (text.length + 1) ⟨[], []⟩ text).map (·.entries)

end TypeSchema.Toml
