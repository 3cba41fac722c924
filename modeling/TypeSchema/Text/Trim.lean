import TypeSchema.Unicode.Blank

/-!
Cutting a text at white space and at line ends.
-/

namespace TypeSchema.Text

open Unicode

def trimStart (text : List Char) : List Char :=
  text.dropWhile isBlank

def trimEnd (text : List Char) : List Char :=
  (text.reverse.dropWhile isBlank).reverse

def trim (text : List Char) : List Char :=
  trimEnd (trimStart text)

def dropStart (start text : List Char) : List Char :=
  (start.isPrefixOf? text).getD text

def dropEnd (ending text : List Char) : List Char :=
  (ending.isSuffixOf? text).getD text

/-- The lines of a text. A line ends at a line feed, together with one carriage return before it;
a carriage return alone ends nothing, and an empty last line is no line. -/
def lines : List Char → List (List Char)
  | [] => []
  | '\n' :: rest => [] :: lines rest
  | '\r' :: '\n' :: rest => [] :: lines rest
  | c :: rest =>
    match lines rest with
    | [] => [[c]]
    | line :: others => (c :: line) :: others

/-- What stands before the first white space, and what stands after that one character; nothing
stands after it if there is none. -/
def splitAtBlank (text : List Char) : List Char × List Char :=
  (text.takeWhile (!isBlank ·), (text.dropWhile (!isBlank ·)).drop 1)

end TypeSchema.Text
