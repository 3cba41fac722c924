import TypeSchema.Text.Escape
import TypeSchema.Text.Numeral

/-!
The scalars of TOML that are written without quotes: numbers and dates.
-/

namespace TypeSchema.Toml

open Text

/-- Whether a text is made of digits of some sort, single underscores between them allowed. -/
def isDigitRun (isDigit : Char → Bool) : List Char → Bool
  | [] => false
  | [c] => isDigit c
  | c :: '_' :: rest => isDigit c && isDigitRun isDigit rest
  | c :: rest => isDigit c && isDigitRun isDigit rest

/-- Whether a text is a whole decimal number without sign, which starts with zero only if it is
zero. -/
def isWhole (text : List Char) : Bool :=
  isDigitRun Char.isDigit text && (text.head? != some '0' || text.length == 1)

/-- The number that digits of a base continue from `value`, underscores among them skipped. -/
def valueFrom (base value : Nat) : List Char → Nat
  | [] => value
  | c :: rest => valueFrom base ((hexValue? c).elim value (base * value + ·)) rest

/-- The greatest integer there is, and one less than how far below zero they go. -/
def maxInteger : Nat :=
  Nat.pow 2 63 - 1

def isUpTo (bound base : Nat) (digits : List Char) : Bool :=
  valueFrom base 0 digits ≤ bound

/-- Whether a text is an integer that fits 64 bits with a sign. -/
def isInteger : List Char → Bool
  | '0' :: 'x' :: digits =>
    isDigitRun (fun c => (hexValue? c).isSome) digits && isUpTo maxInteger 16 digits
  | '0' :: 'o' :: digits =>
    isDigitRun (fun c => '0' ≤ c ∧ c ≤ '7') digits && isUpTo maxInteger 8 digits
  | '0' :: 'b' :: digits =>
    isDigitRun (fun c => c = '0' ∨ c = '1') digits && isUpTo maxInteger 2 digits
  | '-' :: digits => isWhole digits && isUpTo (maxInteger + 1) 10 digits
  | '+' :: digits => isWhole digits && isUpTo maxInteger 10 digits
  | digits => isWhole digits && isUpTo maxInteger 10 digits

/-- The parts of a text before and after the first character of some sort, if it has one. -/
def splitAt? (p : Char → Bool) (text : List Char) : Option (List Char × List Char) :=
  match text.dropWhile (!p ·) with
  | [] => none
  | _ :: rest => some (text.takeWhile (!p ·), rest)

def dropSign (text : List Char) : List Char :=
  (readSign text).2

/-- Whether a text is a number with a point or an exponent, or one of the special numbers. -/
def isFloat (text : List Char) : Bool :=
  let unsigned := dropSign text
  if unsigned = "inf".toList ∨ unsigned = "nan".toList then true
  else
    match splitAt? (fun c => c = 'e' ∨ c = 'E') unsigned with
    | some (significand, exponent) =>
      isDigitRun Char.isDigit (dropSign exponent) &&
        (isWhole significand || isPointed significand)
    | none => isPointed unsigned
where
  /-- Whether a text is a number with a point, and digits on both sides of it. -/
  isPointed (text : List Char) : Bool :=
    (splitAt? (· = '.') text).any fun (whole, fraction) =>
      isWhole whole && isDigitRun Char.isDigit fraction

/-- The number that two digits denote, if it is in a range. -/
def isTwoDigits (low high : Nat) (a b : Char) : Bool :=
  a.isDigit && b.isDigit && low ≤ decimalValue [a, b] && decimalValue [a, b] ≤ high

/-- Whether a year has a 29th of February. -/
def isLeap (year : Nat) : Bool :=
  year % 4 == 0 && (year % 100 != 0 || year % 400 == 0)

def daysIn (year month : Nat) : Nat :=
  if month = 2 then if isLeap year then 29 else 28
  else if month = 4 ∨ month = 6 ∨ month = 9 ∨ month = 11 then 30
  else 31

/-- What follows a day of the calendar at the start of a text. -/
def afterDay? : List Char → Option (List Char)
  | a :: b :: c :: d :: '-' :: e :: f :: '-' :: g :: h :: rest =>
    if [a, b, c, d].all Char.isDigit && isTwoDigits 1 12 e f &&
        isTwoDigits 1 (daysIn (decimalValue [a, b, c, d]) (decimalValue [e, f])) g h
    then some rest
    else none
  | _ => none

/-- What follows a time of day at the start of a text. -/
def afterTime? : List Char → Option (List Char)
  | a :: b :: ':' :: c :: d :: ':' :: e :: f :: rest =>
    if isTwoDigits 0 23 a b && isTwoDigits 0 59 c d && isTwoDigits 0 60 e f then
      match rest with
      | '.' :: rest =>
        if (readDigits rest).1.isEmpty then none else some (readDigits rest).2
      | rest => some rest
    else none
  | _ => none

/-- Whether a text is the distance of a zone from universal time, or empty. -/
def isZone : List Char → Bool
  | [] => true
  | ['Z'] => true
  | ['z'] => true
  | [sign, a, b, ':', c, d] =>
    (sign = '+' ∨ sign = '-') && isTwoDigits 0 23 a b && isTwoDigits 0 59 c d
  | _ => false

/-- Whether a text is a day, a time or both. -/
def isDate (text : List Char) : Bool :=
  match afterDay? text with
  | some [] => true
  | some (separator :: rest) =>
    (separator = 'T' ∨ separator = 't' ∨ separator = ' ') && (afterTime? rest).any isZone
  | none => afterTime? text == some []

end TypeSchema.Toml
