/-!
Numerals: the decimal numbers and lengths that a directive may carry. A number is kept as it is
written once it is known to be one that a binary floating-point number of 64 bits can hold.
-/

namespace TypeSchema.Text

def digitValue (c : Char) : Nat :=
  c.toNat - '0'.toNat

/-- The number that decimal digits continue from `value`. -/
def decimalFrom (value : Nat) : List Char → Nat
  | [] => value
  | c :: rest => decimalFrom (10 * value + digitValue c) rest

def decimalValue (digits : List Char) : Nat :=
  decimalFrom 0 digits

/-- The parts of a decimal numeral: sign, digits before and after the point, and exponent. -/
structure Decimal where
  negative : Bool
  whole : List Char
  fraction : List Char
  exponent : Int

namespace Decimal

/-- The digits of a numeral, the point left out. -/
def significand (d : Decimal) : Nat :=
  decimalValue (d.whole ++ d.fraction)

/-- The power of ten by which the significand is multiplied. -/
def scale (d : Decimal) : Int :=
  d.exponent - d.fraction.length

/-- The least number that rounds to infinity: halfway between the greatest finite binary number
of 64 bits and the power of two after it. -/
def overflowBound : Nat :=
  Nat.pow 2 1024 - Nat.pow 2 970

/-- Whether the size of a numeral stays under the bound. Numerals whose count of digits already
decides the question are settled without their powers of ten. -/
def isFinite (d : Decimal) : Bool :=
  let digits := (Nat.toDigits 10 d.significand).length
  if d.significand = 0 then true
  else if digits + d.scale ≤ 308 then true
  else if digits + d.scale > 310 then false
  else if 0 ≤ d.scale then d.significand * Nat.pow 10 d.scale.toNat < overflowBound
  else d.significand < overflowBound * Nat.pow 10 (-d.scale).toNat

end Decimal

def readSign : List Char → Bool × List Char
  | '-' :: rest => (true, rest)
  | '+' :: rest => (false, rest)
  | text => (false, text)

def readDigits (text : List Char) : List Char × List Char :=
  (text.takeWhile Char.isDigit, text.dropWhile Char.isDigit)

/-- Reads the exponent that ends a numeral; none is zero. -/
def readExponent? : List Char → Option Int
  | [] => some 0
  | e :: rest =>
    if e = 'e' ∨ e = 'E' then
      let (negative, text) := readSign rest
      let (digits, after) := readDigits text
      if digits.isEmpty || !after.isEmpty then none
      else some (if negative then -(decimalValue digits : Int) else decimalValue digits)
    else none

/-- Reads a decimal numeral: an optional sign, digits with an optional point among or beside them,
and an optional exponent. -/
def readDecimal? (text : List Char) : Option Decimal :=
  let (negative, unsigned) := readSign text
  let (whole, afterWhole) := readDigits unsigned
  let (fraction, afterFraction) :=
    match afterWhole with
    | '.' :: rest => readDigits rest
    | rest => ([], rest)
  if whole.isEmpty && fraction.isEmpty then none
  else (readExponent? afterFraction).map fun exponent => { negative, whole, fraction, exponent }

def isFiniteNumeral (text : List Char) : Bool :=
  (readDecimal? text).any Decimal.isFinite

/-- The greatest length that can be asked for. -/
def maxLength : Nat :=
  Nat.pow 2 64 - 1

/-- Reads a length: an optional plus sign and digits, of value at most `maxLength`. -/
def readLength? (text : List Char) : Option Nat :=
  let digits := dropPlus text
  if digits.isEmpty || !digits.all Char.isDigit then none
  else if decimalValue digits ≤ maxLength then some (decimalValue digits)
  else none
where
  /-- A text without the plus sign it starts with. -/
  dropPlus : List Char → List Char
    | '+' :: rest => rest
    | text => text

end TypeSchema.Text
