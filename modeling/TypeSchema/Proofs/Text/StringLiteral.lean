import TypeSchema.Text.Escape

/-!
String literals of the language, and what they stand for: a sequence of 16-bit code units, in which
two surrogates make one character wherever they come from. The main statement tells for which
literals resolving escape sequences gives their value: for all without a hexadecimal escape of two
digits, without an escaped surrogate, and without a line continued otherwise than by a line feed.
-/

namespace TypeSchema

namespace StringLiteral

open Text

/-- What is said of the characters of a list is decided by going through the list, and not through
all characters. -/
local instance (priority := 1100) decidableForallMem (p : Char → Prop) [DecidablePred p]
    (text : List Char) : Decidable (∀ c ∈ text, p c) :=
  List.decidableBAll p text

/-! Code units. -/

/-- The code units of a code point. From 65536 on these are two surrogates. -/
def codeUnits (point : Nat) : List Nat :=
  if point < 0x10000 then [point]
  else [0xd800 + (point - 0x10000) / 0x400, 0xdc00 + (point - 0x10000) % 0x400]

def isSurrogate (unit : Nat) : Bool :=
  0xd800 ≤ unit && unit ≤ 0xdfff

/-- The code units of a text. -/
def utf16 (text : List Char) : List Nat :=
  text.flatMap fun c => codeUnits c.toNat

theorem utf16_append (first second : List Char) :
    utf16 (first ++ second) = utf16 first ++ utf16 second :=
  List.flatMap_append

theorem codeUnits_length_pos (point : Nat) : 0 < (codeUnits point).length := by
  unfold codeUnits
  split <;> exact Nat.succ_pos _

theorem length_le_utf16 (text : List Char) : text.length ≤ (utf16 text).length := by
  induction text with
  | nil => exact Nat.le_refl 0
  | cons c rest induction =>
      have unit := codeUnits_length_pos c.toNat
      rw [utf16, List.flatMap_cons, List.length_append, List.length_cons]
      rw [utf16] at induction
      omega

theorem utf16_cons_ne_nil (c : Char) (text : List Char) : utf16 (c :: text) ≠ [] := by
  have least := length_le_utf16 (c :: text)
  exact List.ne_nil_of_length_pos (Nat.lt_of_lt_of_le (Nat.succ_pos text.length) least)

theorem toNat_valid (c : Char) : c.toNat < 0xd800 ∨ 0xdfff < c.toNat ∧ c.toNat < 0x110000 :=
  c.valid

theorem codeUnits_cancel {c d : Char} {rest others : List Nat}
    (same : codeUnits c.toNat ++ rest = codeUnits d.toNat ++ others) : c = d ∧ rest = others := by
  have first := toNat_valid c
  have second := toNat_valid d
  suffices equal : c.toNat = d.toNat ∧ rest = others from ⟨Char.toNat_inj.mp equal.1, equal.2⟩
  unfold codeUnits at same
  split at same <;> split at same <;>
    simp only [List.cons_append, List.nil_append, List.cons.injEq] at same
  · exact same
  · omega
  · omega
  · exact ⟨by omega, same.2.2⟩

theorem utf16_injective {first second : List Char} (same : utf16 first = utf16 second) :
    first = second := by
  induction first generalizing second with
  | nil =>
      cases second with
      | nil => rfl
      | cons d second => exact absurd same.symm (utf16_cons_ne_nil d second)
  | cons c first induction =>
      cases second with
      | nil => exact absurd same (utf16_cons_ne_nil c first)
      | cons d second =>
          rw [utf16, utf16, List.flatMap_cons, List.flatMap_cons] at same
          obtain ⟨rfl, rests⟩ := codeUnits_cancel same
          rw [induction rests]

/-! The parts of a literal. -/

/-- Hexadecimal digits. -/
def digitChars : List Char :=
  "0123456789abcdefABCDEF".toList

def digitValue (c : Char) : Nat :=
  "0123456789abcdef".toList.idxOf c.toLower

/-- The number that hexadecimal digits denote. -/
def digitsValue (digits : List Char) : Nat :=
  digits.foldl (fun value c => 16 * value + digitValue c) 0

/-- The line ends after which a line may be continued. -/
def lineEnds : List (List Char) :=
  [['\n'], ['\r'], ['\r', '\n'], ['\u2028'], ['\u2029']]

/-- The characters that a backslash does not make stand for themselves, and what they stand for
after it. -/
def controls : List (Char × Char) :=
  [('b', '\x08'), ('t', '\t'), ('n', '\n'), ('v', '\x0b'), ('f', '\x0c'), ('r', '\r')]

/-- A part of what stands between the marks of a literal. -/
inductive Part where
  /-- A character that stands for itself. -/
  | plain (c : Char)
  /-- A backslash and a character. -/
  | single (c : Char)
  /-- A backslash and a zero. -/
  | null
  /-- `\x` and two digits. -/
  | byte (first second : Char)
  /-- `\u` and four digits. -/
  | unit (first second third fourth : Char)
  /-- `\u` and digits in braces. -/
  | point (digits : List Char)
  /-- A backslash and the end of a line. -/
  | continuation (lineEnd : List Char)

namespace Part

def text : Part → List Char
  | plain c => [c]
  | single c => ['\\', c]
  | null => ['\\', '0']
  | byte first second => ['\\', 'x', first, second]
  | unit first second third fourth => ['\\', 'u', first, second, third, fourth]
  | point digits => '\\' :: 'u' :: '{' :: digits ++ ['}']
  | continuation lineEnd => '\\' :: lineEnd

/-- Whether a part may stand in a literal between two of these marks. -/
def Allowed (mark : Char) : Part → Prop
  | plain c => c ≠ mark ∧ c ∉ ['\\', '\n', '\r']
  | single c => c ∉ "0123456789xu\n\r\u2028\u2029".toList
  | null => True
  | byte first second => ∀ c ∈ [first, second], c ∈ digitChars
  | unit first second third fourth => ∀ c ∈ [first, second, third, fourth], c ∈ digitChars
  | point digits => digits ≠ [] ∧ (∀ c ∈ digits, c ∈ digitChars) ∧ digitsValue digits ≤ 0x10ffff
  | continuation lineEnd => lineEnd ∈ lineEnds

instance (mark : Char) : DecidablePred (Allowed mark)
  | plain c => inferInstanceAs (Decidable (c ≠ mark ∧ c ∉ ['\\', '\n', '\r']))
  | single c => inferInstanceAs (Decidable (c ∉ "0123456789xu\n\r\u2028\u2029".toList))
  | null => inferInstanceAs (Decidable True)
  | byte first second => inferInstanceAs (Decidable (∀ c ∈ [first, second], c ∈ digitChars))
  | unit first second third fourth =>
    inferInstanceAs (Decidable (∀ c ∈ [first, second, third, fourth], c ∈ digitChars))
  | point digits => inferInstanceAs (Decidable
      (digits ≠ [] ∧ (∀ c ∈ digits, c ∈ digitChars) ∧ digitsValue digits ≤ 0x10ffff))
  | continuation lineEnd => inferInstanceAs (Decidable (lineEnd ∈ lineEnds))

/-- The code units that a part stands for. -/
def units : Part → List Nat
  | plain c => codeUnits c.toNat
  | single c => codeUnits ((controls.lookup c).getD c).toNat
  | null => [0]
  | byte first second => [digitsValue [first, second]]
  | unit first second third fourth => [digitsValue [first, second, third, fourth]]
  | point digits => codeUnits (digitsValue digits)
  | continuation _ => []

/-- Whether a part is resolved. -/
def isResolved : Part → Bool
  | byte _ _ => false
  | unit first second third fourth => !isSurrogate (digitsValue [first, second, third, fourth])
  | point digits => !isSurrogate (digitsValue digits)
  | continuation lineEnd => lineEnd = ['\n']
  | _ => true

end Part

/-- The text of parts. -/
def written (parts : List Part) : List Char :=
  parts.flatMap Part.text

/-- What may stand between two of these marks. No digit follows `\0`. -/
inductive Body (mark : Char) : List Part → Prop
  | nil : Body mark []
  | cons {part : Part} {parts : List Part} (allowed : part.Allowed mark)
      (ends : part = .null → ∀ c ∈ (written parts).head?, c.isDigit = false)
      (more : Body mark parts) : Body mark (part :: parts)

theorem Body.each {mark : Char} {parts : List Part} (body : Body mark parts) :
    ∀ part ∈ parts, part.Allowed mark := by
  induction body with
  | nil => exact List.forall_mem_nil _
  | cons allowed _ _ induction => exact List.forall_mem_cons.mpr ⟨allowed, induction⟩

/-! Digits. -/

theorem hexValue_eq : ∀ c ∈ digitChars, hexValue? c = some (digitValue c) := by decide

theorem digitValue_lt : ∀ c ∈ digitChars, digitValue c < 16 := by decide

theorem digitChars_apart : ∀ c ∈ digitChars, c ≠ '+' ∧ c ≠ '\\' ∧ c ≠ '\x7b' ∧ c ≠ '\x7d' := by
  decide

theorem isValidChar_iff {value : Nat} (bounded : value ≤ 0x10ffff) :
    value.isValidChar ↔ isSurrogate value = false := by
  simp only [Nat.isValidChar, isSurrogate, Bool.and_eq_false_iff, decide_eq_false_iff_not]
  omega

section

variable {digits : List Char} (isDigits : ∀ c ∈ digits, c ∈ digitChars)

include isDigits

theorem hexFrom_eq (value : Nat) :
    hexFrom? value digits = some (digits.foldl (fun value c => 16 * value + digitValue c) value) := by
  induction digits generalizing value with
  | nil => rfl
  | cons c rest induction =>
      obtain ⟨first, more⟩ := List.forall_mem_cons.mp isDigits
      rw [hexFrom?, hexValue_eq c first]
      exact induction more _

theorem hexNumber_eq (nonempty : digits ≠ []) : hexNumber? digits = some (digitsValue digits) := by
  cases digits with
  | nil => exact absurd rfl nonempty
  | cons c rest =>
      have unsigned := (digitChars_apart c (isDigits c List.mem_cons_self)).1
      unfold hexNumber?
      split
      next same => cases same
      next same => exact absurd (List.cons.inj same).1 unsigned
      next same => exact absurd (List.cons.inj same).1 unsigned
      next => exact hexFrom_eq isDigits 0

/-- Digits that name a character are resolved to it, and digits that name a surrogate are kept. -/
theorem resolveUnicode_eq (nonempty : digits ≠ []) (bounded : digitsValue digits ≤ 0x10ffff) :
    (isSurrogate (digitsValue digits) = false ∧
      utf16 (resolveUnicode digits) = codeUnits (digitsValue digits)) ∨
    (isSurrogate (digitsValue digits) = true ∧ resolveUnicode digits = '\\' :: 'u' :: digits) := by
  unfold resolveUnicode charOfHex?
  rw [hexNumber_eq isDigits nonempty, Option.bind_some]
  generalize digitsValue digits = value at bounded
  cases scalar : isSurrogate value with
  | false =>
      refine .inl ⟨rfl, ?_⟩
      rw [dif_pos ((isValidChar_iff bounded).mpr scalar)]
      exact List.append_nil (codeUnits value)
  | true =>
      have invalid : ¬value.isValidChar := by
        rw [isValidChar_iff bounded, scalar]
        exact Bool.noConfusion
      refine .inr ⟨rfl, ?_⟩
      rw [dif_neg invalid]

end

/-! Reading a literal. -/

/-- What reading a part gives. -/
def Part.read : Part → List Char
  | plain c => [c]
  | single c => [(controls.lookup c).getD c]
  | null => ['\x00']
  | byte first second => ['x', first, second]
  | unit first second third fourth => resolveUnicode [first, second, third, fourth]
  | point digits => resolveUnicode digits
  | continuation lineEnd => if lineEnd = ['\n'] then [] else lineEnd

theorem resolveSimple_eq {c : Char} (allowed : c ∉ "0123456789xu\n\r\u2028\u2029".toList) :
    resolveSimple c = [(controls.lookup c).getD c] := by
  unfold resolveSimple
  split
  case h_7 => exact absurd (by decide) allowed
  case h_8 => exact absurd (by decide) allowed
  case h_9 n r t b f v _ _ =>
    have apart : controls.lookup c = none := by
      refine List.lookup_eq_none_iff.mpr ?_
      simp only [controls, List.forall_mem_cons, bne_iff_ne]
      exact ⟨b, t, n, v, f, r, List.forall_mem_nil _⟩
    rw [apart, Option.getD_none]
  all_goals rfl

theorem unescape_braced {digits : List Char} (isDigits : ∀ c ∈ digits, c ∈ digitChars)
    (before rest : List Char) :
    unescapeFrom (.braced before) (digits ++ '\x7d' :: rest) =
      resolveUnicode (before.reverse ++ digits) ++ unescapeFrom .plain rest := by
  induction digits generalizing before with
  | nil => rw [List.nil_append, unescapeFrom, if_pos rfl, List.append_nil]
  | cons c digits induction =>
      obtain ⟨first, more⟩ := List.forall_mem_cons.mp isDigits
      have inside := (digitChars_apart c first).2.2.2
      rw [List.cons_append, unescapeFrom, if_neg inside, induction more, List.reverse_cons,
        List.append_assoc, List.singleton_append]

theorem unescape_text {mark : Char} {part : Part} (allowed : part.Allowed mark)
    (rest : List Char) :
    unescapeFrom .plain (part.text ++ rest) = part.read ++ unescapeFrom .plain rest := by
  cases part with
  | plain c =>
      have plain : c ≠ '\\' := fun same => allowed.2 (by rw [same]; decide)
      rw [Part.text, List.singleton_append, unescapeFrom, if_neg plain]
      rfl
  | single c =>
      have named : c ≠ 'u' := fun same => allowed (by rw [same]; decide)
      rw [Part.text, Part.read, ← resolveSimple_eq allowed]
      exact if_neg named
  | null => rfl
  | byte first second =>
      obtain ⟨firstDigit, others⟩ := List.forall_mem_cons.mp allowed
      have firstPlain := (digitChars_apart first firstDigit).2.1
      have secondPlain := (digitChars_apart second (List.forall_mem_singleton.mp others)).2.1
      show 'x' :: unescapeFrom .plain (first :: second :: rest) = _
      rw [unescapeFrom, if_neg firstPlain, unescapeFrom, if_neg secondPlain]
      rfl
  | unit first second third fourth =>
      have notBrace := (digitChars_apart first (allowed first List.mem_cons_self)).2.2.1
      exact if_neg notBrace
  | point digits =>
      have read := unescape_braced allowed.2.1 [] rest
      rw [Part.text, List.append_assoc]
      exact read
  | continuation lineEnd =>
      simp only [Part.Allowed, lineEnds, List.mem_cons, List.not_mem_nil, or_false] at allowed
      rcases allowed with rfl | rfl | rfl | rfl | rfl <;> rfl

theorem unescape_written {parts : List Part} {mark : Char}
    (each : ∀ part ∈ parts, part.Allowed mark) :
    unescape (written parts) = parts.flatMap Part.read := by
  induction parts with
  | nil => rfl
  | cons part parts induction =>
      obtain ⟨allowed, othersAllowed⟩ := List.forall_mem_cons.mp each
      rw [unescape] at induction ⊢
      rw [written, List.flatMap_cons, unescape_text allowed, List.flatMap_cons]
      exact congrArg (part.read ++ ·) (induction othersAllowed)

/-! What is read and what is meant. -/

theorem digitsValue_lt {first second third fourth : Char}
    (isDigits : ∀ c ∈ [first, second, third, fourth], c ∈ digitChars) :
    digitsValue [first, second, third, fourth] < 0x10000 := by
  have bounds : ∀ c ∈ [first, second, third, fourth], digitValue c < 16 :=
    fun c listed => digitValue_lt c (isDigits c listed)
  simp only [List.forall_mem_cons] at bounds
  simp only [digitsValue, List.foldl_cons, List.foldl_nil]
  omega

theorem codeUnits_of_lt {point : Nat} (small : point < 0x10000) : codeUnits point = [point] :=
  if_pos small

theorem utf16_read {mark : Char} {part : Part} (allowed : part.Allowed mark)
    (resolved : part.isResolved = true) : utf16 part.read = part.units := by
  cases part with
  | plain c => exact List.append_nil _
  | single c => exact List.append_nil _
  | null => rfl
  | byte first second => cases resolved
  | unit first second third fourth =>
      have small := digitsValue_lt allowed
      rcases resolveUnicode_eq allowed (List.cons_ne_nil _ _) (by omega) with
        ⟨-, value⟩ | ⟨surrogate, -⟩
      · exact value.trans (codeUnits_of_lt small)
      · simp [Part.isResolved, surrogate] at resolved
  | point digits =>
      rcases resolveUnicode_eq allowed.2.1 allowed.1 allowed.2.2 with ⟨-, value⟩ | ⟨surrogate, -⟩
      · exact value
      · simp [Part.isResolved, surrogate] at resolved
  | continuation lineEnd =>
      obtain rfl : lineEnd = ['\n'] := of_decide_eq_true resolved
      rfl

/-- What is not resolved is read as too many code units. -/
theorem units_length_lt {mark : Char} {part : Part} (allowed : part.Allowed mark)
    (kept : part.isResolved = false) : part.units.length < (utf16 part.read).length := by
  refine Nat.lt_of_lt_of_le ?_ (length_le_utf16 part.read)
  cases part with
  | plain c => cases kept
  | single c => cases kept
  | null => cases kept
  | byte first second => exact (by decide : 1 < 3)
  | unit first second third fourth =>
      have small := digitsValue_lt allowed
      rcases resolveUnicode_eq allowed (List.cons_ne_nil _ _) (by omega) with
        ⟨scalar, -⟩ | ⟨-, value⟩
      · simp [Part.isResolved, scalar] at kept
      · rw [Part.read, value]
        exact (by decide : 1 < 6)
  | point digits =>
      rcases resolveUnicode_eq allowed.2.1 allowed.1 allowed.2.2 with ⟨scalar, -⟩ | ⟨surrogate, value⟩
      · simp [Part.isResolved, scalar] at kept
      · have small : digitsValue digits < 0x10000 := by
          simp only [isSurrogate, Bool.and_eq_true, decide_eq_true_eq] at surrogate
          omega
        rw [Part.read, value, Part.units, codeUnits_of_lt small]
        simp
  | continuation lineEnd =>
      simp only [Part.Allowed, lineEnds, List.mem_cons, List.not_mem_nil, or_false] at allowed
      rcases allowed with rfl | rfl | rfl | rfl | rfl
      · cases kept
      all_goals decide

theorem utf16_flatMap_read {mark : Char} {parts : List Part}
    (each : ∀ part ∈ parts, part.Allowed mark)
    (resolved : ∀ part ∈ parts, part.isResolved = true) :
    utf16 (parts.flatMap Part.read) = parts.flatMap Part.units := by
  induction parts with
  | nil => rfl
  | cons part parts induction =>
      obtain ⟨allowed, othersAllowed⟩ := List.forall_mem_cons.mp each
      obtain ⟨head, tail⟩ := List.forall_mem_cons.mp resolved
      rw [List.flatMap_cons, utf16_append, utf16_read allowed head, induction othersAllowed tail,
        List.flatMap_cons]

/-- Every part that is not resolved makes what is read longer. -/
theorem units_length_add_le {mark : Char} {parts : List Part}
    (each : ∀ part ∈ parts, part.Allowed mark) :
    (parts.flatMap Part.units).length + parts.countP (!·.isResolved) ≤
      (utf16 (parts.flatMap Part.read)).length := by
  induction parts with
  | nil => exact Nat.le_refl 0
  | cons part parts induction =>
      obtain ⟨allowed, othersAllowed⟩ := List.forall_mem_cons.mp each
      have others := induction othersAllowed
      rw [List.flatMap_cons, List.flatMap_cons, utf16_append, List.length_append,
        List.length_append]
      cases resolved : part.isResolved with
      | true =>
          have same := congrArg List.length (utf16_read allowed resolved)
          rw [List.countP_cons_of_neg (by simp [resolved])]
          omega
      | false =>
          have longer := units_length_lt allowed resolved
          rw [List.countP_cons_of_pos (by simp [resolved])]
          omega

/-- Resolving the escape sequences of a literal gives the text that the literal stands for exactly
when all of its parts are resolved. -/
theorem unescape_eq_iff {mark : Char} {parts : List Part} (body : Body mark parts)
    {value : List Char} (stands : utf16 value = parts.flatMap Part.units) :
    unescape (written parts) = value ↔ ∀ part ∈ parts, part.isResolved = true := by
  rw [unescape_written body.each]
  constructor
  · intro same
    have lengths := units_length_add_le body.each
    rw [same, stands] at lengths
    have none : parts.countP (!·.isResolved) = 0 := by omega
    intro part listed
    simpa using List.countP_eq_zero.mp none part listed
  · intro resolved
    exact utf16_injective ((utf16_flatMap_read body.each resolved).trans stands.symm)

/-- A literal with a part of each kind, all of them resolved. -/
theorem unescape_resolved_parts :
    ∃ parts value, Body '"' parts ∧ utf16 value = parts.flatMap Part.units ∧
      written parts = "'\\n\\u00e9\\\n\\u\x7b1F600\x7d\\0".toList ∧
      value = "'\né😀\x00".toList ∧ unescape (written parts) = value := by
  have body : Body '"' [.plain '\'', .single 'n', .unit '0' '0' 'e' '9', .continuation ['\n'],
      .point ['1', 'F', '6', '0', '0'], .null] :=
    .cons (by decide) nofun <| .cons (by decide) nofun <| .cons (by decide) nofun <|
      .cons (by decide) nofun <| .cons (by decide) nofun <| .cons (by decide) (fun _ => nofun) .nil
  have stands : utf16 "'\né😀\x00".toList = _ := rfl
  refine ⟨_, _, body, stands, by decide, rfl, (unescape_eq_iff body stands).mpr (by decide)⟩

/-- A literal with a part of each kind that is not resolved: an escape of two digits, the surrogates
of one character, and a line continued by a carriage return. -/
theorem unescape_kept_parts :
    ∃ parts, Body '"' parts ∧ utf16 "A😀".toList = parts.flatMap Part.units ∧
      written parts = "\\x41\\ud83d\\ude00\\\r".toList ∧
      unescape (written parts) = "x41\\ud83d\\ude00\r".toList ∧
      unescape (written parts) ≠ "A😀".toList := by
  have body : Body '"' [.byte '4' '1', .unit 'd' '8' '3' 'd', .unit 'd' 'e' '0' '0',
      .continuation ['\r']] :=
    .cons (by decide) nofun <| .cons (by decide) nofun <| .cons (by decide) nofun <|
      .cons (by decide) nofun .nil
  refine ⟨_, body, ?_, ?_, ?_, ?_⟩ <;> decide

end StringLiteral

end TypeSchema
