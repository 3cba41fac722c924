import Mathlib.Data.List.Basic
import TypeSchema.Proofs.Name

/-!
What camel case keeps of a name. Of a name in ASCII it keeps the letters and digits in lower case, and
which of the letters begin a word after the first: names that share these are written the same way,
and no others are.
-/

namespace TypeSchema.Name

open Text Unicode

def IsAscii (text : List Char) : Prop :=
  ∀ c ∈ text, c.toNat < 128

instance (text : List Char) : Decidable (IsAscii text) :=
  -- by the characters of the text, not by all that there are, which are finitely many as well
  List.decidableBAll (fun c : Char => c.toNat < 128) text

/-- A letter or digit in lower case, and whether it is written as a capital. -/
structure Hump where
  letter : Char
  capital : Bool
deriving DecidableEq

namespace Hump

def write (hump : Hump) : Char :=
  if hump.capital then hump.letter.toUpper else hump.letter

def read (c : Char) : Hump :=
  ⟨c.toLower, c.isUpper⟩

/-- A character that begins no word, or the first. -/
def low (c : Char) : Hump :=
  ⟨c.toLower, false⟩

/-- A character that begins a word after the first. A digit has no capital. -/
def high (c : Char) : Hump :=
  ⟨c.toLower, c.isAlpha⟩

variable {c : Char}

theorem write_high (ascii : c.toNat < 128) : (high c).write = c.toLower.toUpper :=
  ascii_forall (p := fun c => (high c).write = c.toLower.toUpper) (by decide +kernel) ascii

theorem read_write_low (ascii : c.toNat < 128) : read (low c).write = low c :=
  ascii_forall (p := fun c => read (low c).write = low c) (by decide +kernel) ascii

theorem read_write_high (ascii : c.toNat < 128) : read (high c).write = high c :=
  ascii_forall (p := fun c => read (high c).write = high c) (by decide +kernel) ascii

end Hump

/-- The humps of a word after the first. -/
def laterHumps : List Char → List Hump
  | [] => []
  | c :: rest => .high c :: rest.map .low

def humps : List (List Char) → List Hump
  | [] => []
  | first :: others => first.map .low ++ others.flatMap laterHumps

/-! Words in ASCII. -/

theorem lowerAfter_ascii (before : List Char) {text : List Char} (ascii : IsAscii text) :
    lowerAfter before text = text.map Char.toLower := by
  induction text generalizing before with
  | nil => rfl
  | cons c rest induction =>
      obtain ⟨head, tail⟩ := List.forall_mem_cons.mp ascii
      have other : c ≠ 'Σ' := by
        rintro rfl
        exact absurd head (by decide)
      rw [lowerAfter, if_neg other, lowerChar, if_pos head, induction (c :: before) tail]
      rfl

theorem toLower_ascii {c : Char} (ascii : c.toNat < 128) : c.toLower.toNat < 128 :=
  ascii_forall (p := fun c => c.toLower.toNat < 128) (by decide +kernel) ascii

theorem lower_eq_humps {word : List Char} (ascii : IsAscii word) :
    lower word = (word.map Hump.low).map Hump.write := by
  rw [lower, lowerAfter_ascii [] ascii, List.map_map]
  rfl

theorem capitalize_lower_eq_humps {word : List Char} (ascii : IsAscii word) :
    capitalize (lower word) = (laterHumps word).map Hump.write := by
  rw [lower, lowerAfter_ascii [] ascii]
  cases word with
  | nil => rfl
  | cons c rest =>
      have head := (List.forall_mem_cons.mp ascii).1
      rw [List.map_cons, capitalize, upperChar, if_pos (toLower_ascii head), laterHumps,
        List.map_cons, Hump.write_high head, List.map_map]
      rfl

theorem read_write_laterHumps {word : List Char} (ascii : IsAscii word) :
    ∀ hump ∈ laterHumps word, Hump.read hump.write = hump := by
  cases word with
  | nil => exact fun hump listed => absurd listed List.not_mem_nil
  | cons c rest =>
      obtain ⟨head, tail⟩ := List.forall_mem_cons.mp ascii
      refine List.forall_mem_cons.mpr ⟨Hump.read_write_high head, ?_⟩
      exact List.forall_mem_map.mpr fun d listed => Hump.read_write_low (tail d listed)

section

variable {words : List (List Char)} (ascii : ∀ word ∈ words, IsAscii word)

include ascii

theorem joinCamel_eq_humps : joinCamel words = (humps words).map Hump.write := by
  cases words with
  | nil => rfl
  | cons first others =>
      obtain ⟨head, tail⟩ := List.forall_mem_cons.mp ascii
      rw [joinCamel, humps, List.map_append, lower_eq_humps head, List.map_flatMap]
      congr 1
      exact List.flatMap_congr fun word listed => capitalize_lower_eq_humps (tail word listed)

theorem read_write_humps : ∀ hump ∈ humps words, Hump.read hump.write = hump := by
  cases words with
  | nil => exact fun hump listed => absurd listed List.not_mem_nil
  | cons first others =>
      obtain ⟨head, tail⟩ := List.forall_mem_cons.mp ascii
      refine List.forall_mem_append.mpr ⟨?_, fun hump listed => ?_⟩
      · exact List.forall_mem_map.mpr fun c listed => Hump.read_write_low (head c listed)
      · obtain ⟨word, wordListed, inside⟩ := List.mem_flatMap.mp listed
        exact read_write_laterHumps (tail word wordListed) hump inside

theorem humps_eq_read : humps words = (joinCamel words).map Hump.read := by
  rw [joinCamel_eq_humps ascii, List.map_map]
  exact ((List.map_congr_left (read_write_humps ascii)).trans (List.map_id _)).symm

end

theorem map_letter_humps (words : List (List Char)) :
    (humps words).map Hump.letter = words.flatten.map Char.toLower := by
  have later (word : List Char) : (laterHumps word).map Hump.letter = word.map Char.toLower := by
    cases word with
    | nil => rfl
    | cons c rest =>
        rw [laterHumps, List.map_cons, List.map_map]
        rfl
  cases words with
  | nil => rfl
  | cons first others =>
      rw [humps, List.map_append, List.map_flatMap, List.map_map, List.flatten_cons,
        List.map_append, List.map_flatten, List.flatMap_congr fun word _ => later word]
      rfl

/-! Names. -/

theorem flatten_words (name : List Char) : (words name).flatten = name.filter isAlphanumeric := by
  rw [words, flatten_wordsAfter]
  rfl

theorem words_ascii {name : List Char} (ascii : IsAscii name) :
    ∀ word ∈ words name, IsAscii word := by
  intro word listed c inside
  have kept : c ∈ (words name).flatten := List.mem_flatten_of_mem listed inside
  rw [flatten_words] at kept
  exact ascii c (List.mem_filter.mp kept).1

section

variable {first second : String} (ascii : IsAscii first.toList) (otherAscii : IsAscii second.toList)

include ascii otherAscii

/-- Two names in ASCII are the same in camel case if they have the same humps, and only then. -/
theorem camelCase_eq_iff :
    camelCase first = camelCase second ↔
      humps (words first.toList) = humps (words second.toList) := by
  rw [camelCase, camelCase, String.ofList_inj]
  constructor
  · intro same
    rw [humps_eq_read (words_ascii ascii), humps_eq_read (words_ascii otherAscii), same]
  · intro same
    rw [joinCamel_eq_humps (words_ascii ascii), joinCamel_eq_humps (words_ascii otherAscii), same]

/-- Names in ASCII that are the same in camel case differ in the case of letters at most, and in
what is neither letter nor digit. -/
theorem letters_eq_of_camelCase_eq (same : camelCase first = camelCase second) :
    (first.toList.filter isAlphanumeric).map Char.toLower =
      (second.toList.filter isAlphanumeric).map Char.toLower := by
  rw [← flatten_words, ← flatten_words, ← map_letter_humps, ← map_letter_humps,
    (camelCase_eq_iff ascii otherAscii).mp same]

end

example : camelCase "userName" = camelCase "user_name" ∧
    camelCase "userName" ≠ camelCase "username" :=
  have ascii : IsAscii "userName".toList := by decide +kernel
  ⟨(camelCase_eq_iff ascii (by decide +kernel)).mpr (by decide +kernel),
    mt (camelCase_eq_iff ascii (by decide +kernel)).mp (by decide +kernel)⟩

end TypeSchema.Name
