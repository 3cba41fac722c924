import Mathlib.Data.List.Basic
import TypeSchema.Proofs.Name.Identifier
import TypeSchema.Proofs.Name.Spelling

/-!
The words of a name hold all its letters and numbers, and nothing else. A loop over the positions of the
name, which looks back at the character before, finds the same words, and what it looks back at is always
the last character of the word that is open.
-/

namespace TypeSchema.Name

open Text Unicode

/-! Where the words stand. -/

/-- Words in a text, with separators around them. No separator need stand between two words. -/
inductive WordsIn : List (List Char) → List Char → Prop
  | nil {text : List Char} (separates : IsSeparator text) : WordsIn [] text
  | cons {words : List (List Char)} {before word rest : List Char} (separates : IsSeparator before)
      (nonempty : word ≠ []) (kept : ∀ c ∈ word, isAlphanumeric c = true)
      (more : WordsIn words rest) : WordsIn (word :: words) (before ++ (word ++ rest))

theorem WordsIn.separator {words : List (List Char)} {text : List Char} {c : Char}
    (separator : isAlphanumeric c = false) (within : WordsIn words text) :
    WordsIn words (c :: text) := by
  cases within with
  | nil separates => exact .nil (List.forall_mem_cons.mpr ⟨separator, separates⟩)
  | cons separates nonempty kept more =>
      exact .cons (List.forall_mem_cons.mpr ⟨separator, separates⟩) nonempty kept more

/-- The word gathered so far stands before the words that follow it. -/
theorem WordsIn.finishWord {pending : List Char} (kept : ∀ c ∈ pending, isAlphanumeric c = true)
    {words : List (List Char)} {rest : List Char} (within : WordsIn words rest) :
    WordsIn (finishWord pending ++ words) (pending.reverse ++ rest) := by
  cases pending with
  | nil => exact within
  | cons c pending =>
      have letters : ∀ d ∈ (c :: pending).reverse, isAlphanumeric d = true := fun d listed =>
        kept d (List.mem_reverse.mp listed)
      have nonempty : (c :: pending).reverse ≠ [] :=
        mt List.reverse_eq_nil_iff.mp (List.cons_ne_nil c pending)
      exact @WordsIn.cons _ [] _ _ (List.forall_mem_nil _) nonempty letters within

theorem wordsIn_wordsAfter {pending : List Char} (kept : ∀ c ∈ pending, isAlphanumeric c = true)
    (text : List Char) : WordsIn (wordsAfter pending text) (pending.reverse ++ text) := by
  induction text generalizing pending with
  | nil =>
      have ended := WordsIn.finishWord kept (.nil (List.forall_mem_nil _))
      rwa [List.append_nil] at ended
  | cons c rest induction =>
      by_cases letter : isAlphanumeric c = true
      · by_cases starts : startsWord pending c rest = true
        · rw [wordsAfter_starts letter starts]
          exact .finishWord kept (induction (List.forall_mem_singleton.mpr letter))
        · rw [wordsAfter_joined letter (Bool.eq_false_iff.mpr starts)]
          have joined := induction (List.forall_mem_cons.mpr ⟨letter, kept⟩)
          rwa [List.reverse_cons, List.append_assoc] at joined
      · have separator := Bool.eq_false_iff.mpr letter
        rw [wordsAfter_separator separator]
        exact .finishWord kept (.separator separator (induction (List.forall_mem_nil _)))

theorem wordsIn_words (name : List Char) : WordsIn (words name) name :=
  wordsIn_wordsAfter (List.forall_mem_nil _) name

/-! The words by position. -/

theorem startsWord_eq (pending : List Char) (c : Char) (rest : List Char) :
    startsWord pending c rest = pending.head?.any fun previous =>
      isUppercase c && (isLowercase previous || previous.isDigit ||
        (isUppercase previous && rest.head?.any isLowercase)) := by
  cases pending <;> rfl

/-- The words that are complete, and the characters of the word that is open. -/
structure Scan where
  complete : List (List Char)
  current : List Char

namespace Scan

def start : Scan :=
  ⟨[], []⟩

def flush (scan : Scan) : Scan :=
  if scan.current.isEmpty then scan else ⟨scan.complete ++ [scan.current], []⟩

def push (scan : Scan) (c : Char) : Scan :=
  { scan with current := scan.current ++ [c] }

/-- The character before a position. Before the first there is none. -/
def lookBehind? (name : List Char) (position : Nat) : Option Char :=
  if position = 0 then none else name[position - 1]?

/-- Whether a word may start at `c`, so that the character before it has to be known. -/
def looksBehind (scan : Scan) (c : Char) : Bool :=
  isAlphanumeric c && isUppercase c && !scan.current.isEmpty

/-- Takes the character at a position; fails if a character is needed where there is none. -/
def step? (name : List Char) (scan : Scan) (position : Nat) : Option Scan := do
  let c ← name[position]?
  if !isAlphanumeric c then
    return scan.flush
  else if scan.looksBehind c then
    let previous ← lookBehind? name position
    let nextIsSmall := name[position + 1]?.any isLowercase
    if isLowercase previous || previous.isDigit || (isUppercase previous && nextIsSmall) then
      return scan.flush.push c
    else
      return scan.push c
  else
    return scan.push c

/-- The scan of as many characters as are counted. -/
def until? (name : List Char) (count : Nat) : Option Scan :=
  (List.range count).foldlM (step? name) start

def words? (name : List Char) : Option (List (List Char)) :=
  (until? name name.length).map fun scan => scan.flush.complete

theorem complete_flush (scan : Scan) :
    scan.flush.complete = scan.complete ++ finishWord scan.current.reverse := by
  obtain ⟨complete, current⟩ := scan
  cases current with
  | nil => exact (List.append_nil complete).symm
  | cons c rest => rw [finishWord_reverse (List.cons_ne_nil c rest)]; rfl

theorem current_flush (scan : Scan) : scan.flush.current = [] := by
  obtain ⟨complete, current⟩ := scan
  cases current <;> rfl

end Scan

/-- The open word ends where the scan stands, and the words that are complete go on with those of the
rest. -/
structure Scanned (name : List Char) (position : Nat) (scan : Scan) : Prop where
  ends : ∃ before, name.take position = before ++ scan.current
  goesOn : scan.complete ++ wordsAfter scan.current.reverse (name.drop position) = words name

namespace Scanned

variable {name : List Char} {position : Nat} {scan : Scan}

/-- Where a word is open, there is a character before, and it is the last of that word. -/
theorem exists_behind (scanned : Scanned name position scan) (within : position ≤ name.length)
    (opened : scan.current ≠ []) : 0 < position ∧
      ∃ previous, name[position - 1]? = some previous ∧ scan.current.getLast? = some previous := by
  obtain ⟨before, taken⟩ := scanned.ends
  obtain _ | position := position
  · rw [List.take_zero] at taken
    exact absurd (List.append_eq_nil_iff.mp taken.symm).2 opened
  · have here : name[position]? = some name[position] := List.getElem?_eq_getElem within
    have last : (name.take (position + 1)).getLast? = some name[position] := by
      rw [List.take_add_one, here, Option.toList_some, List.getLast?_concat]
    rw [taken, List.getLast?_append_of_ne_nil _ opened] at last
    exact ⟨Nat.succ_pos position, name[position], here, last⟩

/-- With the character before at hand, a step cuts where the words of a name are cut. -/
theorem step_eq (scanned : Scanned name position scan) (within : position < name.length) :
    scan.step? name position = some
      (if !isAlphanumeric name[position] then scan.flush
      else if startsWord scan.current.reverse name[position] (name.drop (position + 1)) then
        scan.flush.push name[position]
      else scan.push name[position]) := by
  have here : name[position]? = some name[position] := List.getElem?_eq_getElem within
  rw [startsWord_eq, List.head?_reverse, List.head?_drop]
  cases last : scan.current.getLast? with
  | none =>
      have empty : scan.current = [] := List.getLast?_eq_none_iff.mp last
      simp [Scan.step?, Scan.looksBehind, here, empty, apply_ite some]
  | some previous =>
      have opened : scan.current ≠ [] := by
        rintro empty
        rw [empty] at last
        cases last
      have filled : scan.current.isEmpty = false := List.isEmpty_eq_false_iff.mpr opened
      obtain ⟨positive, other, behind, same⟩ := scanned.exists_behind (Nat.le_of_lt within) opened
      have behind : Scan.lookBehind? name position = some previous := by
        rw [Scan.lookBehind?, if_neg (Nat.ne_of_gt positive), behind, ← same, last]
      cases letter : isAlphanumeric name[position] <;>
        cases capital : isUppercase name[position] <;>
        simp [Scan.step?, Scan.looksBehind, here, letter, capital, behind, filled,
          apply_ite some]

theorem step (scanned : Scanned name position scan) (within : position < name.length) :
    ∃ next, scan.step? name position = some next ∧ Scanned name (position + 1) next := by
  have taken : name.take (position + 1) = name.take position ++ [name[position]] := by
    rw [List.take_add_one, List.getElem?_eq_getElem within]
    rfl
  refine ⟨_, scanned.step_eq within, ?_⟩
  obtain ⟨before, split⟩ := scanned.ends
  have goesOn := scanned.goesOn
  rw [List.drop_eq_getElem_cons within, wordsAfter] at goesOn
  split at goesOn
  next separator =>
    rw [if_pos separator]
    constructor
    · exact ⟨name.take (position + 1), by rw [scan.current_flush, List.append_nil]⟩
    · rw [scan.current_flush, scan.complete_flush, List.append_assoc]
      exact goesOn
  next letter =>
    rw [if_neg letter]
    split at goesOn
    next starts =>
      rw [if_pos starts]
      constructor
      · refine ⟨name.take position, ?_⟩
        rw [taken, Scan.push, scan.current_flush, List.nil_append]
      · rw [Scan.push, scan.current_flush, scan.complete_flush, List.append_assoc]
        exact goesOn
    next joined =>
      rw [if_neg joined]
      constructor
      · exact ⟨before, by rw [taken, split, Scan.push, List.append_assoc]⟩
      · rw [Scan.push, List.reverse_append]
        exact goesOn

end Scanned

theorem scanned_start (name : List Char) : Scanned name 0 Scan.start :=
  ⟨⟨[], rfl⟩, rfl⟩

theorem scanned_until (name : List Char) {count : Nat} (within : count ≤ name.length) :
    ∃ scan, Scan.until? name count = some scan ∧ Scanned name count scan := by
  induction count with
  | zero => exact ⟨Scan.start, rfl, scanned_start name⟩
  | succ count induction =>
      obtain ⟨scan, reached, scanned⟩ := induction (Nat.le_of_succ_le within)
      obtain ⟨next, stepped, again⟩ := scanned.step within
      refine ⟨next, ?_, again⟩
      rw [Scan.until?] at reached
      rw [Scan.until?, List.range_succ, List.foldlM_append, reached]
      simp [stepped]

theorem scanWords_eq (name : List Char) : Scan.words? name = some (words name) := by
  obtain ⟨scan, reached, scanned⟩ := scanned_until name (Nat.le_refl name.length)
  have complete := scanned.goesOn
  rw [List.drop_length, wordsAfter, ← scan.complete_flush] at complete
  rw [Scan.words?, reached, Option.map_some, complete]

/-! Names in ASCII. -/

theorem isAlphanumeric_ascii {c : Char} (ascii : c.toNat < 128) :
    isAlphanumeric c = c.isAlphanum :=
  ascii_forall (p := fun c => isAlphanumeric c = c.isAlphanum) (by decide +kernel) ascii

theorem toLower_isAlphanum {c : Char} (ascii : c.toNat < 128) :
    c.toLower.isAlphanum = c.isAlphanum :=
  ascii_forall (p := fun c => c.toLower.isAlphanum = c.isAlphanum) (by decide +kernel) ascii

theorem isAlphanum_of_toLower {c : Char} (kept : c.toLower.isAlphanum = true) :
    c.isAlphanum = true := by
  unfold Char.toLower at kept
  split at kept
  next capital =>
    have isUpper : c.isUpper = true := by
      delta Char.isUpper
      simpa using capital
    change (c.isUpper || c.isLower || c.isDigit) = true
    rw [isUpper, Bool.true_or, Bool.true_or]
  next => exact kept

theorem camelCase_ascii {name : String} (ascii : IsAscii name.toList) :
    (∀ c ∈ (camelCase name).toList, c.isAlphanum = true) ∧
      (camelCase name).toList.map Char.toLower =
        (name.toList.filter Char.isAlphanum).map Char.toLower := by
  have read : (camelCase name).toList.map Char.toLower =
      ((camelCase name).toList.map Hump.read).map Hump.letter := by
    rw [List.map_map]
    rfl
  have same : name.toList.filter isAlphanumeric = name.toList.filter Char.isAlphanum :=
    List.filter_congr fun c listed => isAlphanumeric_ascii (ascii c listed)
  have letters : (camelCase name).toList.map Char.toLower =
      (name.toList.filter Char.isAlphanum).map Char.toLower := by
    rw [read, camelCase, String.toList_ofList, ← humps_eq_read (words_ascii ascii),
      map_letter_humps, flatten_words, same]
  refine ⟨fun c listed => ?_, letters⟩
  have small : c.toLower ∈ (name.toList.filter Char.isAlphanum).map Char.toLower := by
    rw [← letters]
    exact List.mem_map_of_mem listed
  obtain ⟨d, kept, lowered⟩ := List.mem_map.mp small
  obtain ⟨listed, isAlphanum⟩ := List.mem_filter.mp kept
  apply isAlphanum_of_toLower
  rw [← lowered, toLower_isAlphanum (ascii d listed), isAlphanum]

/-- The words of a name are its letters and numbers, cut into pieces that are not empty, with all else
around them. To look up the character before one is safe wherever it is done. The camel case of a name
in ASCII has the letters and digits of the name, but for their case. -/
theorem words_whole (name : String) :
    (words name.toList).flatten = name.toList.filter isAlphanumeric ∧
      [] ∉ words name.toList ∧
      WordsIn (words name.toList) name.toList ∧
      Scan.words? name.toList = some (words name.toList) ∧
      (∀ position, ∀ within : position < name.toList.length,
        ∃ scan, Scan.until? name.toList position = some scan ∧
          (scan.looksBehind name.toList[position] = true → 0 < position ∧
            ∃ previous, name.toList[position - 1]? = some previous ∧
              scan.current.getLast? = some previous)) ∧
      (IsAscii name.toList →
        (∀ c ∈ (camelCase name).toList, c.isAlphanum = true) ∧
          (camelCase name).toList.map Char.toLower =
            (name.toList.filter Char.isAlphanum).map Char.toLower) := by
  refine ⟨flatten_words name.toList, nil_notMem_wordsAfter [] name.toList,
    wordsIn_words name.toList, scanWords_eq name.toList, ?_, camelCase_ascii⟩
  intro position within
  obtain ⟨scan, reached, scanned⟩ := scanned_until name.toList (Nat.le_of_lt within)
  refine ⟨scan, reached, fun looks => ?_⟩
  have opened : scan.current ≠ [] := by
    simp only [Scan.looksBehind, Bool.and_eq_true, Bool.not_eq_true'] at looks
    exact List.isEmpty_eq_false_iff.mp looks.2
  exact scanned.exists_behind (Nat.le_of_lt within) opened

/-- A separator, an acronym whose last capital starts a word, and a digit before a capital. -/
theorem words_whole_http_server :
    let name := "_HTTPServer2Go"
    Scan.words? name.toList = some ["HTTP".toList, "Server2".toList, "Go".toList] ∧
      (5 < name.toList.length ∧ ∃ scan, Scan.until? name.toList 5 = some scan ∧
        scan.looksBehind 'S' = true ∧ ∃ previous, name.toList[4]? = some previous ∧
          scan.current.getLast? = some previous) ∧
      IsAscii name.toList ∧ (camelCase name).toList.map Char.toLower = "httpserver2go".toList := by
  intro name
  have long : 5 < name.toList.length := by decide
  have ascii : IsAscii name.toList := by decide
  have cut : words name.toList = ["HTTP".toList, "Server2".toList, "Go".toList] := by decide +kernel
  obtain ⟨-, -, -, found, behind, camel⟩ := words_whole name
  obtain ⟨scan, reached, looksBack⟩ := behind 5 long
  have looks : (Scan.until? name.toList 5).any (·.looksBehind 'S') = true := by decide +kernel
  rw [reached, Option.any_some] at looks
  have capital : name.toList[5] = 'S' := (List.getElem_eq_iff long).mpr (by decide)
  rw [capital] at looksBack
  refine ⟨by rw [found, cut], ⟨long, scan, reached, looks, (looksBack looks).2⟩, ascii, ?_⟩
  rw [(camel ascii).2]
  decide

end TypeSchema.Name
