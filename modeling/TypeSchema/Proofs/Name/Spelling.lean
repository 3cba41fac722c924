import Mathlib.Data.List.Basic
import TypeSchema.Proofs.Name.CamelCase
import TypeSchema.Proofs.Name.CaseForms

/-!
The spellings of a name that is made of words: with separators between the words, in small letters or
in capitals, or without separators and with a capital where a word starts. Camel case writes all of
them in the same way.
-/

namespace TypeSchema

open Text Unicode

theorem Unicode.isAlphabetic_of_isLowercase {c : Char} (small : isLowercase c = true) :
    isAlphabetic c = true := by
  unfold isLowercase at small
  split at small
  next ascii =>
    rw [isAlphabetic, if_pos ascii]
    exact Bool.or_eq_true_iff.mpr (.inr small)
  next =>
    have leads : leadToLetters (fun _ => 0) []
        (lowercase.runs.map fun run => ⟨run.1, run.2.1, run.2.2, 0⟩) = true := by
      decide +kernel
    obtain ⟨run, listed, covers⟩ := List.any_eq_true.mp small
    have letter := isAlphabetic_of_leadToLetters (List.nil_subset _) leads
      (List.mem_map_of_mem listed) covers
    rwa [Int.add_zero, Int.toNat_natCast, Char.ofNat_toNat] at letter

namespace Name

/-! Small letters of ASCII and their capitals. -/

theorem toNat_lt_of_isLower {c : Char} (small : c.isLower = true) : c.toNat < 128 := by
  have bound := of_decide_eq_true (Bool.and_eq_true_iff.mp small).2
  have most : c.toNat ≤ 122 := UInt32.le_iff_toNat_le.mp bound
  omega

structure SmallLetter (c : Char) : Prop where
  kept : isAlphanumeric c = true
  small : isLowercase c = true
  notCapital : isUppercase c = false

structure CapitalLetter (c : Char) : Prop where
  kept : isAlphanumeric c = true
  capital : isUppercase c = true
  notSmall : isLowercase c = false
  notDigit : c.isDigit = false

theorem smallLetter {c : Char} (isLower : c.isLower = true) : SmallLetter c := by
  have facts : c.isLower = true →
      isAlphanumeric c = true ∧ isLowercase c = true ∧ isUppercase c = false :=
    ascii_forall (p := fun c => c.isLower = true →
      isAlphanumeric c = true ∧ isLowercase c = true ∧ isUppercase c = false)
      (by decide +kernel) (toNat_lt_of_isLower isLower)
  obtain ⟨kept, small, notCapital⟩ := facts isLower
  exact ⟨kept, small, notCapital⟩

theorem capitalLetter {c : Char} (isLower : c.isLower = true) : CapitalLetter c.toUpper := by
  have facts : c.isLower = true → isAlphanumeric c.toUpper = true ∧ isUppercase c.toUpper = true ∧
      isLowercase c.toUpper = false ∧ c.toUpper.isDigit = false :=
    ascii_forall (p := fun c => c.isLower = true →
      isAlphanumeric c.toUpper = true ∧ isUppercase c.toUpper = true ∧
        isLowercase c.toUpper = false ∧ c.toUpper.isDigit = false)
      (by decide +kernel) (toNat_lt_of_isLower isLower)
  obtain ⟨kept, capital, notSmall, notDigit⟩ := facts isLower
  exact ⟨kept, capital, notSmall, notDigit⟩

/-! Words and their spellings. -/

/-- A word in small letters. -/
structure IsSmallWord (word : List Char) : Prop where
  nonempty : word ≠ []
  small : ∀ c ∈ word, c.isLower = true

def capitals (word : List Char) : List Char :=
  word.map Char.toUpper

/-- A word with a capital where it starts. -/
def initialCapital : List Char → List Char
  | [] => []
  | c :: rest => c.toUpper :: rest

/-- Words put together without separators, each with a capital. -/
def pascal (words : List (List Char)) : List Char :=
  words.flatMap initialCapital

/-- Words put together without separators, each but the first with a capital. -/
def camel : List (List Char) → List Char
  | [] => []
  | first :: others => first ++ pascal others

def IsSeparator (text : List Char) : Prop :=
  ∀ c ∈ text, isAlphanumeric c = false

/-- Words with a separator between each two, and perhaps one after the last. -/
inductive SeparatedWords : List (List Char) → List Char → Prop
  | last (word : List Char) {after : List Char} (separates : IsSeparator after) :
      SeparatedWords [word] (word ++ after)
  | cons (word : List Char) {between rest : List Char} {others : List (List Char)}
      (separates : IsSeparator between) (nonempty : between ≠ [])
      (more : SeparatedWords others rest) :
      SeparatedWords (word :: others) (word ++ (between ++ rest))

/-- A text of words with separators between them, and perhaps around them. -/
def Separated (words : List (List Char)) (text : List Char) : Prop :=
  ∃ before rest, text = before ++ rest ∧ IsSeparator before ∧ SeparatedWords words rest

/-! How a name is cut, step by step. -/

section

variable {pending rest word : List Char} {c : Char}

theorem wordsAfter_joined (kept : isAlphanumeric c = true)
    (joined : startsWord pending c rest = false) :
    wordsAfter pending (c :: rest) = wordsAfter (c :: pending) rest := by
  rw [wordsAfter, kept, joined]
  rfl

theorem wordsAfter_starts (kept : isAlphanumeric c = true)
    (starts : startsWord pending c rest = true) :
    wordsAfter pending (c :: rest) = finishWord pending ++ wordsAfter [c] rest := by
  rw [wordsAfter, kept, starts]
  rfl

theorem wordsAfter_separator (separates : isAlphanumeric c = false) :
    wordsAfter pending (c :: rest) = finishWord pending ++ wordsAfter [] rest := by
  rw [wordsAfter, separates]
  rfl

theorem finishWord_reverse (nonempty : word ≠ []) : finishWord word.reverse = [word] := by
  unfold finishWord
  split
  next empty => exact absurd (List.reverse_eq_nil_iff.mp empty) nonempty
  next => rw [List.reverse_reverse]

theorem startsWord_small (small : SmallLetter c) : startsWord pending c rest = false := by
  cases pending with
  | nil => rfl
  | cons previous pending => rw [startsWord, small.notCapital, Bool.false_and]

theorem wordsAfter_small (small : ∀ c ∈ word, c.isLower = true) :
    wordsAfter pending (word ++ rest) = wordsAfter (word.reverse ++ pending) rest := by
  induction word generalizing pending with
  | nil => rfl
  | cons c word induction =>
      obtain ⟨head, tail⟩ := List.forall_mem_cons.mp small
      have letter := smallLetter head
      rw [List.cons_append, wordsAfter_joined letter.kept (startsWord_small letter),
        induction tail, List.reverse_cons, List.append_assoc, List.singleton_append]

/-- Capitals go on a word of capitals, if no small letter follows. -/
theorem wordsAfter_capitals (capitals : ∀ c ∈ word, CapitalLetter c)
    (before : ∀ previous ∈ pending.head?, CapitalLetter previous)
    (after : ∀ next ∈ rest.head?, isLowercase next = false) :
    wordsAfter pending (word ++ rest) = wordsAfter (word.reverse ++ pending) rest := by
  induction word generalizing pending with
  | nil => rfl
  | cons c word induction =>
      obtain ⟨head, tail⟩ := List.forall_mem_cons.mp capitals
      have next : (word ++ rest).head?.any isLowercase = false := by
        cases word with
        | nil =>
            cases rest with
            | nil => rfl
            | cons d rest => exact after d rfl
        | cons d word => exact (tail d List.mem_cons_self).notSmall
      have joined : startsWord pending c (word ++ rest) = false := by
        cases pending with
        | nil => rfl
        | cons previous pending =>
            have other := before previous rfl
            rw [startsWord, other.notSmall, other.notDigit, next, Bool.and_false, Bool.or_false,
              Bool.or_false, Bool.and_false]
      have starts : ∀ previous ∈ (c :: pending).head?, CapitalLetter previous := by
        intro previous first
        cases first
        exact head
      rw [List.cons_append, wordsAfter_joined head.kept joined, induction tail starts,
        List.reverse_cons, List.append_assoc, List.singleton_append]

theorem wordsAfter_before {before : List Char} (separates : IsSeparator before) :
    wordsAfter [] (before ++ rest) = wordsAfter [] rest := by
  induction before with
  | nil => rfl
  | cons c before induction =>
      obtain ⟨head, tail⟩ := List.forall_mem_cons.mp separates
      exact (wordsAfter_separator head).trans (induction tail)

theorem wordsAfter_between {between : List Char} (separates : IsSeparator between)
    (nonempty : between ≠ []) :
    wordsAfter pending (between ++ rest) = finishWord pending ++ wordsAfter [] rest := by
  cases between with
  | nil => exact absurd rfl nonempty
  | cons c between =>
      obtain ⟨head, tail⟩ := List.forall_mem_cons.mp separates
      rw [List.cons_append, wordsAfter_separator head, wordsAfter_before tail]

theorem wordsAfter_after {after : List Char} (separates : IsSeparator after) :
    wordsAfter pending after = finishWord pending := by
  cases after with
  | nil => rfl
  | cons c after =>
      have all : wordsAfter pending (c :: after ++ []) = finishWord pending ++ wordsAfter [] [] :=
        wordsAfter_between separates (List.cons_ne_nil c after)
      rwa [List.append_nil, wordsAfter, finishWord, List.append_nil] at all

end

/-! Words with separators. -/

/-- A word that is not cut, if no letter or number follows it. -/
structure StaysWhole (word : List Char) : Prop where
  nonempty : word ≠ []
  gathered : ∀ rest : List Char, (∀ next ∈ rest.head?, isAlphanumeric next = false) →
    wordsAfter [] (word ++ rest) = wordsAfter word.reverse rest

theorem IsSmallWord.staysWhole {word : List Char} (own : IsSmallWord word) : StaysWhole word where
  nonempty := own.nonempty
  gathered rest _ := by rw [wordsAfter_small own.small, List.append_nil]

theorem IsSmallWord.capitals_staysWhole {word : List Char} (own : IsSmallWord word) :
    StaysWhole (capitals word) where
  nonempty := mt List.map_eq_nil_iff.mp own.nonempty
  gathered rest apart := by
    have letters : ∀ c ∈ capitals word, CapitalLetter c :=
      List.forall_mem_map.mpr fun c listed => capitalLetter (own.small c listed)
    have after : ∀ next ∈ rest.head?, isLowercase next = false := by
      intro next first
      apply Bool.eq_false_iff.mpr
      intro small
      have kept := isAlphanumeric_of_isAlphabetic (isAlphabetic_of_isLowercase small)
      rw [apart next first] at kept
      cases kept
    rw [wordsAfter_capitals letters (by simp) after, List.append_nil]

theorem IsSeparator.head {text : List Char} (separates : IsSeparator text) (rest : List Char)
    (nonempty : text ≠ []) : ∀ next ∈ (text ++ rest).head?, isAlphanumeric next = false := by
  cases text with
  | nil => exact absurd rfl nonempty
  | cons c text =>
      intro next first
      cases first
      exact separates c List.mem_cons_self

theorem wordsAfter_separated {words : List (List Char)} {text : List Char}
    (separated : SeparatedWords words text) (whole : ∀ word ∈ words, StaysWhole word) :
    wordsAfter [] text = words := by
  induction separated with
  | last word separates =>
      have own := whole word List.mem_cons_self
      rw [own.gathered _ fun next first => separates next (List.mem_of_mem_head? first),
        wordsAfter_after separates, finishWord_reverse own.nonempty]
  | cons word separates nonempty more induction =>
      obtain ⟨own, others⟩ := List.forall_mem_cons.mp whole
      rw [own.gathered _ (separates.head _ nonempty), wordsAfter_between separates nonempty,
        finishWord_reverse own.nonempty, induction others, List.singleton_append]

theorem words_of_separated {words : List (List Char)} {text : List Char}
    (separated : Separated words text) (whole : ∀ word ∈ words, StaysWhole word) :
    Name.words text = words := by
  obtain ⟨before, rest, rfl, separates, more⟩ := separated
  exact (wordsAfter_before separates).trans (wordsAfter_separated more whole)

/-! Words without separators. -/

/-- A capital starts a word after a word of two letters or more, and after no word. -/
theorem wordsAfter_pascal {pending : List Char} {words : List (List Char)}
    (own : ∀ word ∈ words, IsSmallWord word) (long : ∀ word ∈ words, 2 ≤ word.length)
    (before : ∀ previous ∈ pending.head?, isLowercase previous = true) :
    wordsAfter pending (pascal words) = finishWord pending ++ words.map initialCapital := by
  induction words generalizing pending with
  | nil => exact (List.append_nil _).symm
  | cons word words induction =>
      obtain ⟨small, others⟩ := List.forall_mem_cons.mp own
      obtain ⟨two, longer⟩ := List.forall_mem_cons.mp long
      match word, small.small, two with
      | c :: d :: more, letters, _ =>
          obtain ⟨head, tail⟩ := List.forall_mem_cons.mp letters
          have letter := capitalLetter head
          have split : ∀ rest : List Char, wordsAfter pending (c.toUpper :: rest) =
              finishWord pending ++ wordsAfter [c.toUpper] rest := by
            intro rest
            cases pending with
            | nil => exact wordsAfter_joined letter.kept rfl
            | cons previous pending =>
                apply wordsAfter_starts letter.kept
                rw [startsWord, letter.capital, before previous rfl]
                rfl
          have last : ∀ previous ∈ ((d :: more).reverse ++ [c.toUpper]).head?,
              isLowercase previous = true := by
            intro previous first
            rw [List.head?_append_of_ne_nil _ (by simp), List.head?_reverse] at first
            exact (smallLetter (tail previous (List.mem_of_mem_getLast? first))).small
          have whole := finishWord_reverse (List.cons_ne_nil c.toUpper (d :: more))
          rw [List.reverse_cons] at whole
          calc wordsAfter pending (pascal ((c :: d :: more) :: words))
            _ = finishWord pending ++ wordsAfter [c.toUpper] ((d :: more) ++ pascal words) :=
              split _
            _ = finishWord pending ++
                wordsAfter ((d :: more).reverse ++ [c.toUpper]) (pascal words) := by
              rw [wordsAfter_small tail]
            _ = finishWord pending ++ ([c.toUpper :: d :: more] ++ words.map initialCapital) := by
              rw [induction others longer last, whole]

theorem words_pascal {words : List (List Char)} (own : ∀ word ∈ words, IsSmallWord word)
    (long : ∀ word ∈ words, 2 ≤ word.length) :
    Name.words (pascal words) = words.map initialCapital :=
  wordsAfter_pascal own long (by simp)

theorem words_camel {first : List Char} {others : List (List Char)}
    (own : ∀ word ∈ first :: others, IsSmallWord word)
    (long : ∀ word ∈ first :: others, 2 ≤ word.length) :
    Name.words (camel (first :: others)) = first :: others.map initialCapital := by
  obtain ⟨head, tail⟩ := List.forall_mem_cons.mp own
  have before : ∀ previous ∈ first.reverse.head?, isLowercase previous = true := by
    intro previous last
    rw [List.head?_reverse] at last
    exact (smallLetter (head.small previous (List.mem_of_mem_getLast? last))).small
  rw [Name.words, camel, wordsAfter_small head.small, List.append_nil,
    wordsAfter_pascal tail (List.forall_mem_cons.mp long).2 before,
    finishWord_reverse head.nonempty, List.singleton_append]

/-! Words put together again. -/

theorem toLower_small {c : Char} (isLower : c.isLower = true) : c.toLower = c :=
  ascii_forall (p := fun c => c.isLower = true → c.toLower = c) (by decide +kernel)
    (toNat_lt_of_isLower isLower) isLower

theorem toLower_capital {c : Char} (isLower : c.isLower = true) : c.toUpper.toLower = c :=
  ascii_forall (p := fun c => c.isLower = true → c.toUpper.toLower = c) (by decide +kernel)
    (toNat_lt_of_isLower isLower) isLower

theorem toUpper_ascii {c : Char} (ascii : c.toNat < 128) : c.toUpper.toNat < 128 :=
  ascii_forall (p := fun c => c.toUpper.toNat < 128) (by decide +kernel) ascii

section

variable {word : List Char} (small : ∀ c ∈ word, c.isLower = true)

include small

theorem isAscii_small : IsAscii word :=
  fun c listed => toNat_lt_of_isLower (small c listed)

theorem lower_small : lower word = word := by
  rw [lower, lowerAfter_ascii [] (isAscii_small small)]
  exact (List.map_congr_left fun c listed => toLower_small (small c listed)).trans (List.map_id _)

theorem lower_capitals : lower (capitals word) = word := by
  have ascii : IsAscii (capitals word) :=
    List.forall_mem_map.mpr fun c listed => toUpper_ascii (isAscii_small small c listed)
  rw [lower, lowerAfter_ascii [] ascii, capitals, List.map_map]
  exact (List.map_congr_left fun c listed => toLower_capital (small c listed)).trans (List.map_id _)

theorem lower_initialCapital : lower (initialCapital word) = word := by
  cases word with
  | nil => rfl
  | cons c rest =>
      obtain ⟨head, tail⟩ := List.forall_mem_cons.mp small
      have ascii : IsAscii (c.toUpper :: rest) :=
        List.forall_mem_cons.mpr ⟨toUpper_ascii (toNat_lt_of_isLower head), isAscii_small tail⟩
      have rest : rest.map Char.toLower = rest := by
        rw [← lowerAfter_ascii [] (isAscii_small tail)]
        exact lower_small tail
      rw [initialCapital, lower, lowerAfter_ascii [] ascii, List.map_cons, toLower_capital head, rest]

theorem capitalize_small : capitalize word = initialCapital word := by
  cases word with
  | nil => rfl
  | cons c rest =>
      rw [capitalize, upperChar, if_pos (isAscii_small small c List.mem_cons_self)]
      rfl

end

/-- The case of the words is of no account when they are put together. -/
theorem joinCamel_eq_camel {written words : List (List Char)} (own : ∀ word ∈ words, IsSmallWord word)
    (same : written.map lower = words) : joinCamel written = camel words := by
  subst same
  cases written with
  | nil => rfl
  | cons first others =>
      rw [joinCamel, List.map_cons, camel, pascal, List.flatMap_map]
      congr 1
      apply List.flatMap_congr
      intro word listed
      exact capitalize_small (own (lower word) (List.mem_map_of_mem (.tail first listed))).small

theorem map_lower {words : List (List Char)} {spell : List Char → List Char}
    (lowers : ∀ word ∈ words, lower (spell word) = word) : (words.map spell).map lower = words := by
  rw [List.map_map]
  exact (List.map_congr_left lowers).trans (List.map_id _)

/-- All spellings of a name are the same in camel case: its words in small letters or in capitals
with separators between them, and, if every word has two letters or more, its words with a capital
where each starts, or each but the first. -/
theorem camelCase_spellings {words : List (List Char)} (own : ∀ word ∈ words, IsSmallWord word) :
    (∀ text : String, Separated words text.toList → camelCase text = String.ofList (camel words)) ∧
      (∀ text : String, Separated (words.map capitals) text.toList →
        camelCase text = String.ofList (camel words)) ∧
      ((∀ word ∈ words, 2 ≤ word.length) →
        camelCase (String.ofList (pascal words)) = String.ofList (camel words) ∧
          camelCase (String.ofList (camel words)) = String.ofList (camel words)) := by
  have small : ∀ word ∈ words, ∀ c ∈ word, c.isLower = true := fun word listed =>
    (own word listed).small
  have capital : (words.map capitals).map lower = words :=
    map_lower fun word listed => lower_capitals (small word listed)
  have initial : (words.map initialCapital).map lower = words :=
    map_lower fun word listed => lower_initialCapital (small word listed)
  refine ⟨?_, ?_, ?_⟩
  · intro text separated
    have cut := words_of_separated separated fun word listed => (own word listed).staysWhole
    have same : words.map lower = words :=
      (List.map_congr_left fun word listed => lower_small (small word listed)).trans (List.map_id _)
    rw [camelCase, cut, joinCamel_eq_camel own same]
  · intro text separated
    have cut := words_of_separated separated
      (List.forall_mem_map.mpr fun word listed => (own word listed).capitals_staysWhole)
    rw [camelCase, cut, joinCamel_eq_camel own capital]
  · intro long
    constructor
    · rw [camelCase, String.toList_ofList, words_pascal own long, joinCamel_eq_camel own initial]
    · cases words with
      | nil => rfl
      | cons first others =>
          have same : (first :: others.map initialCapital).map lower = first :: others := by
            rw [List.map_cons, lower_small (small first List.mem_cons_self)]
            exact congrArg (first :: ·) (List.cons.inj initial).2
          rw [camelCase, String.toList_ofList, words_camel own long, joinCamel_eq_camel own same]

/-- Two words in snake case, with separators of two sorts, in Pascal case and in camel case. -/
theorem camelCase_spellings_user_name :
    ∃ words, words = ["user".toList, "name".toList] ∧ (∀ word ∈ words, IsSmallWord word) ∧
      (∀ word ∈ words, 2 ≤ word.length) ∧ camelCase "_user_name" = "userName" ∧
      camelCase "USER.-NAME." = "userName" ∧ camelCase "UserName" = "userName" ∧
      camelCase "userName" = "userName" := by
  have own : ∀ word ∈ ["user".toList, "name".toList], IsSmallWord word :=
    List.forall_mem_cons.mpr ⟨⟨by decide, List.all_eq_true.mp (by decide)⟩,
      List.forall_mem_singleton.mpr ⟨by decide, List.all_eq_true.mp (by decide)⟩⟩
  have separates : ∀ text : List Char, text.all (fun c => !isAlphanumeric c) = true →
      IsSeparator text := by
    intro text every c listed
    simpa using List.all_eq_true.mp every c listed
  obtain ⟨snake, capital, unseparated⟩ := camelCase_spellings own
  obtain ⟨pascalCase, camelCase⟩ := unseparated (by decide)
  refine ⟨_, rfl, own, by decide, snake _ ?_, capital _ ?_, pascalCase, camelCase⟩
  · exact ⟨['_'], _, rfl, separates _ (by decide), .cons _ (separates ['_'] (by decide))
      (List.cons_ne_nil _ _) (.last _ (separates [] rfl))⟩
  · exact ⟨[], _, rfl, separates _ (by decide), .cons _ (separates ['.', '-'] (by decide))
      (List.cons_ne_nil _ _) (.last _ (separates ['.'] (by decide)))⟩

end Name

end TypeSchema
