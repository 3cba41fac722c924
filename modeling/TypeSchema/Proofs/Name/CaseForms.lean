import TypeSchema.Proofs.Text.Word
import TypeSchema.Proofs.Unicode.CharSet

/-!
The small and capital forms of the characters of an identifier. They are letters and numbers again, but
for a few that take combining marks.
-/

namespace TypeSchema.Unicode

open Text

/-- The small letters for whose capital there is no one character: it is another letter's capital with
combining marks. -/
def markedCapitals : List Char :=
  ['\u01f0', '\u0390', '\u03b0', '\u1e96', '\u1e97', '\u1e98', '\u1e99', '\u1f50', '\u1f52',
    '\u1f54', '\u1f56', '\u1fb6', '\u1fb7', '\u1fc6', '\u1fc7', '\u1fd2', '\u1fd3', '\u1fd6',
    '\u1fd7', '\u1fe2', '\u1fe3', '\u1fe4', '\u1fe6', '\u1fe7', '\u1ff6', '\u1ff7']

/-! Runs that lead to letters. The kernel goes over the ranges of letters once, as long as the runs go
up. -/

/-- The codes of a run, moved by `shift`, one by one. -/
def CaseRun.codes (run : CaseRun) (shift : Int) : List Nat :=
  (List.range' run.first ((run.last - run.first) / run.step + 1) run.step).map fun (code : Nat) =>
    (code + shift).toNat

/-- The ranges from a code on, sought among those that are left if these begin before the code, and among
all letters otherwise. -/
def lettersFrom (left : List (Nat × Nat)) (code : Nat) : List (Nat × Nat) :=
  let behind := left.head?.all fun range => code.blt range.1
  (bif behind then letters.ranges else left).dropWhile fun range => range.2.blt code

/-- Whether all runs, moved by `shift`, lead to letters: in one range, or else one by one. -/
def leadToLetters (shift : CaseRun → Int) (left : List (Nat × Nat)) : List CaseRun → Bool
  | [] => true
  | run :: others =>
    let next := lettersFrom left (run.first + shift run).toNat
    let spanned := next.head?.any fun range =>
      range.1.ble (run.first + shift run).toNat && (run.last + shift run).toNat.ble range.2
    (spanned || (run.codes (shift run)).all fun code => isAlphabetic (Char.ofNat code)) &&
      leadToLetters shift next others

/-- What is read off the tables of letters and of their cases. -/
structure CaseTables : Prop where
  letters : ∀ range ∈ letters.ranges,
    128 ≤ range.1 ∧ (range.2 < 0xd800 ∨ 0xdfff < range.1 ∧ range.2 < 0x110000)
  lowerCapital : leadToLetters (fun _ => 0) [] lowerRuns = true
  lowerSmall : leadToLetters (·.shift) [] lowerRuns = true
  upperCapital : leadToLetters (·.shift) [] upperRuns = true
  expansions : ∀ entry ∈ upperExpansions, (entry.2.map Char.ofNat).all continuesIdentifier =
    !markedCapitals.contains (Char.ofNat entry.1)
  expanded : markedCapitals.all (fun c => (upperExpansions.find? (·.1 == c.toNat)).isSome) = true
  mark : continuesIdentifier '\u0307' = false
  asciiSmall : ∀ code < 128, (Char.ofNat code).toLower = Char.ofNat code ∨
    isAlphabetic (Char.ofNat code) = true ∧ isAlphabetic (Char.ofNat code).toLower = true
  asciiCapital : ∀ code < 128, isAlphanumeric (Char.ofNat code) = true →
    continuesIdentifier (Char.ofNat code).toUpper = true

theorem caseTables : CaseTables where
  letters := by decide +kernel
  lowerCapital := by decide +kernel
  lowerSmall := by decide +kernel
  upperCapital := by decide +kernel
  expansions := by decide +kernel
  expanded := by decide +kernel
  mark := by decide +kernel
  asciiSmall := by decide +kernel
  asciiCapital := by decide +kernel

theorem isAlphabetic_ofNat {range : Nat × Nat} (listed : range ∈ letters.ranges) {code : Nat}
    (least : range.1 ≤ code) (most : code ≤ range.2) : isAlphabetic (Char.ofNat code) = true := by
  obtain ⟨beyond, valid⟩ := caseTables.letters range listed
  have isValid : code.isValidChar := by
    simp only [Nat.isValidChar]
    omega
  have named : Char.ofNat code = Char.ofNatAux code isValid := dif_pos isValid
  have same : (Char.ofNat code).toNat = code := congrArg Char.toNat named
  have notAscii : ¬ code < 128 := by omega
  rw [isAlphabetic, same, if_neg notAscii]
  refine CharSet.contains_iff.mpr ⟨range, listed, ?_⟩
  rw [same]
  exact ⟨least, most⟩

theorem lettersFrom_subset {left : List (Nat × Nat)} (within : left ⊆ letters.ranges) (code : Nat) :
    lettersFrom left code ⊆ letters.ranges := by
  refine List.Subset.trans (List.dropWhile_sublist _).subset ?_
  cases left.head?.all fun range => code.blt range.1 with
  | true => exact List.Subset.refl _
  | false => exact within

theorem CaseRun.mem_codes {run : CaseRun} {c : Char} (covers : run.covers c = true) (shift : Int) :
    (c.toNat + shift).toNat ∈ run.codes shift := by
  simp only [CaseRun.covers, Bool.and_eq_true, decide_eq_true_eq, beq_iff_eq] at covers
  obtain ⟨⟨least, most⟩, inStep⟩ := covers
  have steps := Nat.div_add_mod (c.toNat - run.first) run.step
  have fits := Nat.div_le_div_right (c := run.step) (Nat.sub_le_sub_right most run.first)
  refine List.mem_map.mpr ⟨c.toNat, List.mem_range'.mpr ⟨_, Nat.lt_succ_of_le fits, ?_⟩, rfl⟩
  omega

theorem isAlphabetic_of_leadToLetters {shift : CaseRun → Int} {left : List (Nat × Nat)}
    {runs : List CaseRun} (within : left ⊆ letters.ranges)
    (leads : leadToLetters shift left runs = true) {run : CaseRun} (listed : run ∈ runs) {c : Char}
    (covers : run.covers c = true) :
    isAlphabetic (Char.ofNat (c.toNat + shift run).toNat) = true := by
  induction runs generalizing left with
  | nil => exact absurd listed List.not_mem_nil
  | cons other others induction =>
      obtain ⟨first, rest⟩ := Bool.and_eq_true_iff.mp leads
      have next := lettersFrom_subset within (other.first + shift other).toNat
      rcases List.mem_cons.mp listed with rfl | more
      · rcases Bool.or_eq_true_iff.mp first with spanned | each
        · obtain ⟨range, found, inside⟩ := (Option.any_eq_true _ _).mp spanned
          obtain ⟨below, above⟩ := Bool.and_eq_true_iff.mp inside
          have low := Nat.le_of_ble_eq_true below
          have high := Nat.le_of_ble_eq_true above
          simp only [CaseRun.covers, Bool.and_eq_true, decide_eq_true_eq] at covers
          exact isAlphabetic_ofNat (next (List.mem_of_mem_head? found)) (by omega) (by omega)
        · exact List.all_eq_true.mp each _ (CaseRun.mem_codes covers _)
      · exact induction next rest more

/-! The small form of a character. -/

/-- What stands for a character in lower case: the character, or a letter for a letter. One capital
alone takes a combining mark. -/
inductive SmallForm : Char → List Char → Prop
  | same {c : Char} (plain : c ≠ 'İ') : SmallForm c [c]
  | letter {c d : Char} (plain : c ≠ 'İ') (capital : isAlphabetic c = true)
      (small : isAlphabetic d = true) : SmallForm c [d]
  | dotted : SmallForm 'İ' ['i', '\u0307']

theorem smallForm_ascii {c : Char} (ascii : c.toNat < 128) : SmallForm c [c.toLower] := by
  have moves := ascii_forall (p := fun c => c.toLower = c ∨
    isAlphabetic c = true ∧ isAlphabetic c.toLower = true) caseTables.asciiSmall ascii
  have plain : c ≠ 'İ' := by
    rintro rfl
    exact absurd ascii (by decide)
  rcases moves with unchanged | ⟨capital, small⟩
  · rw [unchanged]
    exact .same plain
  · exact .letter plain capital small

theorem CaseRun.smallForm {run : CaseRun} (listed : run ∈ lowerRuns) {c : Char} (plain : c ≠ 'İ')
    (covers : run.covers c = true) : SmallForm c [Char.ofNat (c.toNat + run.shift).toNat] := by
  have capital := isAlphabetic_of_leadToLetters (List.nil_subset _) caseTables.lowerCapital listed covers
  rw [Int.add_zero, Int.toNat_natCast, Char.ofNat_toNat] at capital
  exact .letter plain capital
    (isAlphabetic_of_leadToLetters (List.nil_subset _) caseTables.lowerSmall listed covers)

theorem smallForm_lowerChar (c : Char) : SmallForm c (lowerChar c) := by
  unfold lowerChar
  split
  next ascii => exact smallForm_ascii ascii
  next =>
    unfold mapCase
    split
    next code codes found =>
      obtain ⟨rfl, rfl⟩ := Prod.mk.inj (List.mem_singleton.mp (List.mem_of_find?_eq_some found))
      have same := List.find?_some found
      have isDotted : c.toNat = 'İ'.toNat := (beq_iff_eq.mp same).symm
      obtain rfl : c = 'İ' := Char.toNat_inj.mp isDotted
      exact .dotted
    next notExpanded =>
      have plain : c ≠ 'İ' := by
        rintro rfl
        cases notExpanded
      split
      next run found =>
        have covers := List.find?_some found
        exact CaseRun.smallForm (List.mem_of_find?_eq_some found) plain covers
      next => exact .same plain

/-- A text in lower case has the small form of one character after the other. -/
theorem lowerAfter_cons (before : List Char) (c : Char) (rest : List Char) :
    ∃ small, SmallForm c small ∧
      lowerAfter before (c :: rest) = small ++ lowerAfter (c :: before) rest := by
  refine ⟨_, ?_, rfl⟩
  split
  next sigma =>
    subst sigma
    split
    · exact .letter (by decide) (by decide) (by decide)
    · exact .letter (by decide) (by decide) (by decide)
  next => exact smallForm_lowerChar c

/-! Characters that go on an identifier. -/

theorem continuesIdentifier_of_isAlphanumeric {c : Char} (kept : isAlphanumeric c = true) :
    continuesIdentifier c = true := by
  simp only [continuesIdentifier, kept, Bool.true_or]

theorem isAlphanumeric_of_isAlphabetic {c : Char} (letter : isAlphabetic c = true) :
    isAlphanumeric c = true := by
  simp only [isAlphanumeric, letter, Bool.true_or]

/-- The small form of a letter begins with a letter, and so it is with a number. -/
theorem SmallForm.begins {c : Char} {small : List Char} (form : SmallForm c small)
    (kept : isAlphanumeric c = true) :
    ∃ d more, small = d :: more ∧ isAlphanumeric d = true ∧ (isAlphabetic d = isAlphabetic c) := by
  cases form with
  | same => exact ⟨c, [], rfl, kept, rfl⟩
  | letter _ capital letter =>
      exact ⟨_, [], rfl, isAlphanumeric_of_isAlphabetic letter, letter.trans capital.symm⟩
  | dotted => exact ⟨'i', ['\u0307'], rfl, by decide, by decide⟩

theorem SmallForm.continues {c : Char} {small : List Char} (form : SmallForm c small)
    (kept : isAlphanumeric c = true) : small.all continuesIdentifier = true ↔ c ≠ 'İ' := by
  cases form with
  | same plain => simp [continuesIdentifier_of_isAlphanumeric kept, plain]
  | letter plain _ letter =>
      simp [continuesIdentifier_of_isAlphanumeric (isAlphanumeric_of_isAlphabetic letter), plain]
  | dotted => simp [caseTables.mark]

/-- An identifier goes on in lower case, unless the one capital that takes a mark is in it. -/
theorem lowerAfter_continues (before : List Char) {text : List Char}
    (kept : ∀ c ∈ text, isAlphanumeric c = true) :
    (lowerAfter before text).all continuesIdentifier = true ↔ 'İ' ∉ text := by
  induction text generalizing before with
  | nil => simp [lowerAfter]
  | cons c rest induction =>
      obtain ⟨head, tail⟩ := List.forall_mem_cons.mp kept
      obtain ⟨small, form, written⟩ := lowerAfter_cons before c rest
      rw [written, List.all_append, Bool.and_eq_true, form.continues head,
        induction (c :: before) tail, List.mem_cons, not_or, ne_comm]

/-! Capitals. -/

theorem marked_beyond : ∀ c ∈ markedCapitals, 128 ≤ c.toNat := by
  have every : markedCapitals.all (fun c => decide (128 ≤ c.toNat)) = true := by decide
  exact fun c marked => of_decide_eq_true (List.all_eq_true.mp every c marked)

/-- An identifier goes on with the capital of a letter or number, unless that takes marks. -/
theorem upperChar_continues {c : Char} (kept : isAlphanumeric c = true) :
    (upperChar c).all continuesIdentifier = true ↔ c ∉ markedCapitals := by
  unfold upperChar
  split
  next ascii =>
    have continues := ascii_forall (p := fun c => isAlphanumeric c = true →
      continuesIdentifier c.toUpper = true) caseTables.asciiCapital ascii
    have unmarked : c ∉ markedCapitals := fun marked =>
      absurd (marked_beyond c marked) (Nat.not_le_of_lt ascii)
    simp [continues kept, unmarked]
  next =>
    unfold mapCase
    split
    next code codes found =>
      have listed := List.mem_of_find?_eq_some found
      have same := List.find?_some found
      obtain rfl : code = c.toNat := beq_iff_eq.mp same
      rw [caseTables.expansions _ listed, Char.ofNat_toNat, Bool.not_eq_true',
        ← Bool.not_eq_true, List.contains_iff_mem]
    next notExpanded =>
      have unmarked : c ∉ markedCapitals := by
        intro marked
        have expanded := List.all_eq_true.mp caseTables.expanded c marked
        rw [notExpanded] at expanded
        cases expanded
      split
      next run found =>
        have covers := List.find?_some found
        have capital := isAlphabetic_of_leadToLetters (List.nil_subset _) caseTables.upperCapital
          (List.mem_of_find?_eq_some found) covers
        simp [continuesIdentifier_of_isAlphanumeric (isAlphanumeric_of_isAlphabetic capital),
          unmarked]
      next => simp [continuesIdentifier_of_isAlphanumeric kept, unmarked]

end TypeSchema.Unicode
