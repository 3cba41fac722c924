import TypeSchema.Proofs.Text.Word

/-!
Names of schemas. Cutting a name into words keeps its letters and numbers, and the case mappings lead
to no delimiter, so that the name of a schema is a word.
-/

namespace TypeSchema

open Text Unicode

namespace Unicode

theorem isDelimiter_beyond {c : Char} (beyond : 128 ≤ c.toNat) : isDelimiter c = false := by
  have apart : delimiters.all (fun d => !decide (128 ≤ d.toNat)) = true := by decide
  exact isDelimiter_eq_false apart (decide_eq_true beyond)

theorem isDelimiter_ofNat {code : Nat} (beyond : 128 ≤ code) :
    isDelimiter (Char.ofNat code) = false := by
  by_cases valid : code.isValidChar
  · have value : Char.ofNat code = Char.ofNatAux code valid := dif_pos valid
    rw [value]
    exact isDelimiter_beyond beyond
  · have value : Char.ofNat code = '\x00' := dif_neg valid
    rw [value]
    decide

/-- A mapping that leads from letters to letters: its codes name no delimiter, and its runs lead
beyond ASCII or move one character. -/
structure KeepsWords (expansions : List (Nat × List Nat)) (runs : List CaseRun) : Prop where
  expansions : ∀ entry ∈ expansions, ∀ code ∈ entry.2, isDelimiter (Char.ofNat code) = false
  runs : ∀ run ∈ runs, 128 ≤ run.first + run.shift ∨
    run.first = run.last ∧ isDelimiter (Char.ofNat (run.first + run.shift).toNat) = false

theorem KeepsWords.mapCase {expansions : List (Nat × List Nat)} {runs : List CaseRun}
    (keeps : KeepsWords expansions runs) {c : Char} (letter : isDelimiter c = false) :
    ∀ d ∈ mapCase expansions runs c, isDelimiter d = false := by
  intro d member
  unfold Unicode.mapCase at member
  split at member
  next code codes found =>
    obtain ⟨code, listed, rfl⟩ := List.mem_map.mp member
    exact keeps.expansions _ (List.mem_of_find?_eq_some found) code listed
  next =>
    split at member
    next run found =>
      obtain rfl := List.mem_singleton.mp member
      have covers := List.find?_some found
      simp only [CaseRun.covers, Bool.and_eq_true, decide_eq_true_eq] at covers
      rcases keeps.runs run (List.mem_of_find?_eq_some found) with beyond | ⟨single, named⟩
      · exact isDelimiter_ofNat (by omega)
      · have only : c.toNat = run.first := by omega
        rw [only]
        exact named
    next =>
      obtain rfl := List.mem_singleton.mp member
      exact letter

theorem lower_keepsWords : KeepsWords lowerExpansions lowerRuns :=
  ⟨by decide +kernel, by decide +kernel⟩

theorem upper_keepsWords : KeepsWords upperExpansions upperRuns :=
  ⟨by decide +kernel, by decide +kernel⟩

theorem ascii_keepsWords {c : Char} (ascii : c.toNat < 128) (letter : isDelimiter c = false) :
    isDelimiter c.toLower = false ∧ isDelimiter c.toUpper = false := by
  have every : isDelimiter c = false →
      isDelimiter c.toLower = false ∧ isDelimiter c.toUpper = false :=
    ascii_forall (p := fun c => isDelimiter c = false →
      isDelimiter c.toLower = false ∧ isDelimiter c.toUpper = false) (by decide +kernel) ascii
  exact every letter

theorem lowerChar_undelimited {c : Char} (letter : isDelimiter c = false) :
    ∀ d ∈ lowerChar c, isDelimiter d = false := by
  unfold lowerChar
  split
  next ascii => exact List.forall_mem_singleton.mpr (ascii_keepsWords ascii letter).1
  next => exact lower_keepsWords.mapCase letter

theorem upperChar_undelimited {c : Char} (letter : isDelimiter c = false) :
    ∀ d ∈ upperChar c, isDelimiter d = false := by
  unfold upperChar
  split
  next ascii => exact List.forall_mem_singleton.mpr (ascii_keepsWords ascii letter).2
  next => exact upper_keepsWords.mapCase letter

theorem lowerAfter_undelimited (before : List Char) {text : List Char}
    (letters : ∀ c ∈ text, isDelimiter c = false) :
    ∀ d ∈ lowerAfter before text, isDelimiter d = false := by
  induction text generalizing before with
  | nil => exact letters
  | cons c rest induction =>
      obtain ⟨letter, others⟩ := List.forall_mem_cons.mp letters
      refine List.forall_mem_append.mpr ⟨?_, induction (c :: before) others⟩
      split
      next =>
        intro d member
        obtain rfl := List.mem_singleton.mp member
        split <;> decide
      next => exact lowerChar_undelimited letter

end Unicode

namespace Name

theorem flatten_finishWord (pending : List Char) :
    (finishWord pending).flatten = pending.reverse := by
  cases pending with
  | nil => rfl
  | cons c rest => exact List.append_nil _

theorem flatten_wordsAfter (pending text : List Char) :
    (wordsAfter pending text).flatten = pending.reverse ++ text.filter isAlphanumeric := by
  induction text generalizing pending with
  | nil => rw [wordsAfter, flatten_finishWord, List.filter_nil, List.append_nil]
  | cons c rest induction =>
      unfold wordsAfter
      split
      next separator =>
        rw [List.flatten_append, flatten_finishWord, induction, List.reverse_nil, List.nil_append,
          List.filter_cons_of_neg (by simpa using separator)]
      next kept =>
        have alphanumeric : isAlphanumeric c = true := by simpa using kept
        split
        · rw [List.flatten_append, flatten_finishWord, induction, List.reverse_singleton,
            List.filter_cons_of_pos alphanumeric, List.singleton_append]
        · rw [induction, List.reverse_cons, List.append_assoc,
            List.filter_cons_of_pos alphanumeric, List.singleton_append]

theorem words_undelimited (name : List Char) :
    ∀ word ∈ words name, ∀ c ∈ word, isDelimiter c = false := by
  intro word member c letter
  have kept : c ∈ (words name).flatten := List.mem_flatten_of_mem member letter
  rw [words, flatten_wordsAfter, List.reverse_nil, List.nil_append] at kept
  apply isDelimiter_of_continuesIdentifier
  simp only [continuesIdentifier, (List.mem_filter.mp kept).2, Bool.true_or]

theorem capitalize_undelimited {word : List Char} (letters : ∀ c ∈ word, isDelimiter c = false) :
    ∀ c ∈ capitalize word, isDelimiter c = false := by
  cases word with
  | nil => exact letters
  | cons c rest =>
      obtain ⟨letter, others⟩ := List.forall_mem_cons.mp letters
      exact List.forall_mem_append.mpr ⟨upperChar_undelimited letter, others⟩

theorem joinCamel_undelimited {words : List (List Char)}
    (letters : ∀ word ∈ words, ∀ c ∈ word, isDelimiter c = false) :
    ∀ c ∈ joinCamel words, isDelimiter c = false := by
  cases words with
  | nil => exact fun c member => absurd member List.not_mem_nil
  | cons first others =>
      obtain ⟨firstLetters, otherLetters⟩ := List.forall_mem_cons.mp letters
      refine List.forall_mem_append.mpr ⟨lowerAfter_undelimited [] firstLetters, ?_⟩
      intro c member
      obtain ⟨word, listed, inside⟩ := List.mem_flatMap.mp member
      exact capitalize_undelimited (lowerAfter_undelimited [] (otherLetters word listed)) c inside

/-- The name of a schema is a word, whatever characters the declared name has. -/
theorem schemaName_isWord (declared : String) : IsWord (schemaName declared).toList := by
  have letters : ∀ c ∈ (schemaName declared).toList, isDelimiter c = false := by
    rw [schemaName, String.toList_append]
    have suffix : IsWord schemaSuffix.toList := by decide
    refine List.forall_mem_append.mpr ⟨?_, suffix.undelimited⟩
    rw [camelCase, String.toList_ofList]
    exact joinCamel_undelimited (words_undelimited declared.toList)
  refine ⟨?_, letters⟩
  rw [schemaName, String.toList_append]
  exact List.append_ne_nil_of_right_ne_nil _ (by decide)

end Name

end TypeSchema
