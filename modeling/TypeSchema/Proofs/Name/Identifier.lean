import TypeSchema.Proofs.Name.CamelCase
import TypeSchema.Proofs.Name.CaseForms

/-!
When the name of a schema is an identifier. The name begins with the first letter or number of the
declared one, and it goes on with letters and numbers, but for the few characters whose form in the other
case takes combining marks.
-/

namespace TypeSchema.Name

open Text Unicode

/-! The words of a name. -/

theorem nil_notMem_finishWord (pending : List Char) : [] ∉ finishWord pending := by
  cases pending with
  | nil => exact List.not_mem_nil
  | cons c rest => simp [finishWord]

theorem nil_notMem_wordsAfter (pending text : List Char) : [] ∉ wordsAfter pending text := by
  induction text generalizing pending with
  | nil => exact nil_notMem_finishWord pending
  | cons c rest induction =>
      unfold wordsAfter
      split
      next => exact List.not_mem_append (nil_notMem_finishWord pending) (induction [])
      next =>
        split
        · exact List.not_mem_append (nil_notMem_finishWord pending) (induction [c])
        · exact induction (c :: pending)

theorem words_alphanumeric (name : List Char) :
    ∀ word ∈ words name, ∀ c ∈ word, isAlphanumeric c = true := by
  intro word listed c inside
  have kept : c ∈ (words name).flatten := List.mem_flatten_of_mem listed inside
  rw [flatten_words] at kept
  exact (List.mem_filter.mp kept).2

/-! Words put together: how the name begins, and how it goes on. -/

theorem isIdentifier_iff {text : List Char} (nonempty : text ≠ []) :
    isIdentifier text = true ↔
      (∀ c ∈ text.head?, startsIdentifier c = true) ∧ text.all continuesIdentifier = true := by
  cases text with
  | nil => exact absurd rfl nonempty
  | cons c rest =>
      rw [isIdentifier, List.all_cons, Bool.and_eq_true, Bool.and_eq_true, List.head?_cons]
      simp only [Option.mem_some_iff, forall_eq']
      exact and_congr_right fun starts =>
        (and_iff_right (continuesIdentifier_of_startsIdentifier starts)).symm

theorem startsIdentifier_iff {c : Char} (kept : isAlphanumeric c = true) :
    startsIdentifier c = true ↔ isAlphabetic c = true := by
  have notLine : c ≠ '_' := by
    rintro rfl
    revert kept
    decide
  have notDollar : c ≠ '$' := by
    rintro rfl
    revert kept
    decide
  simp [startsIdentifier, notLine, notDollar]

/-- A word in lower case begins with a letter if the word does. -/
theorem lower_begins {c : Char} (kept : isAlphanumeric c = true) (rest : List Char) :
    ∃ d more, lower (c :: rest) = d :: more ∧ isAlphanumeric d = true ∧
      isAlphabetic d = isAlphabetic c := by
  obtain ⟨small, form, written⟩ := lowerAfter_cons [] c rest
  obtain ⟨d, more, rfl, alphanumeric, same⟩ := form.begins kept
  exact ⟨d, _, written, alphanumeric, same⟩

theorem joinCamel_starts {words : List (List Char)}
    (kept : ∀ word ∈ words, ∀ c ∈ word, isAlphanumeric c = true) (separate : [] ∉ words)
    (some : words ≠ []) (rest : List Char) :
    (∀ d ∈ (joinCamel words ++ rest).head?, startsIdentifier d = true) ↔
      ∀ c ∈ words.flatten.head?, isAlphabetic c = true := by
  cases words with
  | nil => exact absurd rfl some
  | cons first others =>
      cases first with
      | nil => exact absurd List.mem_cons_self separate
      | cons c word =>
          have head := kept (c :: word) List.mem_cons_self c List.mem_cons_self
          obtain ⟨d, more, written, alphanumeric, same⟩ := lower_begins head word
          rw [joinCamel, written]
          simp [startsIdentifier_iff alphanumeric, same]

theorem capitalize_lower_continues {word : List Char} (kept : ∀ c ∈ word, isAlphanumeric c = true) :
    (capitalize (lower word)).all continuesIdentifier = true ↔
      'İ' ∉ word ∧ ∀ c ∈ (lower word).head?, c ∉ markedCapitals := by
  cases word with
  | nil => simp [lower, lowerAfter, capitalize]
  | cons c rest =>
      have small : (lower (c :: rest)).all continuesIdentifier = true ↔ 'İ' ∉ c :: rest :=
        lowerAfter_continues [] kept
      obtain ⟨d, more, written, alphanumeric, -⟩ := lower_begins (kept c List.mem_cons_self) rest
      rw [written, List.all_cons, continuesIdentifier_of_isAlphanumeric alphanumeric,
        Bool.true_and] at small
      rw [written, capitalize, List.all_append, Bool.and_eq_true, upperChar_continues alphanumeric,
        small, and_comm]
      simp

theorem joinCamel_continues {words : List (List Char)}
    (kept : ∀ word ∈ words, ∀ c ∈ word, isAlphanumeric c = true) :
    (joinCamel words).all continuesIdentifier = true ↔
      'İ' ∉ words.flatten ∧
        ∀ word ∈ words.tail, ∀ c ∈ (lower word).head?, c ∉ markedCapitals := by
  cases words with
  | nil => simp [joinCamel]
  | cons first others =>
      obtain ⟨firstKept, othersKept⟩ := List.forall_mem_cons.mp kept
      have each : (others.flatMap fun word => capitalize (lower word)).all continuesIdentifier = true ↔
          ∀ word ∈ others, 'İ' ∉ word ∧ ∀ c ∈ (lower word).head?, c ∉ markedCapitals := by
        rw [List.all_flatMap, List.all_eq_true]
        exact forall₂_congr fun word listed => capitalize_lower_continues (othersKept word listed)
      rw [joinCamel, List.all_append, Bool.and_eq_true, lower, lowerAfter_continues [] firstKept, each,
        List.flatten_cons, List.mem_append, not_or, List.mem_flatten, List.tail_cons]
      simp only [forall_and, not_exists, not_and, and_assoc]

/-! Names. -/

/-- No character of a name in ASCII takes a combining mark. -/
theorem unmarked_of_ascii {name : List Char} (ascii : IsAscii name) :
    'İ' ∉ name ∧ ∀ word ∈ (words name).tail, ∀ c ∈ (lower word).head?, c ∉ markedCapitals := by
  constructor
  · intro dotted
    exact absurd (ascii 'İ' dotted) (by decide)
  · intro word listed c first marked
    have small := List.mem_of_mem_head? first
    rw [lower, lowerAfter_ascii [] (words_ascii ascii word (List.mem_of_mem_tail listed))] at small
    obtain ⟨d, inside, rfl⟩ := List.mem_map.mp small
    have low := toLower_ascii (words_ascii ascii word (List.mem_of_mem_tail listed) d inside)
    exact absurd (marked_beyond _ marked) (Nat.not_le_of_lt low)

/-- The name of a schema is an identifier exactly if the first letter or number of the declared name is a
letter and no character takes a combining mark where its form in the other case is written. -/
theorem isIdentifier_schemaName_iff (name : String) :
    isIdentifier (schemaName name).toList = true ↔
      (∀ c ∈ name.toList.find? isAlphanumeric, isAlphabetic c = true) ∧
      'İ' ∉ name.toList ∧
      ∀ word ∈ (words name.toList).tail, ∀ c ∈ (lower word).head?, c ∉ markedCapitals := by
  have kept := words_alphanumeric name.toList
  have dotted : 'İ' ∉ (words name.toList).flatten ↔ 'İ' ∉ name.toList := by
    have alphanumeric : isAlphanumeric 'İ' = true := by decide
    rw [flatten_words, List.mem_filter, and_iff_left alphanumeric]
  have suffix : schemaSuffix.toList.all continuesIdentifier = true := by decide
  rw [schemaName, camelCase, String.toList_append, String.toList_ofList,
    isIdentifier_iff (List.append_ne_nil_of_right_ne_nil _ (by decide)), List.all_append, suffix,
    Bool.and_true, joinCamel_continues kept, dotted]
  refine and_congr_left fun _ => ?_
  rw [← List.head?_filter, ← flatten_words]
  by_cases none : words name.toList = []
  · -- all that is left is the suffix
    have starts : startsIdentifier 'S' = true := by decide
    simp [none, joinCamel, schemaSuffix, starts]
  · exact joinCamel_starts kept (nil_notMem_wordsAfter [] name.toList) none schemaSuffix.toList

theorem isIdentifier_schemaName_marked_first :
    '\u01f0' ∈ markedCapitals ∧ isIdentifier (schemaName "_\u01f0HTTP2_9Lives").toList = true := by
  have first : "_\u01f0HTTP2_9Lives".toList.find? isAlphanumeric = some '\u01f0' := by decide +kernel
  have others : (words "_\u01f0HTTP2_9Lives".toList).tail =
      ["HTTP2".toList, "9".toList, "Lives".toList] := by decide +kernel
  refine ⟨by decide, (isIdentifier_schemaName_iff _).mpr ⟨?_, by decide, ?_⟩⟩
  · rw [first]
    rintro c ⟨⟩
    decide
  · rw [others]
    refine List.forall_mem_cons.mpr ⟨?_, List.forall_mem_cons.mpr ⟨?_, ?_⟩⟩
    · rintro c ⟨⟩
      decide
    · rintro c ⟨⟩
      decide
    · refine List.forall_mem_singleton.mpr ?_
      rintro c ⟨⟩
      decide

theorem schemaName_digit_first :
    isIdentifier "_1".toList = true ∧ schemaName "_1" = "1Schema" ∧
      isIdentifier (schemaName "_1").toList = false := by
  decide +kernel

end TypeSchema.Name
