import TypeSchema.Proofs.TypeScript.SolidPart

/-!
Tokens that do not run up to a delimiter: words, numbers and marks. They look at no more of a text
than the part before its first slash or blank, and take no backslash.
-/

namespace TypeSchema.TypeScript

open Text

/-- The characters that may start a token that runs up to a delimiter. -/
def delimiters : List Char :=
  ['/', '"', '\'', '\x60', '}']

variable (state : LexicalState)

theorem lexeme_space {c : Char} (space : isSpace c = true) (rest : List Char) :
    lexeme state c rest = (.blank, 1 + countWhile isSpace rest) := by
  unfold lexeme
  rw [if_pos space]

theorem lexeme_word {c : Char} (space : isSpace c = false) (word : startsWord c = true)
    (rest : List Char) : lexeme state c rest = (.word, 1 + countWhile isWordChar rest) := by
  unfold lexeme
  rw [if_neg (by simp [space]), if_pos word]

theorem lexeme_digit {c : Char} (space : isSpace c = false) (digit : c.isDigit = true)
    (rest : List Char) : lexeme state c rest = (.number, numberLength (c :: rest)) := by
  have word : startsWord c = false := by simp [startsWord, digit]
  unfold lexeme
  rw [if_neg (by simp [space]), if_neg (by simp [word]), if_pos digit]

/-- The characters whose token depends on the next ones. -/
def joining : List Char :=
  ['.', '=', '+', '-', '#']

theorem lexeme_single {c : Char} (space : isSpace c = false) (word : startsWord c = false)
    (digit : c.isDigit = false) (delimiter : c ∉ delimiters) (joins : c ∉ joining)
    (rest : List Char) :
    lexeme state c rest = if c ∈ reserved ∧ c ≠ '\\' then (.mark, 1) else (.invalid, 1) := by
  simp only [delimiters, joining, List.mem_cons, List.not_mem_nil, or_false, not_or]
    at delimiter joins
  unfold lexeme
  rw [if_neg (by simp [space]), if_neg (by simp [word]), if_neg (by simp [digit])]
  split <;> simp_all

theorem lexeme_pair {c d : Char} (pair : (c, d) ∈ [('=', '>'), ('+', '+'), ('-', '-')])
    (rest : List Char) :
    lexeme state c rest = if rest.head? = some d then (.mark, 2) else (.mark, 1) := by
  simp only [List.mem_cons, List.not_mem_nil, or_false, Prod.mk.injEq] at pair
  unfold lexeme
  obtain ⟨rfl, rfl⟩ | ⟨rfl, rfl⟩ | ⟨rfl, rfl⟩ := pair <;>
    rw [if_neg (by decide), if_neg (by decide), if_neg (by decide)] <;> cases rest <;> split <;>
    simp_all [show '=' ∈ reserved by decide, show '+' ∈ reserved by decide,
      show '-' ∈ reserved by decide]

theorem lexeme_point (rest : List Char) : lexeme state '.' rest =
    if rest.head? = some '.' ∧ (rest.drop 1).head? = some '.' then (.mark, 3)
    else if rest.head?.any Char.isDigit then (.number, numberLength ('.' :: rest))
    else (.mark, 1) := by
  unfold lexeme
  rw [if_neg (by decide), if_neg (by decide), if_neg (by decide)]
  obtain _ | ⟨d, text⟩ := rest
  · rfl
  by_cases points : d = '.' ∧ text.head? = some '.'
  · obtain ⟨rfl, second⟩ := points
    obtain ⟨more, rfl⟩ := List.head?_eq_some_iff.mp second
    rfl
  · rw [if_neg (by simpa using points)]
    split <;> simp_all

theorem lexeme_hash (d : Char) (text : List Char) : lexeme state '#' (d :: text) =
    if startsWord d then (.word, 2 + countWhile isWordChar text) else (.invalid, 1) := by
  unfold lexeme
  rw [if_neg (by decide), if_neg (by decide), if_neg (by decide)]
  rfl

theorem isSolid_of_isWordChar : ∀ c, isWordChar c = true → isSolid c = true :=
  isSolid_of rfl rfl

theorem isWordChar_of_startsWord {c : Char} (starts : startsWord c = true) : isWordChar c = true :=
  (Bool.and_eq_true_iff.mp starts).1

/-- Where no token runs up to a delimiter, only the part before the first slash or blank counts. -/
theorem lexeme_solidPart {c : Char} (space : isSpace c = false) (delimiter : c ∉ delimiters)
    (rest : List Char) : lexeme state c (solidPart rest) = lexeme state c rest := by
  by_cases word : startsWord c = true
  · rw [lexeme_word state space word, lexeme_word state space word,
      countWhile_solidPart isSolid_of_isWordChar]
  by_cases digit : c.isDigit = true
  · rw [lexeme_digit state space digit, lexeme_digit state space digit,
      ← solidPart_cons_of_solid (isSolid_of_isDigit c digit), numberLength_solidPart]
  by_cases joins : c ∈ joining
  · have pairs : ∀ d, isSolid d = true → (c, d) ∈ [('=', '>'), ('+', '+'), ('-', '-')] →
        lexeme state c (solidPart rest) = lexeme state c rest := by
      intro d solid pair
      rw [lexeme_pair state pair, lexeme_pair state pair]
      simp only [head_solidPart solid]
    simp only [joining, List.mem_cons, List.not_mem_nil, or_false] at joins
    obtain rfl | rfl | rfl | rfl | rfl := joins
    · have first : (solidPart rest).head? = some '.' ↔ rest.head? = some '.' :=
        head_solidPart rfl rest
      have second (starts : rest.head? = some '.') :
          ((solidPart rest).drop 1).head? = some '.' ↔ (rest.drop 1).head? = some '.' := by
        obtain ⟨text, rfl⟩ := List.head?_eq_some_iff.mp starts
        exact head_solidPart rfl text
      have digits : (solidPart rest).head?.any Char.isDigit = rest.head?.any Char.isDigit := by
        cases rest with
        | nil => rfl
        | cons d text => 
          rw [solidPart_cons]
          split
          · rfl
          next plain => 
            have other : ¬d.isDigit = true := plain ∘ isSolid_of_isDigit d
            simp [other]
      have number := numberLength_solidPart ('.' :: rest)
      rw [solidPart_cons_of_solid rfl] at number
      rw [lexeme_point, lexeme_point, digits, number]
      simp only [first, and_congr_right_iff.mpr second]
    · exact pairs '>' rfl (by simp)
    · exact pairs '+' rfl (by simp)
    · exact pairs '-' rfl (by simp)
    · obtain _ | ⟨d, text⟩ := rest
      · rfl
      rw [solidPart_cons]
      split
      · simp only [lexeme_hash, countWhile_solidPart isSolid_of_isWordChar]
      next plain =>
        have word : ¬startsWord d = true := fun starts =>
          plain (isSolid_of_isWordChar d (isWordChar_of_startsWord starts))
        rw [lexeme_hash, if_neg word]
        rfl
  · simp only [Bool.not_eq_true] at word digit
    rw [lexeme_single state space word digit delimiter joins,
      lexeme_single state space word digit delimiter joins]

/-- Whether what is found is neither a blank nor a comment, and no backslash is taken. -/
def TakesPlain (rest : List Char) (found : TokenKind × Nat) : Prop :=
  Token.isTrivia ⟨found.1, []⟩ = false ∧ '\\' ∉ rest.take (found.2 - 1)

theorem word_takesPlain (text : List Char) :
    TakesPlain text (.word, 1 + countWhile isWordChar text) := by
  refine ⟨rfl, fun taken => ?_⟩
  rw [Nat.add_sub_cancel_left] at taken
  exact absurd (forall_take_countWhile isWordChar text _ taken) (by decide)

theorem number_takesPlain (c : Char) (text : List Char) :
    TakesPlain text (.number, numberLength (c :: text)) := by
  refine ⟨rfl, fun taken => ?_⟩
  have within : '\\' ∈ (c :: text).take (numberLength (c :: text)) := by
    cases length : numberLength (c :: text) with
    | zero =>
        rw [length] at taken
        exact absurd taken List.not_mem_nil
    | succ count =>
        rw [length, Nat.add_sub_cancel] at taken
        exact List.mem_cons_of_mem c taken
  exact absurd (number_continues _ _ within) (by decide)

theorem mark_takesPlain (rest : List Char) : TakesPlain rest (.mark, 1) :=
  ⟨rfl, List.not_mem_nil⟩

theorem pair_takesPlain {c d : Char} (pair : (c, d) ∈ [('=', '>'), ('+', '+'), ('-', '-')])
    (rest : List Char) : TakesPlain rest (lexeme state c rest) := by
  have other : d ≠ '\\' := by
    rintro rfl
    exact absurd pair (by simp)
  rw [lexeme_pair state pair]
  split
  next starts =>
    obtain ⟨text, rfl⟩ := List.head?_eq_some_iff.mp starts
    exact ⟨rfl, by simpa using other.symm⟩
  next => exact mark_takesPlain rest

theorem point_takesPlain (rest : List Char) : TakesPlain rest (lexeme state '.' rest) := by
  rw [lexeme_point]
  split
  next points =>
    obtain ⟨text, rfl⟩ := List.head?_eq_some_iff.mp points.1
    obtain ⟨more, rfl⟩ := List.head?_eq_some_iff.mp points.2
    exact ⟨rfl, by simp⟩
  next =>
    split
    · exact number_takesPlain '.' rest
    · exact mark_takesPlain rest

theorem hash_takesPlain {rest : List Char} (valid : (lexeme state '#' rest).1 ≠ .invalid) :
    TakesPlain rest (lexeme state '#' rest) := by
  obtain _ | ⟨d, text⟩ := rest
  · exact absurd rfl valid
  rw [lexeme_hash] at valid ⊢
  by_cases starts : startsWord d = true
  · have other : d ≠ '\\' := by
      rintro rfl
      cases starts
    have word := (word_takesPlain text).2
    rw [Nat.add_sub_cancel_left] at word
    rw [if_pos starts, Nat.add_comm 2]
    exact ⟨rfl, List.not_mem_cons_of_ne_of_not_mem other.symm word⟩
  · exact absurd (congrArg Prod.fst (if_neg starts)) valid

/-- Where no token runs up to a delimiter, one that is valid is plain. -/
theorem lexeme_takesPlain {c : Char} (space : isSpace c = false) (delimiter : c ∉ delimiters)
    {rest : List Char} (valid : (lexeme state c rest).1 ≠ .invalid) :
    TakesPlain rest (lexeme state c rest) := by
  by_cases word : startsWord c = true
  · rw [lexeme_word state space word]
    exact word_takesPlain rest
  by_cases digit : c.isDigit = true
  · rw [lexeme_digit state space digit]
    exact number_takesPlain c rest
  by_cases joins : c ∈ joining
  · simp only [joining, List.mem_cons, List.not_mem_nil, or_false] at joins
    obtain rfl | rfl | rfl | rfl | rfl := joins
    · exact point_takesPlain state rest
    · exact pair_takesPlain state (d := '>') (by simp) rest
    · exact pair_takesPlain state (d := '+') (by simp) rest
    · exact pair_takesPlain state (d := '-') (by simp) rest
    · exact hash_takesPlain state valid
  · simp only [Bool.not_eq_true] at word digit
    rw [lexeme_single state space word digit delimiter joins] at valid ⊢
    split at valid
    next mark =>
      rw [if_pos mark]
      exact mark_takesPlain rest
    next => exact absurd rfl valid

theorem not_valid_backslash (rest : List Char) : (lexeme state '\\' rest).1 = .invalid :=
  congrArg Prod.fst (lexeme_single state rfl rfl rfl (by decide) (by decide) rest)

end TypeSchema.TypeScript
