import TypeSchema.Proofs.DocComment.BlockComment
import TypeSchema.Proofs.TypeScript.SolidPart

/-!
Tokens that run up to a delimiter: strings, templates, block comments and regular expressions. Where
one ends does not depend on what stands after it.
-/

namespace TypeSchema.TypeScript

open Text

theorem countWhile_within {p : Char → Bool} {front after : List Char}
    (ends : countWhile p (front ++ after) < front.length) (other : List Char) :
    countWhile p (front ++ other) = countWhile p (front ++ after) := by
  unfold countWhile at *
  have short : (front.takeWhile p).length ≠ front.length := by
    intro whole
    rw [List.takeWhile_append, if_pos whole, List.length_append] at ends
    exact Nat.not_lt.mpr (Nat.le_add_right _ _) ends
  rw [List.takeWhile_append, List.takeWhile_append, if_neg short, if_neg short]

theorem head_drop_append {front : List Char} {count : Nat} (inside : count < front.length)
    (after : List Char) : ((front ++ after).drop count).head? = (front.drop count).head? := by
  rw [List.drop_append_of_le_length (Nat.le_of_lt inside)]
  have more : front.drop count ≠ [] := by
    rw [ne_eq, List.drop_eq_nil_iff]
    exact Nat.not_le_of_lt inside
  obtain ⟨c, rest, parts⟩ := List.exists_cons_of_ne_nil more
  rw [parts]
  rfl

theorem escapeLength_code {rest : List Char} : escapeLength? ('u' :: '{' :: rest) =
    if countWhile (fun c => (hexValue? c).isSome) rest = 0 ∨
      (rest.drop (countWhile (fun c => (hexValue? c).isSome) rest)).head? ≠ some '}' then none
    else some (countWhile (fun c => (hexValue? c).isSome) rest + 3) := rfl

theorem escapeLength_plain {c d : Char} (byte : c ≠ 'x') (unit : c ≠ 'u') (rest : List Char) :
    escapeLength? (c :: d :: rest) = if c = '\r' ∧ d = '\n' then some 2 else some 1 := by
  unfold escapeLength?
  split <;> simp_all

theorem escapeLength_unit {d : Char} (brace : d ≠ '\x7b') {rest : List Char} {length : Nat}
    (escape : escapeLength? ('u' :: d :: rest) = some length) :
    length = 5 ∧ ∀ e f g more, rest = e :: f :: g :: more →
      ∀ other, escapeLength? ('u' :: d :: e :: f :: g :: other) = some 5 := by
  unfold escapeLength? at escape
  split at escape <;> grind [escapeLength?]

/-- An escape sequence that something stands after is seen without the rest. -/
theorem escapeLength_within {front after : List Char} {length : Nat}
    (escape : escapeLength? (front ++ after) = some length) (longer : length < front.length)
    (other : List Char) : escapeLength? (front ++ other) = some length := by
  have positive : length ≠ 0 := by
    rintro rfl
    generalize front ++ after = text at escape
    unfold escapeLength? at escape
    grind
  obtain _ | ⟨c, _ | ⟨d, front⟩⟩ := front
  · cases longer
  · exact absurd (Nat.lt_one_iff.mp longer) positive
  simp only [List.cons_append] at escape ⊢
  by_cases byte : c = 'x'
  · subst byte
    obtain _ | ⟨e, front⟩ := front
    · cases after with
      | nil => cases escape
      | cons e after => grind [escapeLength?]
    · exact escape
  by_cases unit : c = 'u'
  · subst unit
    by_cases brace : d = '{'
    · subst brace
      rw [escapeLength_code] at escape ⊢
      split at escape
      · cases escape
      next closed =>
        cases escape
        have inside :
            countWhile (fun c => (hexValue? c).isSome) (front ++ after) < front.length := by
          simp only [List.length_cons] at longer
          omega
        rw [countWhile_within inside other, head_drop_append inside,
          ← head_drop_append inside after, if_neg closed]
    · obtain ⟨rfl, again⟩ := escapeLength_unit brace escape
      obtain _ | ⟨e, _ | ⟨f, _ | ⟨g, front⟩⟩⟩ := front
      iterate 3 exact absurd longer (by simp)
      exact again e f g _ rfl _
  · rw [escapeLength_plain byte unit] at escape ⊢
    exact escape

/-- A string ends with its quote. -/
theorem stringLength_ends {quote : Char} {skip length : Nat} {text : List Char}
    (taken : stringLength? quote skip text = some length) :
    ∃ start after, text = start ++ quote :: after ∧ length = start.length + 1 ∧
      skip ≤ start.length ∧
      ∀ other, stringLength? quote skip (start ++ quote :: other) = some length := by
  fun_induction stringLength? quote skip text generalizing length with
  | case1 => cases taken
  | case2 skip c rest induction =>
      obtain ⟨count, inner, rfl⟩ := Option.map_eq_some_iff.mp taken
      obtain ⟨start, after, rfl, rfl, skipped, again⟩ := induction inner
      refine ⟨c :: start, after, rfl, rfl, Nat.succ_le_succ skipped, fun other => ?_⟩
      rw [List.cons_append, stringLength?, again]
      rfl
  | case3 rest =>
      cases taken
      refine ⟨[], rest, rfl, rfl, Nat.le_refl 0, fun other => ?_⟩
      rw [List.nil_append, stringLength?, if_pos rfl]
  | case4 => cases taken
  | case5 rest unquoted unended induction =>
      obtain ⟨escaped, escape, taken⟩ := Option.bind_eq_some_iff.mp taken
      obtain ⟨count, inner, rfl⟩ := Option.map_eq_some_iff.mp taken
      obtain ⟨start, after, rfl, rfl, skipped, again⟩ := induction escaped inner
      refine ⟨'\\' :: start, after, rfl, rfl, Nat.zero_le _, fun other => ?_⟩
      have same : escapeLength? (start ++ quote :: other) = some escaped := by
        have whole : ∀ more, start ++ quote :: more = (start ++ [quote]) ++ more := by simp
        rw [whole] at escape ⊢
        exact escapeLength_within escape (by simpa using Nat.lt_succ_of_le skipped) other
      rw [List.cons_append, stringLength?, if_neg unquoted, if_neg unended, if_pos rfl, same,
        Option.bind_some, again]
      rfl
  | case6 c rest unquoted unended plain induction =>
      obtain ⟨count, inner, rfl⟩ := Option.map_eq_some_iff.mp taken
      obtain ⟨start, after, rfl, rfl, -, again⟩ := induction inner
      refine ⟨c :: start, after, rfl, rfl, Nat.zero_le _, fun other => ?_⟩
      rw [List.cons_append, stringLength?, if_neg unquoted, if_neg unended, if_neg plain, again]
      rfl

theorem blockCommentLength_ends {text : List Char} {length : Nat}
    (taken : blockCommentLength? text = some length) :
    ∃ body after, text = body ++ after ∧ body.length = length ∧
      blockCommentLength? body = some length := by
  fun_induction blockCommentLength? text generalizing length with
  | case1 => cases taken
  | case2 rest =>
      cases taken
      exact ⟨['*', '/'], rest, rfl, rfl, rfl⟩
  | case3 c rest other induction =>
      obtain ⟨count, inner, rfl⟩ := Option.map_eq_some_iff.mp taken
      obtain ⟨body, after, rfl, rfl, again⟩ := induction inner
      refine ⟨c :: body, after, rfl, rfl, ?_⟩
      rw [blockCommentLength?, again]
      · rfl
      · rintro more rfl rfl
        exact other _ rfl rfl

theorem blockCommentLength_append {body : List Char} {length : Nat}
    (taken : blockCommentLength? body = some length) (after : List Char) :
    blockCommentLength? (body ++ after) = some length := by
  fun_induction blockCommentLength? body generalizing length with
  | case1 => cases taken
  | case2 rest => exact taken
  | case3 c rest other induction =>
      obtain ⟨count, inner, rfl⟩ := Option.map_eq_some_iff.mp taken
      rw [List.cons_append, blockCommentLength?, induction inner]
      · rfl
      · intro more star slash
        cases rest with
        | nil => cases inner
        | cons d rest =>
            obtain ⟨rfl, -⟩ := List.cons.inj slash
            exact other rest star rfl

/-- A regular expression ends with its slash and its flags. -/
theorem regexLength_ends {inClass : Bool} {text : List Char} {length : Nat}
    (taken : regexLength? inClass text = some length) :
    ∃ start flags after, text = start ++ '/' :: flags ++ after ∧
      length = (start ++ '/' :: flags).length ∧ (∀ c ∈ flags, isWordChar c = true) ∧
      ∀ other, solidPart other = solidPart after →
        regexLength? inClass (start ++ '/' :: flags ++ other) = some length := by
  fun_induction regexLength? inClass text generalizing length with
  | case1 => cases taken
  | case2 => cases taken
  | case3 inClass c rest unended induction =>
      obtain ⟨count, inner, rfl⟩ := Option.map_eq_some_iff.mp taken
      obtain ⟨start, flags, after, rfl, rfl, words, again⟩ := induction inner
      refine ⟨'\\' :: c :: start, flags, after, rfl, rfl, words, fun other same => ?_⟩
      simp only [List.cons_append] at again ⊢
      rw [regexLength?, if_neg unended, again other same]
      rfl
  | case4 => cases taken
  | case5 inClass c rest single unended closes =>
      cases taken
      obtain ⟨rfl, outside⟩ := closes
      have flags : ∀ c ∈ rest.takeWhile isWordChar, isWordChar c = true :=
        List.all_eq_true.mp List.all_takeWhile
      refine ⟨[], rest.takeWhile isWordChar, rest.dropWhile isWordChar, ?_, ?_, flags, ?_⟩
      · simp
      · simp [countWhile, Nat.add_comm]
      · intro other same
        have solid : ∀ c, isWordChar c = true → isSolid c = true := isSolid_of rfl rfl
        have counts : countWhile isWordChar (rest.takeWhile isWordChar ++ other) =
            countWhile isWordChar rest := by
          rw [← countWhile_solidPart solid, ← countWhile_solidPart solid rest,
            solidPart_append fun c listed => solid c (flags c listed), same,
            ← solidPart_append fun c listed => solid c (flags c listed),
            List.takeWhile_append_dropWhile]
        rw [List.nil_append, List.cons_append, regexLength?, if_neg unended, if_pos ⟨rfl, outside⟩,
          counts]
        rintro d more ⟨⟩
  | case6 inClass c rest single unended other induction =>
      obtain ⟨count, inner, rfl⟩ := Option.map_eq_some_iff.mp taken
      obtain ⟨start, flags, after, rfl, rfl, words, again⟩ := induction inner
      refine ⟨c :: start, flags, after, rfl, rfl, words, fun others same => ?_⟩
      simp only [List.cons_append] at again ⊢
      rw [regexLength?, if_neg unended, if_neg other, again others same]
      · rfl
      · intro d more backslash _
        cases start with
        | nil => exact single _ _ backslash rfl
        | cons e start => exact single _ _ backslash rfl

/-- The text of a template ends with a backtick or with what opens a hole, or is all there is. -/
theorem templateLength_ends {text : List Char} {length : Nat} {ending : TemplateEnd}
    (taken : templateLength text = (length, ending)) :
    (ending = .source ∧ length = text.length) ∨ ending ≠ .source ∧
      ∃ start last after, text = start ++ last ++ after ∧ length = (start ++ last).length ∧
        (last = ['\x60'] ∨ last = ['$', '\x7b']) ∧
        ∀ other, templateLength (start ++ last ++ other) = (length, ending) := by
  fun_induction templateLength text generalizing length with
  | case1 => cases taken; exact .inl ⟨rfl, rfl⟩
  | case2 rest =>
      cases taken
      exact .inr ⟨by decide, [], ['\x60'], rest, rfl, rfl, .inl rfl, fun _ => rfl⟩
  | case3 rest =>
      cases taken
      exact .inr ⟨by decide, [], ['$', '\x7b'], rest, rfl, rfl, .inr rfl, fun _ => rfl⟩
  | case4 c rest count found inner induction =>
      cases taken
      obtain ⟨rfl, rfl⟩ | ⟨ended, start, last, after, rfl, rfl, lasts, again⟩ := induction inner
      · exact .inl ⟨rfl, rfl⟩
      · refine .inr ⟨ended, '\\' :: c :: start, last, after, rfl, rfl, lasts, fun other => ?_⟩
        simp only [List.cons_append, templateLength, again other]
  | case5 c rest backtick hole escape count found inner induction =>
      cases taken
      obtain ⟨rfl, rfl⟩ | ⟨ended, start, last, after, rfl, rfl, lasts, again⟩ := induction inner
      · exact .inl ⟨rfl, rfl⟩
      · refine .inr ⟨ended, c :: start, last, after, rfl, rfl, lasts, fun other => ?_⟩
        obtain ⟨d, more, front⟩ : ∃ d more, start ++ last = d :: more :=
          List.exists_cons_of_ne_nil (by rcases lasts with rfl | rfl <;> simp)
        rw [front] at again hole escape
        simp only [List.cons_append, front]
        have step : templateLength (c :: (d :: more ++ other)) =
            ((templateLength (d :: more ++ other)).1 + 1,
              (templateLength (d :: more ++ other)).2) := by
          rw [templateLength]
          · exact backtick
          · rintro tail dollar ⟨⟩
            exact hole (more ++ after) dollar rfl
          · exact fun e tail backslash _ => escape d (more ++ after) backslash rfl
        rw [again other] at step
        exact step

end TypeSchema.TypeScript
