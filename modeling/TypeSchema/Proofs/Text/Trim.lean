import TypeSchema.Text.Trim

/-!
Cutting a text: what is left has its characters in their order, begins and ends where the text does but
for white space, and no line holds a line feed.
-/

namespace TypeSchema.Text

open Unicode

theorem trim_sublist (text : List Char) : (trim text).Sublist text := by
  have back := (List.dropWhile_sublist (p := Unicode.isBlank) (l := (trimStart text).reverse)).reverse
  rw [List.reverse_reverse] at back
  exact back.trans (List.dropWhile_sublist Unicode.isBlank)

theorem lines_oneLine (text : List Char) : ∀ line ∈ lines text, '\n' ∉ line := by
  fun_induction lines text with
  | case1 => exact fun line listed => absurd listed List.not_mem_nil
  | case2 rest induction => exact List.forall_mem_cons.mpr ⟨List.not_mem_nil, induction⟩
  | case3 rest induction => exact List.forall_mem_cons.mpr ⟨List.not_mem_nil, induction⟩
  | case4 c rest notEnd notPair none induction =>
      exact List.forall_mem_singleton.mpr fun listed => notEnd (List.mem_singleton.mp listed).symm
  | case5 c rest notEnd notPair line others split induction =>
      rw [split] at induction
      obtain ⟨head, tail⟩ := List.forall_mem_cons.mp induction
      refine List.forall_mem_cons.mpr ⟨?_, tail⟩
      exact List.not_mem_cons_of_ne_of_not_mem (fun same => notEnd same.symm) head

variable {text : List Char}

/-- Text that neither starts nor ends with white space. -/
structure Trimmed (text : List Char) : Prop where
  head : ∀ c ∈ text.head?, isBlank c = false
  last : ∀ c ∈ text.getLast?, isBlank c = false

theorem trimmed_trim (text : List Char) : Trimmed (trim text) := by
  have solid (text : List Char) : ∀ c ∈ (text.dropWhile isBlank).head?, isBlank c = false := by
    intro c first
    have known := List.head?_dropWhile_not isBlank text
    rwa [first] at known
  constructor
  · have prefixed : trim text <+: trimStart text := by
      rw [trim, trimEnd, ← List.reverse_suffix, List.reverse_reverse]
      exact List.dropWhile_suffix isBlank
    obtain ⟨after, whole⟩ := prefixed
    intro c first
    refine solid text c ?_
    rw [← trimStart, ← whole, List.head?_append, first]
    rfl
  · intro c final
    rw [trim, trimEnd, List.getLast?_reverse] at final
    exact solid _ c final

theorem trim_split (text : List Char) : ∃ before after,
    (∀ c ∈ before, isBlank c = true) ∧ (∀ c ∈ after, isBlank c = true) ∧
      text = before ++ (trim text ++ after) := by
  refine ⟨text.takeWhile isBlank, ((trimStart text).reverse.takeWhile isBlank).reverse,
    List.all_eq_true.mp List.all_takeWhile, fun c listed => ?_, ?_⟩
  · exact List.all_eq_true.mp List.all_takeWhile c (List.mem_reverse.mp listed)
  · rw [trim, trimEnd, ← List.reverse_append, List.takeWhile_append_dropWhile, List.reverse_reverse,
      trimStart, List.takeWhile_append_dropWhile]

section Around

variable {before after core : List Char}

theorem dropWhile_isBlank (solid : ∀ c ∈ text.head?, isBlank c = false) :
    text.dropWhile isBlank = text := by
  cases text with
  | nil => rfl
  | cons c rest => exact List.dropWhile_cons_of_neg (Bool.eq_false_iff.mp (solid c rfl))

/-- A trimmed text with white space around it is what trimming leaves. -/
theorem trim_of_split (blankBefore : ∀ c ∈ before, isBlank c = true)
    (blankAfter : ∀ c ∈ after, isBlank c = true) (trimmed : Trimmed core) :
    trim (before ++ (core ++ after)) = core := by
  have ending : trimEnd (core ++ after) = core := by
    have solid : ∀ c ∈ core.reverse.head?, isBlank c = false := by
      rw [List.head?_reverse]
      exact trimmed.last
    rw [trimEnd, List.reverse_append,
      List.dropWhile_append_of_pos fun c listed => blankAfter c (List.mem_reverse.mp listed),
      dropWhile_isBlank solid, List.reverse_reverse]
  rw [trim, trimStart, List.dropWhile_append_of_pos blankBefore]
  cases core with
  | nil =>
      rw [List.nil_append, ← List.append_nil after, List.dropWhile_append_of_pos blankAfter]
      rfl
  | cons c rest =>
      rw [List.cons_append, List.dropWhile_cons_of_neg (Bool.eq_false_iff.mp (trimmed.head c rfl)),
        ← List.cons_append, ending]

theorem Trimmed.trim_eq (trimmed : Trimmed text) : trim text = text := by
  have alone : trim ([] ++ (text ++ [])) = text :=
    trim_of_split (List.forall_mem_nil _) (List.forall_mem_nil _) trimmed
  rwa [List.nil_append, List.append_nil] at alone

theorem trim_trim (text : List Char) : trim (trim text) = trim text :=
  (trimmed_trim text).trim_eq

theorem trim_around (blankBefore : ∀ c ∈ before, isBlank c = true)
    (blankAfter : ∀ c ∈ after, isBlank c = true) (text : List Char) :
    trim (before ++ (text ++ after)) = trim text := by
  obtain ⟨first, last, blankFirst, blankLast, split⟩ := trim_split text
  have joined : before ++ (text ++ after) = (before ++ first) ++ (trim text ++ (last ++ after)) := by
    rw [List.append_assoc, ← List.append_assoc (trim text), ← List.append_assoc first, ← split]
  rw [joined]
  exact trim_of_split (List.forall_mem_append.mpr ⟨blankBefore, blankFirst⟩)
    (List.forall_mem_append.mpr ⟨blankLast, blankAfter⟩) (trimmed_trim text)

theorem trim_blanks_append (blank : ∀ c ∈ before, isBlank c = true) (text : List Char) :
    trim (before ++ text) = trim text := by
  have around : trim (before ++ (text ++ [])) = trim text :=
    trim_around blank (List.forall_mem_nil _) text
  rwa [List.append_nil] at around

theorem trim_append_blanks (blank : ∀ c ∈ after, isBlank c = true) (text : List Char) :
    trim (text ++ after) = trim text :=
  trim_around (List.forall_mem_nil _) blank text

theorem Trimmed.reverse (trimmed : Trimmed text) : Trimmed text.reverse where
  head := by
    rw [List.head?_reverse]
    exact trimmed.last
  last := by
    rw [List.getLast?_reverse]
    exact trimmed.head

theorem trim_reverse (text : List Char) : trim text.reverse = (trim text).reverse := by
  obtain ⟨first, last, blankFirst, blankLast, split⟩ := trim_split text
  have mirrored : text.reverse = last.reverse ++ ((trim text).reverse ++ first.reverse) := by
    have reversed := congrArg List.reverse split
    rwa [List.reverse_append, List.reverse_append, List.append_assoc] at reversed
  rw [mirrored]
  exact trim_of_split (fun c listed => blankLast c (List.mem_reverse.mp listed))
    (fun c listed => blankFirst c (List.mem_reverse.mp listed)) (trimmed_trim text).reverse

end Around

theorem trimEnd_split (text : List Char) :
    ∃ after, text = trimEnd text ++ after ∧ ∀ c ∈ after, isBlank c = true := by
  refine ⟨(text.reverse.takeWhile isBlank).reverse, ?_, fun c listed => ?_⟩
  · rw [trimEnd, ← List.reverse_append, List.takeWhile_append_dropWhile, List.reverse_reverse]
  · exact List.all_eq_true.mp List.all_takeWhile c (List.mem_reverse.mp listed)

theorem trim_trimEnd (text : List Char) : trim (trimEnd text) = trim text := by
  obtain ⟨after, split, blank⟩ := trimEnd_split text
  rw [← trim_append_blanks blank, ← split]

theorem trimEnd_append {start : List Char} (solid : ∀ c ∈ start, isBlank c = false)
    (text : List Char) : trimEnd (start ++ text) = start ++ trimEnd text := by
  have stays : start.reverse.dropWhile isBlank = start.reverse := by
    refine dropWhile_isBlank fun c last => solid c ?_
    exact List.mem_reverse.mp (List.mem_of_head? last)
  rw [trimEnd, trimEnd, List.reverse_append, List.dropWhile_append, stays]
  cases text.reverse.dropWhile isBlank with
  | nil => simp
  | cons c rest => simp

theorem trim_cons {c : Char} (solid : isBlank c = false) (text : List Char) :
    trim (c :: text) = c :: trimEnd text := by
  rw [trim, trimStart, List.dropWhile_cons_of_neg (Bool.eq_false_iff.mp solid)]
  exact trimEnd_append (List.forall_mem_singleton.mpr solid) text

theorem head?_trim {c : Char} (solid : isBlank c = false) (head : text.head? = some c) :
    (trim text).head? = some c := by
  obtain ⟨before, after, blankBefore, blankAfter, split⟩ := trim_split text
  rw [split, List.head?_append, List.head?_append] at head
  cases start : before.head? with
  | some d =>
      rw [start] at head
      cases head
      rw [blankBefore c (List.mem_of_head? start)] at solid
      cases solid
  | none =>
      rw [start, Option.none_or] at head
      cases middle : (trim text).head? with
      | some d => rwa [middle] at head
      | none =>
          rw [middle, Option.none_or] at head
          rw [blankAfter c (List.mem_of_head? head)] at solid
          cases solid

theorem getLast?_trim {c : Char} (solid : isBlank c = false) (last : text.getLast? = some c) :
    (trim text).getLast? = some c := by
  obtain ⟨before, after, blankBefore, blankAfter, split⟩ := trim_split text
  rw [split, List.getLast?_append, List.getLast?_append] at last
  cases final : after.getLast? with
  | some d =>
      rw [final] at last
      cases last
      rw [blankAfter c (List.mem_of_getLast? final)] at solid
      cases solid
  | none =>
      rw [final, Option.none_or] at last
      cases middle : (trim text).getLast? with
      | some d => rwa [middle] at last
      | none =>
          rw [middle, Option.none_or] at last
          rw [blankBefore c (List.mem_of_getLast? last)] at solid
          cases solid

theorem lines_cons {c : Char} (solid : isBlank c = false) (rest : List Char) :
    ∃ line others, lines (c :: rest) = (c :: line) :: others := by
  have feed : c ≠ '\n' := by
    rintro rfl
    exact absurd solid (by decide)
  have carriage : c ≠ '\r' := by
    rintro rfl
    exact absurd solid (by decide)
  rw [lines]
  · cases lines rest with
    | nil => exact ⟨[], [], rfl⟩
    | cons line others => exact ⟨line, others, rfl⟩
  · exact feed
  · exact fun _ same _ => carriage same

theorem getLast?_of_cons {c d : Char} {rest : List Char} (last : (c :: rest).getLast? = some d) :
    rest.getLast? = some d ∨ rest = [] ∧ c = d := by
  cases rest with
  | nil => exact .inr ⟨rfl, Option.some.inj last⟩
  | cons e more => exact .inl last

theorem lines_last {d : Char} (solid : isBlank d = false) (last : text.getLast? = some d) :
    ∃ line, (lines text).getLast? = some line ∧ line.getLast? = some d := by
  have feed : '\n' ≠ d := by
    rintro rfl
    exact absurd solid (by decide)
  fun_induction lines text with
  | case1 => cases last
  | case2 rest induction =>
      obtain later | ⟨-, same⟩ := getLast?_of_cons last
      · obtain ⟨line, isLast, ends⟩ := induction later
        exact ⟨line, by rw [List.getLast?_cons, isLast, Option.getD_some], ends⟩
      · exact absurd same feed
  | case3 rest induction =>
      rw [List.getLast?_cons_cons] at last
      obtain later | ⟨-, same⟩ := getLast?_of_cons last
      · obtain ⟨line, isLast, ends⟩ := induction later
        exact ⟨line, by rw [List.getLast?_cons, isLast, Option.getD_some], ends⟩
      · exact absurd same feed
  | case4 c rest notEnd notPair none induction =>
      obtain later | ⟨-, rfl⟩ := getLast?_of_cons last
      · obtain ⟨line, isLast, ends⟩ := induction later
        rw [none] at isLast
        cases isLast
      · exact ⟨[c], rfl, rfl⟩
  | case5 c rest notEnd notPair line others split induction =>
      obtain later | ⟨rfl, -⟩ := getLast?_of_cons last
      · obtain ⟨final, isLast, ends⟩ := induction later
        rw [split] at isLast
        cases others with
        | nil =>
            have same : line = final := Option.some.inj isLast
            exact ⟨c :: line, rfl, by rw [List.getLast?_cons, same, ends, Option.getD_some]⟩
        | cons next more => exact ⟨final, isLast, ends⟩
      · cases split

end TypeSchema.Text
