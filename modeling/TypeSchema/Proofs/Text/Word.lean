import TypeSchema.Name
import TypeSchema.Text.Identifier

/-!
Words of source text: names and keys, which go on up to a delimiter. The name of a schema is a word
whatever the declared name is.
-/

namespace TypeSchema

open Unicode

namespace Text

/-- A property of the characters of ASCII is decided by their codes. -/
theorem ascii_forall {p : Char → Prop} (every : ∀ code < 128, p (Char.ofNat code)) {c : Char}
    (ascii : c.toNat < 128) : p c := by
  rw [← Char.ofNat_toNat c]
  exact every c.toNat ascii

/-- A text is cut off a longer one where its characters end. -/
theorem cut_unique {p : Char → Bool} {first second rest others : List Char}
    (firstAll : ∀ c ∈ first, p c = true) (secondAll : ∀ c ∈ second, p c = true)
    (firstEnds : ∀ c ∈ rest.head?, p c = false) (secondEnds : ∀ c ∈ others.head?, p c = false)
    (same : first ++ rest = second ++ others) : first = second ∧ rest = others := by
  induction first generalizing second with
  | nil =>
      cases second with
      | nil => exact ⟨rfl, same⟩
      | cons c second =>
          have ends := firstEnds c (by rw [List.nil_append] at same; rw [same]; rfl)
          rw [secondAll c List.mem_cons_self] at ends
          cases ends
  | cons c first induction =>
      cases second with
      | nil =>
          have ends := secondEnds c (by rw [List.nil_append] at same; rw [← same]; rfl)
          rw [firstAll c List.mem_cons_self] at ends
          cases ends
      | cons d second =>
          obtain ⟨rfl, tails⟩ := List.cons.inj same
          obtain ⟨rfl, rests⟩ := induction (fun c member => firstAll c (List.mem_cons_of_mem _ member))
            (fun c member => secondAll c (List.mem_cons_of_mem _ member)) tails
          exact ⟨rfl, rests⟩

def delimiters : List Char :=
  ['.', '(', ')', ',', ':', '\n', '[', ']', '{', '}', '"', '/', ' ']

def isDelimiter (c : Char) : Bool :=
  delimiters.contains c

/-- One character or more, without a delimiter among them. -/
structure IsWord (text : List Char) : Prop where
  nonempty : text ≠ []
  undelimited : ∀ c ∈ text, isDelimiter c = false

instance (text : List Char) : Decidable (IsWord text) :=
  decidable_of_iff ((!text.isEmpty && text.all (!isDelimiter ·)) = true) (by
    simp only [Bool.and_eq_true, Bool.not_eq_true', List.isEmpty_eq_false_iff, List.all_eq_true]
    exact ⟨fun both => ⟨both.1, both.2⟩, fun isWord => ⟨isWord.1, isWord.2⟩⟩)

theorem isDelimiter_eq_false {property : Char → Bool}
    (apart : delimiters.all (!property ·) = true) {c : Char} (holds : property c = true) :
    isDelimiter c = false := by
  apply Bool.eq_false_iff.mpr
  intro delimits
  have fails := List.all_eq_true.mp apart c (List.contains_iff_mem.mp delimits)
  rw [holds] at fails
  cases fails

theorem IsWord.cancel {first second rest others : List Char}
    (firstWord : IsWord first) (secondWord : IsWord second)
    (firstEnds : ∀ c ∈ rest.head?, isDelimiter c = true)
    (secondEnds : ∀ c ∈ others.head?, isDelimiter c = true)
    (same : first ++ rest = second ++ others) : first = second ∧ rest = others := by
  refine cut_unique (p := fun c => !isDelimiter c) ?_ ?_ ?_ ?_ same
  · exact fun c member => by rw [firstWord.undelimited c member]; rfl
  · exact fun c member => by rw [secondWord.undelimited c member]; rfl
  · exact fun c member => by rw [firstEnds c member]; rfl
  · exact fun c member => by rw [secondEnds c member]; rfl

theorem IsWord.ne_cons {word : List Char} (isWord : IsWord word) {delimiter : Char}
    (delimits : isDelimiter delimiter = true) (rest others : List Char) :
    word ++ rest ≠ delimiter :: others := by
  intro same
  cases word with
  | nil => exact isWord.nonempty rfl
  | cons c word =>
      obtain ⟨rfl, -⟩ := List.cons.inj same
      rw [isWord.undelimited c List.mem_cons_self] at delimits
      cases delimits

theorem isDelimiter_of_continuesIdentifier {c : Char} (continues : continuesIdentifier c = true) :
    isDelimiter c = false :=
  isDelimiter_eq_false (by decide) continues

theorem continuesIdentifier_of_startsIdentifier {c : Char} (starts : startsIdentifier c = true) :
    continuesIdentifier c = true := by
  simp only [startsIdentifier, continuesIdentifier, isAlphanumeric, Bool.or_eq_true] at starts ⊢
  rcases starts with (alphabetic | underscore) | dollar
  · exact .inl (.inl (.inl alphabetic))
  · exact .inl (.inr underscore)
  · exact .inr dollar

theorem isWord_of_isIdentifier {text : List Char} (identifier : isIdentifier text = true) :
    IsWord text := by
  cases text with
  | nil => cases identifier
  | cons c rest =>
      obtain ⟨starts, continues⟩ := Bool.and_eq_true_iff.mp identifier
      refine ⟨List.cons_ne_nil c rest, List.forall_mem_cons.mpr ⟨?_, fun d member => ?_⟩⟩
      · exact isDelimiter_of_continuesIdentifier (continuesIdentifier_of_startsIdentifier starts)
      · exact isDelimiter_of_continuesIdentifier (List.all_eq_true.mp continues d member)

end Text

end TypeSchema
