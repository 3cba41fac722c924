import TypeSchema.Proofs.Text.Quoted
import TypeSchema.Proofs.Unicode.IdentifierName
import TypeSchema.Schema.Render

/-!
Keys that are written without quotes, as ECMAScript reads them.
-/

namespace TypeSchema

open Text Unicode

/-- How a name begins where ECMAScript reads a key (IdentifierStart, without escapes). -/
def BeginsName (c : Char) : Prop :=
  c = '$' ∨ c = '_' ∨ idStart.contains c = true

/-- How such a name goes on (IdentifierPart): the join controls count as well. -/
def ExtendsName (c : Char) : Prop :=
  c = '$' ∨ c = '_' ∨ isIdContinue c = true ∨ c = '\u200c' ∨ c = '\u200d'

instance (c : Char) : Decidable (BeginsName c) :=
  inferInstanceAs (Decidable (_ ∨ _))

instance (c : Char) : Decidable (ExtendsName c) :=
  inferInstanceAs (Decidable (_ ∨ _))

inductive IdentifierName : List Char → Prop
  | of {c : Char} {rest : List Char} (begins : BeginsName c) (continues : ∀ d ∈ rest, ExtendsName d) :
      IdentifierName (c :: rest)

theorem beginsName_iff {c : Char} (starts : startsIdentifier c = true) :
    BeginsName c ↔ dependentMarks.contains c = false ∧ strays.contains c = false := by
  simp only [startsIdentifier, Bool.or_eq_true, beq_iff_eq] at starts
  rcases starts with (alphabetic | rfl) | rfl
  · constructor
    · rintro (rfl | rfl | starts)
      · decide +kernel
      · decide +kernel
      · exact (idStart_iff alphabetic).mp starts
    · exact fun kept => .inr (.inr ((idStart_iff alphabetic).mpr kept))
  · decide +kernel
  · decide +kernel

theorem extendsName_iff {c : Char} (continues : continuesIdentifier c = true) :
    ExtendsName c ↔ strays.contains c = false := by
  simp only [continuesIdentifier, Bool.or_eq_true, beq_iff_eq] at continues
  rcases continues with (alphanumeric | rfl) | rfl
  · constructor
    · rintro (rfl | rfl | continues | rfl | rfl)
      · decide +kernel
      · decide +kernel
      · exact (isIdContinue_iff alphanumeric).mp continues
      · decide +kernel
      · decide +kernel
    · exact fun kept => .inr (.inr (.inl ((isIdContinue_iff alphanumeric).mpr kept)))
  · decide +kernel
  · decide +kernel

theorem writeKey_eq_self_iff (key : String) :
    writeKey key = key.toList ↔ isIdentifier key.toList = true := by
  unfold writeKey
  split
  next bare => exact iff_of_true rfl bare
  next quoted =>
    refine iff_of_false (fun same => ?_) quoted
    have longer := length_le_flatMap_quoteChar key.toList
    have lengths := congrArg List.length same
    simp only [quote, List.length_cons, List.length_append, List.length_nil] at lengths
    omega

/-- A key that is written without quotes is a name exactly if no mark begins it and it holds no stray. -/
theorem writeKey_identifierName_iff {key : String} (bare : writeKey key = key.toList) :
    IdentifierName key.toList ↔
      (∀ c ∈ key.toList.head?, dependentMarks.contains c = false) ∧
        ∀ c ∈ key.toList, strays.contains c = false := by
  have identifier := (writeKey_eq_self_iff key).mp bare
  cases written : key.toList with
  | nil =>
      rw [written] at identifier
      cases identifier
  | cons c rest =>
      rw [written] at identifier
      obtain ⟨starts, continues⟩ := Bool.and_eq_true_iff.mp identifier
      have others : (∀ d ∈ rest, ExtendsName d) ↔ ∀ d ∈ rest, strays.contains d = false :=
        forall₂_congr fun d inside => extendsName_iff (List.all_eq_true.mp continues d inside)
      have parts : IdentifierName (c :: rest) ↔ BeginsName c ∧ ∀ d ∈ rest, ExtendsName d :=
        ⟨fun | .of begins continues => ⟨begins, continues⟩, fun both => .of both.1 both.2⟩
      rw [parts, beginsName_iff starts, others, List.forall_mem_cons, List.head?_cons]
      simp only [Option.mem_some_iff, forall_eq', and_assoc]

theorem writeKey_identifierName_devanagari :
    writeKey "\u0939\u093f_\u096f" = "\u0939\u093f_\u096f".toList ∧
      IdentifierName "\u0939\u093f_\u096f".toList := by
  have bare : writeKey "\u0939\u093f_\u096f" = "\u0939\u093f_\u096f".toList := by decide +kernel
  have kept : "\u0939\u093f_\u096f".toList.any strays.contains = false := by decide +kernel
  refine ⟨bare, (writeKey_identifierName_iff bare).mpr ⟨?_, fun c inside => ?_⟩⟩
  · rintro c ⟨⟩
    decide +kernel
  · exact Bool.eq_false_iff.mpr (List.any_eq_false.mp kept c inside)

/-- A superscript, and a mark without the letter that it stands on. -/
theorem writeKey_not_identifierName :
    (writeKey "a\u00b2" = "a\u00b2".toList ∧ ¬ IdentifierName "a\u00b2".toList) ∧
      writeKey "\u0345a" = "\u0345a".toList ∧ ¬ IdentifierName "\u0345a".toList := by
  refine ⟨⟨by decide +kernel, ?_⟩, by decide +kernel, ?_⟩
  · rintro ⟨-, continues⟩
    exact absurd (continues '\u00b2' List.mem_cons_self) (by decide +kernel)
  · rintro ⟨begins, -⟩
    exact absurd begins (by decide +kernel)

end TypeSchema
