/-!
Results that may be errors: what it says of the steps of a computation that the whole has a value or
fails.
-/

namespace TypeSchema.Result

variable {ε α β : Type} {first : Except ε α} {next : α → Except ε β}

theorem bind_eq_ok_iff {value : β} :
    first >>= next = .ok value ↔ ∃ middle, first = .ok middle ∧ next middle = .ok value := by
  cases first with
  | ok middle =>
      constructor
      · exact fun result => ⟨middle, rfl, result⟩
      · rintro ⟨_, same, result⟩
        cases same
        exact result
  | error error =>
      constructor
      · intro result
        cases result
      · rintro ⟨_, same, _⟩
        cases same

theorem bind_eq_error_iff {error : ε} :
    first >>= next = .error error ↔
      first = .error error ∨ ∃ middle, first = .ok middle ∧ next middle = .error error := by
  cases first with
  | ok middle =>
      constructor
      · exact fun result => .inr ⟨middle, rfl, result⟩
      · rintro (same | ⟨_, same, result⟩)
        · cases same
        · cases same
          exact result
  | error other =>
      constructor
      · intro result
        cases result
        exact .inl rfl
      · rintro (same | ⟨_, same, _⟩)
        · cases same
          rfl
        · cases same

theorem cons_eq_ok_iff {head : Except ε α} {tail : Except ε (List α)} {values : List α} :
    (do
      let value ← head
      let others ← tail
      return value :: others) = .ok values ↔
      ∃ value others, head = .ok value ∧ tail = .ok others ∧ values = value :: others := by
  constructor
  · intro result
    obtain ⟨value, first, result⟩ := bind_eq_ok_iff.mp result
    obtain ⟨others, rest, result⟩ := bind_eq_ok_iff.mp result
    cases result
    exact ⟨value, others, first, rest, rfl⟩
  · rintro ⟨value, others, rfl, rfl, rfl⟩
    rfl

theorem ite_error_eq_ok_iff {condition : Prop} [Decidable condition] {error : ε}
    {otherwise : Except ε α} {value : α} :
    (if condition then .error error else otherwise) = .ok value ↔
      ¬condition ∧ otherwise = .ok value := by
  split
  next holds => exact iff_of_false nofun fun both => both.1 holds
  next fails => exact (and_iff_right fails).symm

theorem isOk_iff {result : Except ε α} : result.isOk = true ↔ ∃ value, result = .ok value := by
  cases result with
  | ok value => exact iff_of_true rfl ⟨value, rfl⟩
  | error error => exact iff_of_false nofun nofun

theorem isOk_bind {started succeeds : Bool} (start : first.isOk = started)
    (same : ∀ middle, (next middle).isOk = succeeds) :
    (first >>= next).isOk = (started && succeeds) := by
  cases first with
  | ok middle => rw [← start]; exact same middle
  | error error => rw [← start]; rfl

theorem isOk_bind_always {started : Bool} (start : first.isOk = started)
    (always : ∀ middle, (next middle).isOk = true) : (first >>= next).isOk = started := by
  rw [isOk_bind start always, Bool.and_true]

end TypeSchema.Result
