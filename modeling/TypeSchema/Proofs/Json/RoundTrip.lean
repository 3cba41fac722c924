import TypeSchema.Json.Reader
import TypeSchema.Json.Writer

/-!
JSON read back from the text it is written as. A value in which no number stands is read from its
text whatever follows it, at every depth that the value keeps to.
-/

namespace TypeSchema

namespace Json

open Text

theorem codeUnit_control {code : Nat} (control : code < 32) :
    ∃ a b c d, hexDigits code = [a, b, c, d] ∧ codeUnit? a b c d = some code := by
  refine ⟨_, _, _, _, rfl, ?_⟩
  have every : ∀ code < 32, codeUnit? (Nat.digitChar (code / 4096 % 16))
      (Nat.digitChar (code / 256 % 16)) (Nat.digitChar (code / 16 % 16))
      (Nat.digitChar (code % 16)) = some code := by decide +kernel
  exact every code control

/-- What is written for a character inside a string is read as this character. -/
theorem readString_stringChar (c : Char) (rest : List Char) :
    readString? (stringChar c ++ rest) =
      (readString? rest).map fun (text, rest) => (c :: text, rest) := by
  unfold stringChar
  split
  case h_8 notQuote notBackslash _ _ _ _ _ =>
    split
    next control =>
      obtain ⟨first, second, third, fourth, digits, unit⟩ := codeUnit_control control
      have notHigh : ¬(0xd800 ≤ c.toNat ∧ c.toNat < 0xdc00) := by omega
      have notLow : ¬(0xdc00 ≤ c.toNat ∧ c.toNat < 0xe000) := by omega
      simp only [digits, List.cons_append, List.nil_append]
      rw [readString?.eq_def]
      simp only [unit, notHigh, notLow, if_false, Char.ofNat_toNat]
    next printable =>
      have plain : ¬(c.toNat < 32 ∨ c = '\\') := not_or.mpr ⟨printable, notBackslash⟩
      rw [List.singleton_append, readString?, if_neg plain]
      · exact notQuote
      · exact fun _ _ _ _ _ backslash => absurd backslash notBackslash
      · exact fun _ _ backslash => absurd backslash notBackslash
  all_goals simp [readString?, simpleEscape?]

theorem readString_write (text rest : List Char) :
    readString? (text.flatMap stringChar ++ '"' :: rest) = some (text, rest) := by
  induction text with
  | nil => simp [readString?]
  | cons c text induction =>
      rw [List.flatMap_cons, List.append_assoc, readString_stringChar, induction]
      rfl

/-- The values in which no number stands. -/
inductive Numberless : Json → Prop
  | null : Numberless .null
  | bool (value : Bool) : Numberless (.bool value)
  | string (value : String) : Numberless (.string value)
  | array {items : List Json} (all : ∀ item ∈ items, Numberless item) : Numberless (.array items)
  | object {fields : List (String × Json)} (all : ∀ field ∈ fields, Numberless field.2) :
      Numberless (.object fields)

@[simp]
theorem numberless_bool (value : Bool) : Numberless (.bool value) := .bool value

@[simp]
theorem numberless_string (value : String) : Numberless (.string value) := .string value

@[simp]
theorem numberless_array_iff {items : List Json} :
    Numberless (.array items) ↔ ∀ item ∈ items, Numberless item :=
  ⟨fun | .array all => all, .array⟩

@[simp]
theorem numberless_object_iff {fields : List (String × Json)} :
    Numberless (.object fields) ↔ ∀ field ∈ fields, Numberless field.2 :=
  ⟨fun | .object all => all, .object⟩

theorem skipSpace_cons {c : Char} (notSpace : isSpace c = false) (rest : List Char) :
    skipSpace (c :: rest) = c :: rest :=
  List.dropWhile_cons_of_neg (by simp [notSpace])

/-- The texts that start with no blank and with no end of an array. -/
def Starts (text : List Char) : Prop :=
  ∃ c rest, text = c :: rest ∧ isSpace c = false ∧ c ≠ ']'

theorem Starts.append {text : List Char} (starts : Starts text) (rest : List Char) :
    Starts (text ++ rest) := by
  obtain ⟨c, others, rfl, notSpace, notClosing⟩ := starts
  exact ⟨c, others ++ rest, rfl, notSpace, notClosing⟩

theorem Numberless.starts {json : Json} (form : Numberless json) : Starts json.write := by
  cases form with
  | null => exact ⟨'n', _, rfl, by decide, by decide⟩
  | bool value => cases value <;> exact ⟨_, _, rfl, by decide, by decide⟩
  | string value => exact ⟨'"', _, rfl, by decide, by decide⟩
  | array all => exact ⟨'[', _, rfl, by decide, by decide⟩
  | object all => exact ⟨'\x7b', _, rfl, by decide, by decide⟩

/-- Whether a value is read back from its text, with the fuel that the length of the text gives. -/
def ReadBack (json : Json) : Prop :=
  ∀ fuel depth rest, json.depth ≤ depth → 2 * json.write.length ≤ fuel →
    readValue? fuel depth (json.write ++ rest) = some (json, rest)

theorem writeItems_cons_cons (item other : Json) (others : List Json) :
    writeItems (item :: other :: others) = item.write ++ ',' :: writeItems (other :: others) := by
  rw [writeItems]
  simp

theorem writeFields_cons_cons (key : String) (value : Json) (other : String × Json)
    (others : List (String × Json)) :
    writeFields ((key, value) :: other :: others) =
      writeString key ++ ':' :: value.write ++ ',' :: writeFields (other :: others) := by
  rw [writeFields]
  simp

theorem writeItems_starts {item : Json} (form : Numberless item) (others : List Json) :
    Starts (writeItems (item :: others)) := by
  cases others with
  | nil => exact form.starts
  | cons other others =>
      rw [writeItems_cons_cons]
      exact form.starts.append _

theorem writeFields_starts (field : String × Json) (others : List (String × Json)) :
    ∃ text, writeFields (field :: others) = '"' :: text := by
  obtain ⟨key, value⟩ := field
  cases others with
  | nil => exact ⟨_, rfl⟩
  | cons other others =>
      rw [writeFields_cons_cons]
      exact ⟨_, rfl⟩

theorem readItems_write {item : Json} {others : List Json}
    (readBack : ∀ json ∈ item :: others, ReadBack json) (fuel depth : Nat) (rest : List Char)
    (deep : depthOfItems (item :: others) ≤ depth)
    (fueled : 2 * (writeItems (item :: others)).length < fuel) :
    readItems? fuel depth (writeItems (item :: others) ++ ']' :: rest) =
      some (item :: others, rest) := by
  induction others generalizing item fuel with
  | nil =>
      obtain ⟨fuel, rfl⟩ := Nat.exists_eq_add_one_of_ne_zero (Nat.ne_zero_of_lt fueled)
      obtain ⟨itemBack, -⟩ := List.forall_mem_cons.mp readBack
      rw [writeItems] at fueled ⊢
      rw [readItems?, itemBack fuel depth _ (Nat.max_le.mp deep).1 (by omega)]
      rfl
  | cons other others induction =>
      obtain ⟨fuel, rfl⟩ := Nat.exists_eq_add_one_of_ne_zero (Nat.ne_zero_of_lt fueled)
      obtain ⟨itemBack, othersBack⟩ := List.forall_mem_cons.mp readBack
      obtain ⟨itemDeep, othersDeep⟩ := Nat.max_le.mp deep
      rw [writeItems_cons_cons, List.length_append, List.length_cons] at fueled
      have tail := induction othersBack fuel othersDeep (by omega)
      rw [writeItems_cons_cons, List.append_assoc, readItems?,
        itemBack fuel depth _ itemDeep (by omega)]
      simp only [List.cons_append, Option.bind_eq_bind, Option.bind_some,
        skipSpace_cons (c := ',') (by decide), tail]
      rfl

theorem readFields_write {key : String} {value : Json} {others : List (String × Json)}
    (readBack : ∀ field ∈ (key, value) :: others, ReadBack field.2) (fuel depth : Nat)
    (rest : List Char) (deep : depthOfFields ((key, value) :: others) ≤ depth)
    (fueled : 2 * (writeFields ((key, value) :: others)).length < fuel) :
    readFields? fuel depth (writeFields ((key, value) :: others) ++ '\x7d' :: rest) =
      some ((key, value) :: others, rest) := by
  induction others generalizing key value fuel with
  | nil =>
      obtain ⟨fuel, rfl⟩ := Nat.exists_eq_add_one_of_ne_zero (Nat.ne_zero_of_lt fueled)
      have valueBack : ReadBack value := (List.forall_mem_cons.mp readBack).1
      rw [writeFields, List.length_append, List.length_cons] at fueled
      have first := valueBack fuel depth ('\x7d' :: rest) (Nat.max_le.mp deep).1 (by omega)
      simp only [writeFields, writeString, List.cons_append, List.append_assoc, List.nil_append,
        readFields?, skipSpace_cons (c := '"') (by decide), readString_write,
        skipSpace_cons (c := ':') (by decide), Option.bind_eq_bind, Option.bind_some, first,
        skipSpace_cons (c := '\x7d') (by decide), String.ofList_toList]
      rfl
  | cons other others induction =>
      obtain ⟨nextKey, nextValue⟩ := other
      obtain ⟨fuel, rfl⟩ := Nat.exists_eq_add_one_of_ne_zero (Nat.ne_zero_of_lt fueled)
      obtain ⟨(valueBack : ReadBack value), othersBack⟩ := List.forall_mem_cons.mp readBack
      obtain ⟨valueDeep, othersDeep⟩ := Nat.max_le.mp deep
      rw [writeFields_cons_cons, List.length_append, List.length_append, List.length_cons,
        List.length_cons] at fueled
      have first := valueBack fuel depth
        (',' :: (writeFields ((nextKey, nextValue) :: others) ++ '\x7d' :: rest)) valueDeep
        (by omega)
      have tail := induction othersBack fuel othersDeep (by omega)
      simp only [writeFields_cons_cons, writeString, List.cons_append, List.append_assoc,
        List.nil_append, readFields?, skipSpace_cons (c := '"') (by decide), readString_write,
        skipSpace_cons (c := ':') (by decide), Option.bind_eq_bind, Option.bind_some, first,
        skipSpace_cons (c := ',') (by decide), tail, String.ofList_toList]
      rfl

theorem readValue_items {text : List Char} {fuel depth : Nat} {items : List Json}
    {rest : List Char} (starts : Starts text)
    (read : readItems? fuel depth text = some (items, rest)) :
    readValue? (fuel + 1) (depth + 1) ('[' :: text) = some (.array items, rest) := by
  obtain ⟨c, others, rfl, notSpace, notClosing⟩ := starts
  simp only [readValue?, skipSpace_cons (c := '[') (by decide), skipSpace_cons notSpace]
  split
  next same => exact absurd (List.cons.inj same).1 notClosing
  next => rw [read]; rfl

theorem readValue_fields {text : List Char} {fuel depth : Nat} {fields : List (String × Json)}
    {rest : List Char} (read : readFields? fuel depth ('"' :: text) = some (fields, rest)) :
    readValue? (fuel + 1) (depth + 1) ('\x7b' :: '"' :: text) = some (.object fields, rest) := by
  simp only [readValue?, skipSpace_cons (c := '\x7b') (by decide),
    skipSpace_cons (c := '"') (by decide)]
  split
  next same => exact absurd (List.cons.inj same).1 (by decide)
  next => rw [read]; rfl

theorem Numberless.some_fuel {json : Json} (form : Numberless json) {fuel : Nat}
    (fueled : 2 * json.write.length ≤ fuel) : ∃ less, fuel = less + 1 := by
  obtain ⟨c, text, written, -⟩ := form.starts
  rw [written, List.length_cons] at fueled
  exact ⟨fuel - 1, by omega⟩

/-- A value without numbers is read from its text, whatever follows. -/
theorem Numberless.readBack {json : Json} (form : Numberless json) : ReadBack json := by
  -- A step into an array or object spends one unit on its reader and one on that of its content;
  -- the two brackets pay for both.
  induction form with
  | null =>
      intro fuel depth rest deep fueled
      obtain ⟨fuel, rfl⟩ := Numberless.null.some_fuel fueled
      rfl
  | bool value =>
      intro fuel depth rest deep fueled
      obtain ⟨fuel, rfl⟩ := (Numberless.bool value).some_fuel fueled
      cases value <;> rfl
  | string value =>
      intro fuel depth rest deep fueled
      obtain ⟨fuel, rfl⟩ := (Numberless.string value).some_fuel fueled
      simp only [write, writeString, List.cons_append, List.append_assoc, List.nil_append,
        readValue?, skipSpace_cons (c := '"') (by decide), readString_write, Option.map_some,
        String.ofList_toList]
  | @array items all induction =>
      intro fuel depth rest deep fueled
      obtain ⟨fuel, rfl⟩ := (Numberless.array all).some_fuel fueled
      rw [Json.depth] at deep
      obtain ⟨depth, rfl⟩ : ∃ less, depth = less + 1 := ⟨depth - 1, by omega⟩
      simp only [write, List.length_cons, List.length_append] at fueled
      rw [write, List.append_assoc, List.cons_append]
      cases items with
      | nil => rfl
      | cons item others =>
          have starts := writeItems_starts (all item List.mem_cons_self) others
          have read := readItems_write induction fuel depth rest (by omega) (by omega)
          exact readValue_items (starts.append _) read
  | @object fields all induction =>
      intro fuel depth rest deep fueled
      obtain ⟨fuel, rfl⟩ := (Numberless.object all).some_fuel fueled
      rw [Json.depth] at deep
      obtain ⟨depth, rfl⟩ : ∃ less, depth = less + 1 := ⟨depth - 1, by omega⟩
      simp only [write, List.length_cons, List.length_append] at fueled
      rw [write, List.append_assoc, List.cons_append]
      cases fields with
      | nil => rfl
      | cons field others =>
          obtain ⟨key, value⟩ := field
          obtain ⟨text, written⟩ := writeFields_starts (key, value) others
          have read := readFields_write induction fuel depth rest (by omega) (by omega)
          rw [written] at read ⊢
          exact readValue_fields read

theorem readFirst_write {json : Json} (form : Numberless json) (deep : json.depth ≤ maxDepth) :
    readFirst? json.write = some (json, []) := by
  have read := form.readBack (2 * json.write.length + 1) maxDepth [] deep (by omega)
  rwa [List.append_nil] at read

theorem read_render {json : Json} (form : Numberless json) (deep : json.depth ≤ maxDepth) :
    read? json.render.toList = some json := by
  rw [read?, render, String.toList_ofList, readFirst_write form deep]
  rfl

end Json

end TypeSchema
