import TypeSchema.TypeScript.StatementGrammar

/-!
Reading several versions of one source at once. The versions have the same tokens on the same lines,
and differ in what stands between the tokens only. A reader is uniform if it does the same on all of
them: it fails on all or on none, takes the same tokens, and gives values between which a relation
holds.
-/

namespace TypeSchema.TypeScript

namespace Lexeme

/-- Whether two lexemes look the same to the grammar: what stands before the token may be another,
if there is something at all in both or in none. -/
structure LooksLike (first second : Lexeme) : Prop where
  token : first.token = second.token
  startsLine : first.startsLine = second.startsLine
  before : first.before.isEmpty = second.before.isEmpty
  leading : first.leadingText.isEmpty = second.leadingText.isEmpty

/-- Whether something about a lexeme is seen by what it looks like. -/
def Apparent {α : Type} (p : Lexeme → α) : Prop :=
  ∀ ⦃first second : Lexeme⦄, first.LooksLike second → p first = p second

namespace Apparent

variable {p q : Lexeme → Bool}

theorem token {α : Type} (p : Token → α) : Apparent fun lexeme => p lexeme.token :=
  fun _ _ alike => congrArg p alike.token

theorem isMark (mark : String) : Apparent fun lexeme => lexeme.isMark mark :=
  token (·.isMark mark)

theorem isMarkOf (marks : List String) : Apparent fun lexeme => lexeme.isMarkOf marks :=
  token fun token => marks.any token.isMark

theorem isWord (word : String) : Apparent fun lexeme => lexeme.isWord word :=
  token (·.isWord word)

theorem isWordOf (words : List String) : Apparent fun lexeme => lexeme.isWordOf words :=
  token fun token => words.any token.isWord

theorem isName : Apparent fun lexeme => lexeme.isName :=
  token (·.kind == .word)

theorem isKind (kind : TokenKind) : Apparent fun lexeme => lexeme.token.kind == kind :=
  token (·.kind == kind)

theorem startsLine : Apparent fun lexeme => lexeme.startsLine :=
  fun _ _ alike => alike.startsLine

theorem unattached : Apparent fun lexeme => lexeme.before.isEmpty :=
  fun _ _ alike => alike.before

theorem constant (value : Bool) : Apparent fun _ => value :=
  fun _ _ _ => rfl

theorem and (first : Apparent p) (second : Apparent q) :
    Apparent fun lexeme => p lexeme && q lexeme :=
  fun _ _ alike => by simp only [first alike, second alike]

theorem or (first : Apparent p) (second : Apparent q) :
    Apparent fun lexeme => p lexeme || q lexeme :=
  fun _ _ alike => by simp only [first alike, second alike]

theorem not (apparent : Apparent p) : Apparent fun lexeme => !p lexeme :=
  fun _ _ alike => congrArg Bool.not (apparent alike)

theorem continuesLine : Apparent fun lexeme => lexeme.continuesLine :=
  token fun token => Lexeme.continuesLine ⟨[], token⟩

theorem endsLine : Apparent fun lexeme => lexeme.endsLine :=
  startsLine.and continuesLine.not

end Apparent

end Lexeme

open Lexeme

/-- A token of a source that has several versions: what the lexeme is in each of them, and one that
it looks like in all. -/
structure Row (Version : Type) (related : (Version → Lexeme) → Prop) where
  shown : Lexeme
  lexeme : Version → Lexeme
  alike : ∀ version, (lexeme version).LooksLike shown
  related : related lexeme
  /-- No token begins with a backslash, or is a backtick. -/
  delimited : ∃ c rest, shown.token.text = c :: rest ∧ c ≠ '\\' ∧ (c = '\x60' → rest ≠ [])

namespace Row

variable {Version : Type} {related : (Version → Lexeme) → Prop}

theorem apparent {α : Type} (row : Row Version related) {p : Lexeme → α} (apparent : Apparent p)
    (version : Version) : p (row.lexeme version) = p row.shown :=
  apparent (row.alike version)

@[simp]
theorem token (row : Row Version related) (version : Version) :
    (row.lexeme version).token = row.shown.token :=
  (row.alike version).token

@[simp]
theorem startsLine (row : Row Version related) (version : Version) :
    (row.lexeme version).startsLine = row.shown.startsLine :=
  (row.alike version).startsLine

@[simp]
theorem isMark (row : Row Version related) (version : Version) (mark : String) :
    (row.lexeme version).isMark mark = row.shown.isMark mark :=
  row.apparent (.isMark mark) version

@[simp]
theorem isMarkOf (row : Row Version related) (version : Version) (marks : List String) :
    (row.lexeme version).isMarkOf marks = row.shown.isMarkOf marks :=
  row.apparent (.isMarkOf marks) version

@[simp]
theorem isWord (row : Row Version related) (version : Version) (word : String) :
    (row.lexeme version).isWord word = row.shown.isWord word :=
  row.apparent (.isWord word) version

@[simp]
theorem isWordOf (row : Row Version related) (version : Version) (words : List String) :
    (row.lexeme version).isWordOf words = row.shown.isWordOf words :=
  row.apparent (.isWordOf words) version

@[simp]
theorem isName (row : Row Version related) (version : Version) :
    (row.lexeme version).isName = row.shown.isName :=
  row.apparent .isName version

theorem text (row : Row Version related) (version : Version) :
    (row.lexeme version).text = (row.lexeme version).leadingText ++ row.shown.token.text := by
  rw [Lexeme.text, row.token]

end Row

/-- The lexemes of one version. -/
def column {Version : Type} {related : (Version → Lexeme) → Prop}
    (rows : List (Row Version related)) (version : Version) : List Lexeme :=
  rows.map (·.lexeme version)

section

variable {Version : Type} {related : (Version → Lexeme) → Prop} {version : Version}

@[simp]
theorem column_nil : column ([] : List (Row Version related)) version = [] :=
  rfl

@[simp]
theorem column_cons (row : Row Version related) (rows : List (Row Version related)) :
    column (row :: rows) version = row.lexeme version :: column rows version :=
  rfl

theorem column_append (rows others : List (Row Version related)) :
    column (rows ++ others) version = column rows version ++ column others version :=
  List.map_append

@[simp]
theorem length_column (rows : List (Row Version related)) :
    (column rows version).length = rows.length :=
  List.length_map _

end

/-- Whether readers of the versions fail on all of them, or take the same tokens and give values
between which a relation holds. -/
def Uniform {Version α : Type} (related : (Version → Lexeme) → Prop) (holds : (Version → α) → Prop)
    (readers : Version → Reader α) : Prop :=
  ∀ rows : List (Row Version related),
    (∀ version, (readers version).run (column rows version) = none) ∨
      ∃ values, ∃ rest : List (Row Version related), holds values ∧
        ∀ version, (readers version).run (column rows version) =
          some (values version, column rest version)

/-- Whether values are the same in all versions. -/
def Constant {Version α : Type} (values : Version → α) : Prop :=
  ∃ value, values = fun _ => value

/-- Whether lists are what follows in the versions after the same tokens. -/
def Columns {Version : Type} (related : (Version → Lexeme) → Prop)
    (lists : Version → List Lexeme) : Prop :=
  ∃ rows : List (Row Version related), lists = column rows

/-- Whether lexemes are the same token in the versions. -/
def SameToken {Version : Type} (related : (Version → Lexeme) → Prop)
    (lexemes : Version → Lexeme) : Prop :=
  ∃ row : Row Version related, lexemes = row.lexeme

namespace Uniform

variable {Version α β : Type} {related : (Version → Lexeme) → Prop} {holds : (Version → α) → Prop}
  {result : (Version → β) → Prop}

theorem pure {values : Version → α} (values_hold : holds values) :
    Uniform related holds fun version => pure (values version) :=
  fun rows => .inr ⟨values, rows, values_hold, fun _ => rfl⟩

theorem failure : Uniform related holds fun _ => failure :=
  fun _ => .inl fun _ => rfl

theorem bind {readers : Version → Reader α} {next : Version → α → Reader β}
    (first : Uniform related holds readers)
    (each : ∀ values, holds values →
      Uniform related result fun version => next version (values version)) :
    Uniform related result fun version => readers version >>= next version := by
  intro rows
  obtain fails | ⟨values, rest, values_hold, read⟩ := first rows
  · exact .inl fun version => by rw [StateT.run_bind, fails version]; rfl
  · obtain fails | ⟨results, after, results_hold, readNext⟩ := each values values_hold rest
    · exact .inl fun version => by
        rw [StateT.run_bind, read version]
        exact fails version
    · exact .inr ⟨results, after, results_hold, fun version => by
        rw [StateT.run_bind, read version]
        exact readNext version⟩

/-- A reader after one that gives the same in all versions. -/
theorem andThen {readers : Version → Reader α} {next : Version → α → Reader β}
    (first : Uniform related Constant readers)
    (each : ∀ value, Uniform related result fun version => next version value) :
    Uniform related result fun version => readers version >>= next version :=
  first.bind fun _ constant => by
    obtain ⟨value, rfl⟩ := constant
    exact each value

theorem ite {condition : Prop} [Decidable condition] {yes no : Version → Reader α}
    (first : Uniform related holds yes) (second : Uniform related holds no) :
    Uniform related holds fun version => if condition then yes version else no version := by
  split
  · exact first
  · exact second

theorem orElse {first second : Version → Reader α} (one : Uniform related holds first)
    (other : Uniform related holds second) :
    Uniform related holds fun version => first version <|> second version := by
  intro rows
  obtain fails | ⟨values, rest, values_hold, read⟩ := one rows
  · obtain failsToo | ⟨values, rest, values_hold, read⟩ := other rows
    · exact .inl fun version => by
        show ((first version).run _ <|> (second version).run _) = none
        rw [fails version, failsToo version]
        rfl
    · exact .inr ⟨values, rest, values_hold, fun version => by
        show ((first version).run _ <|> (second version).run _) = _
        rw [fails version, read version]
        rfl⟩
  · exact .inr ⟨values, rest, values_hold, fun version => by
      show ((first version).run _ <|> (second version).run _) = _
      rw [read version]
      rfl⟩

theorem get : Uniform related (Columns related) fun _ => get :=
  fun rows => .inr ⟨column rows, rows, ⟨rows, rfl⟩, fun _ => rfl⟩

theorem set (rest : List (Row Version related)) :
    Uniform related Constant fun version => set (column rest version) :=
  fun _ => .inr ⟨fun _ => (), rest, ⟨(), rfl⟩, fun _ => rfl⟩

/-- A reader that looks at what stands next first. -/
theorem looking {next : Version → List Lexeme → Reader β}
    (each : ∀ rows : List (Row Version related),
      Uniform related result fun version => next version (column rows version)) :
    Uniform related result fun version => MonadState.get >>= next version :=
  get.bind fun _ columns => by
    obtain ⟨rows, rfl⟩ := columns
    exact each rows

end Uniform

/-! What functions on lexemes and readers of single lexemes do. -/

section

variable {Version : Type} {related : (Version → Lexeme) → Prop} {version : Version}

@[simp]
theorem take_column (rows : List (Row Version related)) (count : Nat) :
    (column rows version).take count = column (rows.take count) version := by
  rw [column, column, List.map_take]

/-- Whether texts are what is written in the versions for some tokens, after the same start. -/
def Quoted (related : (Version → Lexeme) → Prop) (texts : Version → String) : Prop :=
  ∃ start : List Char, ∃ rows : List (Row Version related),
    ∀ version, (texts version).toList = start ++ (column rows version).flatMap Lexeme.text

theorem quoted_constant (text : String) : Quoted related fun _ => text :=
  ⟨text.toList, [], fun _ => by simp⟩

theorem quoted_sourceText (rows : List (Row Version related)) :
    Quoted related fun version => sourceText (column rows version) := by
  cases rows with
  | nil => exact quoted_constant ""
  | cons row rows => exact ⟨row.shown.token.text, rows, fun version => by simp [sourceText]⟩

/-- Whether texts are what is written for as many of the tokens in front in all versions. -/
def Taken (start : List (Row Version related)) (texts : Version → String) : Prop :=
  ∃ count, texts = fun version => sourceText (column (start.take count) version)

theorem Taken.quoted {start : List (Row Version related)} {texts : Version → String}
    (taken : Taken start texts) : Quoted related texts := by
  obtain ⟨count, rfl⟩ := taken
  exact quoted_sourceText _

/-- Whether a function on lexemes leads past the same tokens in all versions. -/
def Leads (related : (Version → Lexeme) → Prop)
    (f : List Lexeme → Option (List Lexeme)) : Prop :=
  ∀ rows : List (Row Version related), ∃ rest? : Option (List (Row Version related)),
    ∀ version, f (column rows version) = rest?.map (column · version)

theorem leads_afterGroup (brackets : List Bracket) : Leads related (afterGroup brackets) := by
  intro rows
  induction rows generalizing brackets with
  | nil => exact ⟨none, fun _ => rfl⟩
  | cons row rows induction =>
      simp only [column_cons, afterGroup, Row.token]
      cases bracketsAfter brackets row.shown.token with
      | none => exact ⟨none, fun _ => rfl⟩
      | some left =>
          cases left with
          | nil => exact ⟨some rows, fun _ => rfl⟩
          | cons bracket others => exact induction (bracket :: others)

theorem leads_afterHole (brackets : List Bracket) : Leads related (afterHole brackets) := by
  intro rows
  induction rows generalizing brackets with
  | nil => exact ⟨none, fun _ => rfl⟩
  | cons row rows induction =>
      simp only [column_cons, afterHole, Row.token]
      split
      · exact ⟨some (row :: rows), fun _ => rfl⟩
      · cases bracketsAfter brackets row.shown.token with
        | none => exact ⟨none, fun _ => rfl⟩
        | some brackets => exact induction brackets

end

namespace Uniform

open Reader

variable {Version : Type} {related : (Version → Lexeme) → Prop}

theorem next : Uniform related (SameToken related) fun _ => next := by
  refine looking fun rows => ?_
  cases rows with
  | nil => exact failure
  | cons row rows => exact (set rows).andThen fun _ => pure ⟨row, rfl⟩

theorem nextIs {p : Lexeme → Bool} (apparent : Apparent p) :
    Uniform related Constant fun _ => nextIs p := by
  refine looking fun rows => pure ?_
  cases rows with
  | nil => exact ⟨false, rfl⟩
  | cons row rows => exact ⟨p row.shown, funext fun version => row.apparent apparent version⟩

theorem acceptIf {p : Lexeme → Bool} (apparent : Apparent p) :
    Uniform related Constant fun _ => acceptIf p := by
  refine looking fun rows => ?_
  cases rows with
  | nil => exact pure ⟨false, rfl⟩
  | cons row rows =>
      simp only [column_cons, row.apparent apparent]
      exact ite ((set rows).andThen fun _ => pure ⟨true, rfl⟩) (pure ⟨false, rfl⟩)

theorem accept (mark : String) : Uniform related Constant fun _ => accept mark :=
  acceptIf (.isMark mark)

theorem acceptWord (word : String) : Uniform related Constant fun _ => acceptWord word :=
  acceptIf (.isWord word)

theorem expectIf {p : Lexeme → Bool} (apparent : Apparent p) :
    Uniform related (SameToken related) fun _ => expectIf p := by
  refine next.bind fun _ same => ?_
  obtain ⟨row, rfl⟩ := same
  simp only [row.apparent apparent]
  exact ite (pure ⟨row, rfl⟩) failure

theorem expect (mark : String) : Uniform related Constant fun _ => expect mark :=
  (expectIf (.isMark mark)).bind fun _ _ => pure ⟨(), rfl⟩

theorem expectWord (word : String) : Uniform related Constant fun _ => expectWord word :=
  (expectIf (.isWord word)).bind fun _ _ => pure ⟨(), rfl⟩

theorem name : Uniform related Constant fun _ => name := by
  refine (expectIf .isName).bind fun _ same => pure ?_
  obtain ⟨row, rfl⟩ := same
  exact ⟨String.ofList row.shown.token.text, by simp only [row.token]⟩

theorem textSince (start : List (Row Version related)) :
    Uniform related (Taken start) fun version => textSince (column start version) := by
  refine looking fun rows => ?_
  simp only [length_column, take_column]
  exact pure ⟨_, rfl⟩

theorem skip {f : List Lexeme → Option (List Lexeme)} (leads : Leads related f) :
    Uniform related Constant fun _ => skip f := by
  refine looking fun rows => ?_
  obtain ⟨rest?, same⟩ := leads rows
  simp only [same]
  cases rest? with
  | none => exact failure
  | some rest => exact set rest

theorem group : Uniform related Constant fun _ => group :=
  skip (leads_afterGroup [])

theorem groupOf (opening : String) : Uniform related Constant fun _ => groupOf opening :=
  (nextIs (.isMark opening)).andThen fun _ => ite group failure

end Uniform

end TypeSchema.TypeScript
