import TypeSchema.Declaration.Source
import TypeSchema.Proofs.DocComment.Layout
import TypeSchema.Proofs.Schema.Pieces
import TypeSchema.Proofs.TypeNode.Compilation
import TypeSchema.Proofs.TypeNode.Grammar
import TypeSchema.Proofs.TypeNode.Hydration

/-!
Comments and numbers from a JSON source. They are taken as they are and written as they are, so that
what is written stays one token each exactly when what was given is that; nothing on the way from the
source to the text makes sure of it. The main statement covers all the way.
-/

namespace TypeSchema

open TypeScript

namespace TypeNode

/-- The comments and the number literals of the schema of a type, in order. -/
def givenTexts (node : TypeNode) : List GivenText :=
  node.atoms.filterMap (Atom.given? (·.comment))

theorem given_calls (calls : List Call) :
    (calls.map Atom.call).filterMap (Atom.given? Member.comment) = [] := by
  induction calls with
  | nil => rfl
  | cons call others induction => exact induction

theorem given_of_sameAtoms {atoms : List (Atom Member)} {others : List (Atom ShapeEntry)}
    (same : List.Forall₂ (Atom.Rel Makes) atoms others) :
    others.filterMap (Atom.given? (·.comment)) = atoms.filterMap (Atom.given? (·.comment)) := by
  induction same with
  | nil => rfl
  | @cons atom other _ _ pair _ induction =>
      have head : Atom.given? ShapeEntry.comment other = Atom.given? Member.comment atom := by
        cases pair with
        | member makes =>
            obtain ⟨schema, -, rfl⟩ := makes
            rfl
        | literal value => cases value <;> rfl
        | _ => rfl
      rw [List.filterMap_cons, List.filterMap_cons, head, induction]

theorem given_all (nodes : List TypeNode) :
    (atomsAll nodes).filterMap (Atom.given? (·.comment)) = nodes.flatMap givenTexts := by
  induction nodes with
  | nil => rfl
  | cons node others induction =>
      rw [atomsAll, List.filterMap_append, induction]
      rfl

/-- The texts that a member gives. -/
def memberTexts (member : Member) : List GivenText :=
  (member.comment.map GivenText.comment).toList ++ member.type.givenTexts

theorem given_members (members : List Member) :
    (memberAtoms members).filterMap (Atom.given? (·.comment)) = members.flatMap memberTexts := by
  induction members with
  | nil => rfl
  | cons member others induction =>
      obtain ⟨key, optional, type, comment, directives⟩ := member
      rw [memberAtoms, List.filterMap_append, List.filterMap_append, given_calls, induction,
        List.append_nil]
      cases comment <;> rfl

theorem given_hydrateAll {nodes : List TypeNode}
    (each : ∀ node ∈ nodes, node.hydrate.givenTexts = node.givenTexts) :
    (atomsAll (hydrateAll nodes)).filterMap (Atom.given? (·.comment)) =
      (atomsAll nodes).filterMap (Atom.given? (·.comment)) := by
  rw [given_all, given_all, hydrateAll_eq, List.flatMap_map]
  exact List.flatMap_congr each

theorem given_hydrateMembers {members : List Member}
    (each : ∀ member ∈ members, member.type.hydrate.givenTexts = member.type.givenTexts) :
    (memberAtoms (Member.hydrateAll members)).filterMap (Atom.given? (·.comment)) =
      (memberAtoms members).filterMap (Atom.given? (·.comment)) := by
  rw [given_members, given_members]
  induction members with
  | nil => rfl
  | cons member others induction =>
      obtain ⟨key, optional, type, comment, directives⟩ := member
      obtain ⟨head, tail⟩ := List.forall_mem_cons.mp each
      rw [Member.hydrateAll, List.flatMap_cons, List.flatMap_cons, induction tail, memberTexts, head]
      rfl

theorem atoms_of_wrongArity {utility : Utility} {arguments : List TypeNode}
    (wrong : arguments.length ≠ utility.arity) :
    (TypeNode.generic utility.name arguments).atoms = [] := by
  rw [atoms.eq_def]
  cases utility <;> simp only [Utility.name] <;> split <;> simp_all [Utility.arity]

theorem atoms_of_unknown {name : String} {arguments : List TypeNode}
    (unknown : Utility.ofName? name = none) : (TypeNode.generic name arguments).atoms = [] := by
  rw [atoms.eq_def]
  simp only []
  split <;> first | rfl | cases unknown

theorem givenTexts_of_call {node inner : TypeNode} {call : Call}
    (atoms : node.atoms = inner.atoms ++ [.call call]) : node.givenTexts = inner.givenTexts := by
  rw [givenTexts, atoms, List.filterMap_append]
  exact List.append_nil _

theorem givenTexts_hydrate_generic (name : String) {arguments : List TypeNode}
    (each : ∀ argument ∈ arguments, argument.hydrate.givenTexts = argument.givenTexts) :
    (TypeNode.generic name (hydrateAll arguments)).givenTexts =
      (TypeNode.generic name arguments).givenTexts := by
  have called {inner before after : TypeNode} {call other : Call}
      (same : inner.hydrate.givenTexts = inner.givenTexts)
      (hydrated : before.atoms = inner.hydrate.atoms ++ [.call call])
      (given : after.atoms = inner.atoms ++ [.call other]) : before.givenTexts = after.givenTexts := by
    rw [givenTexts_of_call hydrated, givenTexts_of_call given, same]
  rw [hydrateAll_eq]
  cases application name arguments with
  | arrayOf element => exact each element (by simp)
  | record key value => exact each value (by simp)
  | allOptional inner => exact called (each inner (by simp)) rfl rfl
  | allRequired inner => exact called (each inner (by simp)) rfl rfl
  | allReadonly inner => exact each inner (by simp)
  | pickKeys inner keys => exact called (each inner (by simp)) rfl rfl
  | omitKeys inner keys => exact called (each inner (by simp)) rfl rfl
  | wrongArity utility arguments wrong =>
      have mapped : (arguments.map hydrate).length ≠ utility.arity := by rwa [List.length_map]
      rw [givenTexts, givenTexts, atoms_of_wrongArity wrong, atoms_of_wrongArity mapped]
  | unknown name arguments unknown =>
      rw [givenTexts, givenTexts, atoms_of_unknown unknown, atoms_of_unknown unknown]

/-- Directives that are taken from comments leave the comments and the numbers as they are. -/
theorem givenTexts_hydrate (node : TypeNode) : node.hydrate.givenTexts = node.givenTexts := by
  induction node with
  | primitive keyword => rfl
  | literal value => rfl
  | reference name => rfl
  | array element induction => exact induction
  | tuple elements induction => exact given_hydrateAll induction
  | object members signature memberInduction indexInduction =>
      have same := given_hydrateMembers memberInduction
      obtain _ | ⟨key, value⟩ := signature
      · exact same
      · have values := (indexInduction _ rfl).2
        simp only [givenTexts, hydrate, atoms, List.filterMap_append, same] at values ⊢
        rw [values]
  | union parts induction => exact given_hydrateAll induction
  | intersection parts induction => exact given_hydrateAll induction
  | generic name arguments induction => exact givenTexts_hydrate_generic name induction
  | template head spans => rfl
  | parenthesized inner induction => exact induction

theorem pieces_of_compile {node : TypeNode} {schema : Schema} (compiled : node.compile = .ok schema)
    (library : List Char) (level : Nat) :
    (schema.pieces library level).flatMap Piece.text = schema.write library level ∧
      (schema.pieces library level).filterMap Piece.given? = node.givenTexts ∧
      ∀ piece ∈ schema.pieces library level, piece.Bounded := by
  have covers : Vocabulary.unrestricted.Covers node :=
    ⟨fun _ _ => trivial, fun _ _ _ _ _ => trivial⟩
  have made : PiecesOf (schema.pieces library level) (schema.write library level) schema.atoms :=
    (formed_of_compile covers compiled).piecesOf level
  exact ⟨made.text, made.given.trans (given_of_sameAtoms (sameAtoms_of_compile compiled)),
    made.bounded⟩

end TypeNode

namespace TypeScript

/-- A text that is a number to the scanner, from its first character to its last. -/
def IsNumber (text : List Char) : Prop :=
  ∃ c rest, text = c :: rest ∧ lexeme ⟨[], true⟩ c rest = (.number, text.length)

/-- A number, or a sign and a number. -/
def IsSignedNumber (text : List Char) : Prop :=
  IsNumber text ∨ ∃ digits, (text = '-' :: digits ∨ text = '+' :: digits) ∧ IsNumber digits

end TypeScript

/-- A comment that is one block comment at most, or a number that is a number. -/
def GivenText.OneToken : GivenText → Prop
  | .comment text => DocComment.OnlyBlock text.toList
  | .number text => IsSignedNumber text.toList

/-- As written, a comment stands alone, and a number is a number. -/
def Piece.OneToken : Piece → Prop
  | .code _ => True
  | .comment level text => DocComment.StandsAlone (indentation level) (Piece.comment level text).text
  | .number text => IsSignedNumber (Piece.number text).text
  | .bound text => IsBound text

theorem Piece.oneToken_iff {piece : Piece} (bounded : piece.Bounded) :
    piece.OneToken ↔ ∀ given ∈ piece.given?, given.OneToken := by
  cases piece with
  | code text => exact iff_of_true trivial nofun
  | comment level text =>
      refine (DocComment.layout_standsAlone_iff (indentation_blank level) text).trans ?_
      exact ⟨by rintro alone _ ⟨⟩; exact alone, fun each => each _ rfl⟩
  | number text => exact ⟨by rintro number _ ⟨⟩; exact number, fun each => each _ rfl⟩
  | bound text => exact iff_of_true bounded nofun

namespace Declaration

/-- The declarations of a JSON source, as they are given. -/
def givenJson? (source : String) : Option (List Declaration) :=
  (Json.readFirst? source.toList).bind fun (json, _) => listOfJson? json

theorem givenJson_of_readJson {source : String} {declarations : List Declaration}
    (accepted : readJson source = .ok declarations) :
    ∃ given, givenJson? source = some given ∧ declarations = given.map (·.hydrate) := by
  unfold readJson at accepted
  split at accepted
  next => cases accepted
  next json rest read =>
    split at accepted
    next => cases accepted
    next given listed =>
      split at accepted
      next =>
        cases accepted
        exact ⟨given, by rw [givenJson?, read]; exact listed, rfl⟩
      next => cases accepted

/-- The text of a schema from a JSON source is made of pieces. Its comments and its number literals
are those of the declaration as it is given, in order; what is written for one of them is one token
exactly when it is given as one token, and every other number is a bound. -/
theorem readJson_oneToken_iff {source : String} {declarations : List Declaration}
    (accepted : readJson source = .ok declarations) {declaration : Declaration}
    (listed : declaration ∈ declarations) {schema : Schema}
    (compiled : declaration.node.compile = .ok schema) (library : List Char) (level : Nat) :
    (schema.pieces library level).flatMap Piece.text = schema.write library level ∧
    (∃ given, givenJson? source = some given ∧ ∃ original ∈ given,
      original.hydrate = declaration ∧
      (schema.pieces library level).filterMap Piece.given? = original.node.givenTexts) ∧
    ∀ piece ∈ schema.pieces library level,
      (piece.OneToken ↔ ∀ given ∈ piece.given?, given.OneToken) := by
  obtain ⟨text, texts, bounded⟩ := TypeNode.pieces_of_compile compiled library level
  obtain ⟨given, read, rfl⟩ := givenJson_of_readJson accepted
  obtain ⟨original, isGiven, rfl⟩ := List.mem_map.mp listed
  refine ⟨text, ⟨given, read, original, isGiven, rfl, ?_⟩,
    fun piece stands => Piece.oneToken_iff (bounded piece stands)⟩
  rw [texts]
  exact TypeNode.givenTexts_hydrate original.node

/-- A comment of two lines with a directive in it, and a number in base sixteen. -/
theorem readJson_oneToken_hexadecimal :
    let source := "[[\"Power\", [\"object\", [[[\"level\", true, [\"literal\", [\"number\", \"0x1f\"]], " ++
      "\"/** Level\\n@minimum 2 */\"]]]]]]"
    ∃ declarations, readJson source = .ok declarations ∧
      ∃ declaration ∈ declarations, ∃ schema, declaration.node.compile = .ok schema ∧
        (schema.pieces ['z'] 0).flatMap Piece.text = schema.write ['z'] 0 ∧
        ∀ piece ∈ schema.pieces ['z'] 0, piece.OneToken := by
  intro source
  have accepts : (readJson source).isOk = true := by decide +kernel
  obtain ⟨declarations, accepted⟩ := Result.isOk_iff.mp accepts
  have compiles : (readJson source).toOption.any
      (fun declarations => declarations.any (·.node.compile.isOk)) = true := by decide +kernel
  rw [accepted] at compiles
  obtain ⟨declaration, listed, isOk⟩ := List.any_eq_true.mp compiles
  obtain ⟨schema, compiled⟩ := Result.isOk_iff.mp isOk
  obtain ⟨text, ⟨given, read, original, isGiven, -, texts⟩, tokens⟩ :=
    readJson_oneToken_iff accepted listed compiled ['z'] 0
  have known : ∀ given ∈ givenJson? source, ∀ original ∈ given, original.node.givenTexts =
      [.comment "/** Level\n@minimum 2 */", .number "0x1f"] := by decide +kernel
  rw [known given read original isGiven] at texts
  have comment : GivenText.OneToken (.comment "/** Level\n@minimum 2 */") :=
    .inr ⟨_, rfl, by decide +kernel⟩
  have number : GivenText.OneToken (.number "0x1f") := .inl ⟨_, _, rfl, by decide +kernel⟩
  refine ⟨declarations, accepted, declaration, listed, schema, compiled, text, ?_⟩
  intro piece stands
  refine (tokens piece stands).mpr fun given isGiven => ?_
  have among := List.mem_filterMap.mpr ⟨piece, stands, isGiven⟩
  rw [texts] at among
  simp only [List.mem_cons, List.not_mem_nil, or_false] at among
  rcases among with rfl | rfl
  · exact comment
  · exact number

/-- A comment and a number that go on after their ends. -/
theorem readJson_calls_written :
    let source := "[[\"Power\", [\"object\", [[[\"level\", false, [\"literal\", [\"number\", " ++
      "\"1) + f(2\"]], \"/* 1 */ f(), /* 2 */\"]]]]]]"
    ∃ declarations, readJson source = .ok declarations ∧
      ∃ declaration ∈ declarations, ∃ schema, declaration.node.compile = .ok schema ∧
        (∃ piece ∈ schema.pieces ['z'] 0,
          piece.given? = some (.comment "/* 1 */ f(), /* 2 */") ∧ ¬piece.OneToken) ∧
        ∃ piece ∈ schema.pieces ['z'] 0,
          piece.given? = some (.number "1) + f(2") ∧ ¬piece.OneToken := by
  intro source
  have accepts : (readJson source).isOk = true := by decide +kernel
  obtain ⟨declarations, accepted⟩ := Result.isOk_iff.mp accepts
  have writes : (readJson source).toOption.any (fun declarations =>
      declarations.any fun declaration =>
        declaration.node.compile.toOption.any fun schema =>
          decide (Piece.comment 1 "/* 1 */ f(), /* 2 */" ∈ schema.pieces ['z'] 0) &&
          decide (Piece.number "1) + f(2" ∈ schema.pieces ['z'] 0)) = true := by
    decide +kernel
  rw [accepted] at writes
  obtain ⟨declaration, listed, found⟩ := List.any_eq_true.mp writes
  obtain ⟨schema, isSchema, both⟩ := (Option.any_eq_true _ _).mp found
  obtain ⟨comment, number⟩ := Bool.and_eq_true_iff.mp both
  have compiled : declaration.node.compile = .ok schema := by
    cases result : declaration.node.compile with
    | ok other =>
        rw [result] at isSchema
        exact congrArg Except.ok (Option.some.inj isSchema)
    | error error =>
        rw [result] at isSchema
        cases isSchema
  refine ⟨declarations, accepted, declaration, listed, schema, compiled,
    ⟨_, of_decide_eq_true comment, rfl, ?_⟩, ⟨_, of_decide_eq_true number, rfl, ?_⟩⟩
  · intro alone
    rcases (DocComment.layout_standsAlone_iff (indentation_blank 1) _).mp alone with
      empty | ⟨inside, same, ends⟩
    · exact absurd empty (by decide +kernel)
    · have known : inside = " 1 */ f(), /* 2 */".toList :=
        (List.cons.inj (List.cons.inj same).2).2.symm
      rw [known] at ends
      exact absurd ends (by decide +kernel)
  · rintro (⟨c, rest, same, token⟩ | ⟨digits, signed, -⟩)
    · obtain ⟨rfl, rfl⟩ := List.cons.inj same
      exact absurd token (by decide +kernel)
    · rcases signed with signed | signed <;> exact absurd (List.cons.inj signed).1 (by decide)

end Declaration

end TypeSchema
