import TypeSchema.TypeScript.Source

/-!
The bases of the interfaces of a source. Whatever else the grammar reads, what it takes for a base is
a name, with points or type arguments in it, or a comment; so no base is a union or an intersection.
-/

namespace TypeSchema.TypeScript

namespace Reader

variable {α β : Type} {p : α → Prop} {q : β → Prop}

/-- Whatever a reader gives has a property. -/
def Yields (p : α → Prop) (reader : Reader α) : Prop :=
  ∀ lexemes value rest, reader.run lexemes = some (value, rest) → p value

theorem Yields.pure {value : α} (holds : p value) : Yields p (pure value) := by
  intro lexemes _ rest read
  cases read
  exact holds

theorem Yields.failure : Yields p failure := nofun

theorem Yields.ite {condition : Prop} [Decidable condition] {first second : Reader α}
    (yes : Yields p first) (no : Yields p second) :
    Yields p (if condition then first else second) := by
  split
  · exact yes
  · exact no

/-- A reader after another, of the value of which a property is known. -/
theorem Yields.andThen {reader : Reader α} {next : α → Reader β} (first : Yields p reader)
    (each : ∀ value, p value → Yields q (next value)) : Yields q (reader >>= next) := by
  intro lexemes value rest read
  obtain ⟨⟨middle, after⟩, before, read⟩ := Option.bind_eq_some_iff.mp read
  exact each middle (first lexemes middle after before) after value rest read

theorem Yields.bind {reader : Reader α} {next : α → Reader β}
    (each : ∀ value, Yields q (next value)) : Yields q (reader >>= next) :=
  Yields.andThen (p := fun _ => True) (fun _ _ _ _ => trivial) fun value _ => each value

end Reader

open Reader

/-- The form of a base: a name, or what stands for a comment. -/
def TypeTree.IsBase : TypeTree → Prop
  | .name _ => True
  | .qualifiedName _ _ => True
  | .generic _ _ => True
  | .other _ _ => True
  | _ => False

def DeclarationTree.NamedBases : DeclarationTree → Prop
  | .typeAlias _ _ => True
  | .interface _ bases _ => ∀ base ∈ bases, base.IsBase

/-- A declaration, if there is one, is no interface with a base of another form. -/
def NamedBases? (tree? : Option DeclarationTree) : Prop :=
  ∀ tree ∈ tree?, tree.NamedBases

namespace Grammar

theorem isBase_dottedName (start : List Lexeme) (tree : TypeTree) (base : tree.IsBase)
    (lexemes : List Lexeme) : (dottedName start tree lexemes).1.IsBase := by
  fun_induction dottedName start tree lexemes with
  | case1 tree point name rest _ qualifier induction => exact induction trivial
  | case2 => exact base
  | case3 => exact base

theorem appliedTree_isBase (fuel : Nat) (start : List Lexeme) {tree : TypeTree}
    (base : tree.IsBase) : (appliedTree fuel start tree).Yields TypeTree.IsBase := by
  cases fuel with
  | zero =>
      unfold appliedTree
      exact .failure
  | succ fuel =>
      unfold appliedTree
      exact .bind fun _ => .ite (.bind fun _ => .bind fun _ => .bind fun _ => .pure trivial)
        (.pure base)

theorem isBase_comments (lexeme : Lexeme) :
    ∀ base ∈ lexeme.comments.map (TypeTree.other "comment"), base.IsBase := by
  intro base listed
  obtain ⟨text, -, rfl⟩ := List.mem_map.mp listed
  trivial

theorem baseList_isBase (fuel : Nat) :
    (baseList fuel).Yields fun bases => ∀ base ∈ bases, base.IsBase := by
  induction fuel with
  | zero =>
      unfold baseList
      exact .failure
  | succ fuel induction =>
      unfold baseList
      refine .bind fun start => .bind fun first => .bind fun lexemes => ?_
      have named : (dottedName start (.name (String.ofList first.token.text)) lexemes).1.IsBase :=
        isBase_dottedName start (.name _) trivial lexemes
      refine .bind fun _ => .andThen (appliedTree_isBase fuel start named) fun base isBase =>
        .bind fun after => ?_
      cases after with
      | nil => exact .failure
      | cons comma rest =>
          refine .ite (.bind fun _ => .andThen induction fun others listed => .pure ?_) (.pure ?_)
          · have firstBases := List.forall_mem_append.mpr
              ⟨isBase_comments first, List.forall_mem_cons.mpr ⟨isBase, isBase_comments comma⟩⟩
            exact List.forall_mem_append.mpr ⟨by simpa using firstBases, listed⟩
          · exact List.forall_mem_append.mpr
              ⟨isBase_comments first, List.forall_mem_singleton.mpr isBase⟩

theorem aliasRest_namedBases (fuel : Nat) :
    (aliasRest fuel).Yields DeclarationTree.NamedBases := by
  unfold aliasRest
  dsimp only
  exact .bind fun _ => .bind fun _ => .ite
    (.bind fun _ => .bind fun _ => .bind fun _ => .bind fun _ => .pure trivial)
    (.bind fun _ => .bind fun _ => .bind fun _ => .pure trivial)

/-- An interface after its name and its type parameters. -/
theorem extension_namedBases (fuel : Nat) (name : String) :
    Yields DeclarationTree.NamedBases (do
      let bases ← if ← acceptWord "extends" then baseList fuel else pure []
      expect "\x7b"
      return .interface name bases (← objectBody fuel true)) := by
  have rest : ∀ bases : List TypeTree, (∀ base ∈ bases, base.IsBase) →
      Yields DeclarationTree.NamedBases (do
        expect "\x7b"
        return .interface name bases (← objectBody fuel true)) :=
    fun _ listed => .bind fun _ => .bind fun _ => .pure listed
  dsimp only
  exact .bind fun _ => .ite (.andThen (baseList_isBase fuel) rest)
    (.andThen (.pure nofun) rest)

theorem interfaceRest_namedBases (fuel : Nat) :
    (interfaceRest fuel).Yields DeclarationTree.NamedBases := by
  unfold interfaceRest
  exact .bind fun name => .bind fun _ => .ite
    (.bind fun _ => extension_namedBases fuel name) (extension_namedBases fuel name)

theorem namedBases_some {tree : DeclarationTree} (named : tree.NamedBases) :
    NamedBases? (some tree) := by
  rintro _ ⟨⟩
  exact named

theorem namedBases_none : NamedBases? none := nofun

theorem declaration_namedBases (fuel : Nat) : (declaration fuel).Yields NamedBases? := by
  induction fuel with
  | zero =>
      unfold declaration
      exact .failure
  | succ fuel induction =>
      unfold declaration
      dsimp only
      refine .bind fun start => .ite
        (.bind fun _ => .andThen (aliasRest_namedBases fuel) fun _ named =>
          .pure (namedBases_some named))
        (.bind fun _ => .ite
          (.andThen (interfaceRest_namedBases fuel) fun _ named => .pure (namedBases_some named)) ?_)
      -- All other branches end without a tree.
      repeat' first
        | exact .pure namedBases_none | exact .failure | apply Yields.ite | refine .bind fun _ => ?_

theorem exportRest_namedBases (fuel : Nat) : (exportRest fuel).Yields NamedBases? := by
  induction fuel with
  | zero =>
      unfold exportRest
      exact .failure
  | succ fuel induction =>
      unfold exportRest
      dsimp only
      repeat' first
        | exact induction | exact declaration_namedBases fuel | exact .pure namedBases_none
        | apply Yields.ite | refine .bind fun _ => ?_

theorem expressionStatement_namedBases (fuel : Nat) :
    (statement.expressionStatement fuel).Yields NamedBases? := by
  unfold statement.expressionStatement
  exact .bind fun _ => .bind fun _ => .pure namedBases_none

theorem statement_namedBases (fuel : Nat) : (statement fuel).Yields NamedBases? := by
  cases fuel with
  | zero =>
      unfold statement
      exact .failure
  | succ fuel =>
      unfold statement
      dsimp only
      repeat' first
        | exact exportRest_namedBases fuel | exact declaration_namedBases fuel
        | exact expressionStatement_namedBases fuel | exact .pure namedBases_none
        | apply Yields.ite | refine .bind fun _ => ?_ | split

theorem statements_namedBases (fuel : Nat) :
    (statements fuel).Yields fun trees => ∀ tree ∈ trees, tree.NamedBases := by
  induction fuel with
  | zero =>
      unfold statements
      exact .failure
  | succ fuel induction =>
      unfold statements
      refine .bind fun _ => .ite (.pure nofun) (.andThen (statement_namedBases fuel) fun first named =>
        .andThen induction fun others listed => .pure ?_)
      exact List.forall_mem_append.mpr
        ⟨fun tree member => named tree (Option.mem_toList.mp member), listed⟩

end Grammar

theorem namedBases_of_declarationTrees {source : String} {trees : List DeclarationTree}
    (read : declarationTrees? source = some trees) : ∀ tree ∈ trees, tree.NamedBases := by
  unfold declarationTrees? at read
  dsimp only at read
  split at read
  · cases read
  · obtain ⟨⟨_, rest⟩, ran, rfl⟩ := Option.map_eq_some_iff.mp read
    exact Grammar.statements_namedBases _ _ _ rest ran

end TypeSchema.TypeScript
