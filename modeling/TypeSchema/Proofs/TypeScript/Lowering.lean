import TypeSchema.Proofs.Result
import TypeSchema.TypeScript.Source

/-!
Which syntax trees can be lowered: those without a form that has no schema, at any depth. Of a list
of declarations the first that cannot be lowered ends the lowering of all.
-/

namespace TypeSchema.TypeScript

open Result

def PropertyName.lowers : PropertyName → Bool
  | .plain _ => true
  | .quoted _ => true
  | .computed _ => false

theorem PropertyName.isOk_key (name : PropertyName) : name.key.isOk = name.lowers := by
  cases name <;> rfl

mutual

/-- Whether a tree is free of forms that have no counterpart among the types. -/
def TypeTree.lowers : TypeTree → Bool
  | .keyword text => (Primitive.ofKeyword? text).isSome
  | .name _ => true
  | .qualifiedName _ _ => true
  | .generic _ arguments => TypeTree.allLower arguments
  | .string _ => true
  | .number _ => true
  | .boolean _ => true
  | .null => true
  | .undefined => true
  | .array element => element.lowers
  | .tuple elements => TypeTree.allLower elements
  | .parenthesized inner => inner.lowers
  | .union first others => first.lowers && TypeTree.allLower others
  | .intersection first others => first.lowers && TypeTree.allLower others
  | .object body => BodyItem.allLower body
  | .template text pieces => Template.isClosed text.toList && TemplatePiece.allLower pieces
  | .other _ _ => false

def TypeTree.allLower : List TypeTree → Bool
  | [] => true
  | tree :: others => tree.lowers && TypeTree.allLower others

def BodyItem.allLower : List BodyItem → Bool
  | [] => true
  | .comment _ :: others => BodyItem.allLower others
  | .property name _ none :: others => name.lowers && BodyItem.allLower others
  | .property name _ (some type) :: others =>
      name.lowers && (type.lowers && BodyItem.allLower others)
  | .indexSignature key value :: others =>
      key.lowers && (value.lowers && BodyItem.allLower others)
  | .mappedType _ :: _ => false
  | .other _ :: _ => false

def TemplatePiece.allLower : List TemplatePiece → Bool
  | [] => true
  | .text _ :: others => TemplatePiece.allLower others
  | .stray text :: others => Template.isEscapeRun text.toList && TemplatePiece.allLower others
  | .hole type :: others => type.lowers && TemplatePiece.allLower others

end

mutual

/-- Lowering refuses nothing else. -/
theorem TypeTree.isOk_lower : (tree : TypeTree) → tree.lower.isOk = tree.lowers
  | .keyword text => by
      unfold TypeTree.lower TypeTree.lowers
      cases Primitive.ofKeyword? text <;> rfl
  | .name _ => rfl
  | .qualifiedName _ _ => rfl
  | .generic _ arguments => by
      rw [TypeTree.lower, TypeTree.lowers]
      exact isOk_bind_always (TypeTree.isOk_lowerAll arguments) fun _ => rfl
  | .string _ => rfl
  | .number _ => rfl
  | .boolean _ => rfl
  | .null => rfl
  | .undefined => rfl
  | .array element => by
      rw [TypeTree.lower, TypeTree.lowers]
      exact isOk_bind_always element.isOk_lower fun _ => rfl
  | .tuple elements => by
      rw [TypeTree.lower, TypeTree.lowers]
      exact isOk_bind_always (TypeTree.isOk_lowerAll elements) fun _ => rfl
  | .parenthesized inner => by
      rw [TypeTree.lower, TypeTree.lowers]
      exact isOk_bind_always inner.isOk_lower fun _ => rfl
  | .union first others => by
      rw [TypeTree.lower, TypeTree.lowers]
      exact isOk_bind first.isOk_lower fun _ =>
        isOk_bind_always (TypeTree.isOk_lowerAll others) fun _ => rfl
  | .intersection first others => by
      rw [TypeTree.lower, TypeTree.lowers]
      exact isOk_bind first.isOk_lower fun _ =>
        isOk_bind_always (TypeTree.isOk_lowerAll others) fun _ => rfl
  | .object body => by
      rw [TypeTree.lower, TypeTree.lowers]
      exact isOk_bind_always (BodyItem.isOk_lowerAll none none body) fun _ => rfl
  | .template text pieces => by
      rw [TypeTree.lower, TypeTree.lowers]
      split
      next closed =>
        rw [closed, Bool.true_and]
        exact isOk_bind_always (TemplatePiece.isOk_lowerAll [] pieces) fun _ => rfl
      next unclosed =>
        rw [Bool.eq_false_iff.mpr unclosed]
        rfl
  | .other _ _ => rfl

theorem TypeTree.isOk_lowerAll :
    (trees : List TypeTree) → (TypeTree.lowerAll trees).isOk = TypeTree.allLower trees
  | [] => rfl
  | tree :: others => by
      rw [TypeTree.lowerAll, TypeTree.allLower]
      exact isOk_bind tree.isOk_lower fun _ =>
        isOk_bind_always (TypeTree.isOk_lowerAll others) fun _ => rfl

theorem BodyItem.isOk_lowerAll (comment : Option String) (signature : Option IndexSignature) :
    (items : List BodyItem) →
      (BodyItem.lowerAll comment signature items).isOk = BodyItem.allLower items
  | [] => rfl
  | .comment text :: others => by
      rw [BodyItem.lowerAll, BodyItem.allLower]
      exact BodyItem.isOk_lowerAll _ signature others
  | .property name optional none :: others => by
      rw [BodyItem.lowerAll, BodyItem.allLower]
      exact isOk_bind name.isOk_key fun _ =>
        isOk_bind_always (BodyItem.isOk_lowerAll none signature others) fun _ => rfl
  | .property name optional (some type) :: others => by
      rw [BodyItem.lowerAll, BodyItem.allLower]
      exact isOk_bind name.isOk_key fun _ => isOk_bind type.isOk_lower fun _ =>
        isOk_bind_always (BodyItem.isOk_lowerAll none signature others) fun _ => rfl
  | .indexSignature key value :: others => by
      rw [BodyItem.lowerAll, BodyItem.allLower]
      exact isOk_bind key.isOk_lower fun _ => isOk_bind value.isOk_lower fun _ =>
        BodyItem.isOk_lowerAll none _ others
  | .mappedType _ :: _ => rfl
  | .other _ :: _ => rfl

theorem TemplatePiece.isOk_lowerAll (raw : List Char) : (pieces : List TemplatePiece) →
    (TemplatePiece.lowerAll raw pieces).isOk = TemplatePiece.allLower pieces
  | [] => rfl
  | .text text :: others => by
      rw [TemplatePiece.lowerAll, TemplatePiece.allLower]
      exact TemplatePiece.isOk_lowerAll _ others
  | .stray text :: others => by
      rw [TemplatePiece.lowerAll, TemplatePiece.allLower]
      split
      next escaped =>
        rw [escaped, Bool.true_and]
        exact TemplatePiece.isOk_lowerAll _ others
      next stray =>
        rw [Bool.eq_false_iff.mpr stray]
        rfl
  | .hole type :: others => by
      rw [TemplatePiece.lowerAll, TemplatePiece.allLower]
      exact isOk_bind type.isOk_lower fun _ =>
        isOk_bind_always (TemplatePiece.isOk_lowerAll [] others) fun _ => rfl

end

namespace DeclarationTree

def lowers : DeclarationTree → Bool
  | .typeAlias _ type => type.lowers
  | .interface _ bases body => BodyItem.allLower body && TypeTree.allLower bases

theorem isOk_lower (tree : DeclarationTree) : tree.lower.isOk = tree.lowers := by
  cases tree with
  | typeAlias name type => exact isOk_bind_always type.isOk_lower fun _ => rfl
  | interface name bases body =>
      exact isOk_bind (BodyItem.isOk_lowerAll none none body) fun _ =>
        isOk_bind_always (TypeTree.isOk_lowerAll bases) fun _ => rfl

theorem lowers_iff {tree : DeclarationTree} :
    tree.lowers = true ↔ ∃ declaration, tree.lower = .ok declaration := by
  rw [← isOk_lower, isOk_iff]

theorem exists_lower {trees : List DeclarationTree} {declarations : List Declaration}
    (lowered : lowerAll trees = .ok declarations) :
    ∀ declaration ∈ declarations, ∃ tree ∈ trees, tree.lower = .ok declaration := by
  induction trees generalizing declarations with
  | nil =>
      cases lowered
      nofun
  | cons tree trees induction =>
      obtain ⟨declaration, others, first, rest, rfl⟩ := cons_eq_ok_iff.mp lowered
      refine List.forall_mem_cons.mpr ⟨⟨tree, List.mem_cons_self, first⟩, fun other listed => ?_⟩
      obtain ⟨origin, member, own⟩ := induction rest other listed
      exact ⟨origin, List.mem_cons_of_mem _ member, own⟩

theorem lowerAll_ok_iff (trees : List DeclarationTree) :
    (∃ declarations, lowerAll trees = .ok declarations) ↔ ∀ tree ∈ trees, tree.lowers = true := by
  induction trees with
  | nil => exact iff_of_true ⟨[], rfl⟩ (fun _ member => absurd member List.not_mem_nil)
  | cons tree trees induction =>
      rw [List.forall_mem_cons, ← induction]
      constructor
      · rintro ⟨declarations, lowered⟩
        obtain ⟨declaration, others, first, rest, -⟩ := cons_eq_ok_iff.mp lowered
        exact ⟨lowers_iff.mpr ⟨declaration, first⟩, others, rest⟩
      · rintro ⟨lowers, others, rest⟩
        obtain ⟨declaration, first⟩ := lowers_iff.mp lowers
        exact ⟨declaration :: others, by simp only [lowerAll, first, rest]; rfl⟩

theorem lowerAll_error_iff (trees : List DeclarationTree) (error : GenerateError) :
    lowerAll trees = .error error ↔
      ∃ before tree after, trees = before ++ tree :: after ∧
        (∀ earlier ∈ before, earlier.lowers = true) ∧ tree.lower = .error error := by
  induction trees with
  | nil => simp [lowerAll]
  | cons tree trees induction =>
      constructor
      · intro failed
        rcases bind_eq_error_iff.mp failed with first | ⟨declaration, first, failed⟩
        · exact ⟨[], tree, trees, rfl, by simp, first⟩
        · rcases bind_eq_error_iff.mp failed with rest | ⟨others, _, failed⟩
          · obtain ⟨before, culprit, after, split, lowers, fault⟩ := induction.mp rest
            refine ⟨tree :: before, culprit, after, by rw [split, List.cons_append], ?_, fault⟩
            exact List.forall_mem_cons.mpr ⟨lowers_iff.mpr ⟨declaration, first⟩, lowers⟩
          · cases failed
      · rintro ⟨before, culprit, after, split, lowers, fault⟩
        cases before with
        | nil =>
            obtain ⟨rfl, rfl⟩ := List.cons.inj split
            exact bind_eq_error_iff.mpr (.inl fault)
        | cons earlier before =>
            obtain ⟨rfl, others⟩ := List.cons.inj split
            obtain ⟨alike, lowers⟩ := List.forall_mem_cons.mp lowers
            obtain ⟨declaration, first⟩ := lowers_iff.mp alike
            have rest := induction.mpr ⟨before, culprit, after, others, lowers, fault⟩
            exact bind_eq_error_iff.mpr
              (.inr ⟨declaration, first, bind_eq_error_iff.mpr (.inl rest)⟩)

end DeclarationTree

end TypeSchema.TypeScript
