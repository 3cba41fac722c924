import TypeSchema.Proofs.Schema.Indentation
import TypeSchema.Proofs.SchemaModule.Skipping
import TypeSchema.Proofs.TypeScript.Bases
import TypeSchema.Proofs.TypeScript.Lowered

/-!
Extending as intersecting. An interface that extends others stands for the intersection of these and
its body, and is the same declaration as the alias of that intersection, in whatever way the
intersection is nested. Both fail for the same parts. They look at the parts in different orders: so
if more than one part fails, they may name different ones.
-/

namespace TypeSchema

/-! The schema of an intersection. -/

namespace Schema

/-- The calls by which a schema is met with others. -/
def andCalls (library : List Char) (level : Nat) (others : List Schema) : List Char :=
  others.flatMap fun other => ".and(".toList ++ other.write library level ++ [')']

theorem write_foldl_and (library : List Char) (level : Nat) (others : List Schema)
    (first : Schema) :
    (others.foldl .and first).write library level =
      first.write library level ++ andCalls library level others := by
  induction others generalizing first with
  | nil => exact (List.append_nil _).symm
  | cons other others induction =>
      rw [List.foldl_cons, induction, write_and]
      simp only [andCalls, List.flatMap_cons, List.append_assoc]

end Schema

namespace TypeNode

theorem compileAnd_of_compileAll {nodes : List TypeNode} {others : List Schema}
    (compiled : compileAll nodes = .ok others) (first : Schema) :
    compileAnd first nodes = .ok (others.foldl .and first) := by
  induction nodes generalizing first others with
  | nil =>
      cases compiled
      rfl
  | cons node nodes induction =>
      obtain ⟨other, rest, own, tail, rfl⟩ := Result.cons_eq_ok_iff.mp compiled
      rw [compileAnd, own]
      exact induction tail (first.and other)

theorem compileAll_append {nodes more : List TypeNode} {schemas others : List Schema}
    (compiled : compileAll nodes = .ok schemas) (compiledMore : compileAll more = .ok others) :
    compileAll (nodes ++ more) = .ok (schemas ++ others) := by
  induction nodes generalizing schemas with
  | nil =>
      cases compiled
      exact compiledMore
  | cons node nodes induction =>
      obtain ⟨schema, rest, own, tail, rfl⟩ := Result.cons_eq_ok_iff.mp compiled
      rw [List.cons_append, compileAll, own, induction tail]
      rfl

/-- The schemas of the parts are met from left to right, that of the last part at the end. -/
theorem compile_intersection_append {nodes : List TypeNode} {node : TypeNode} {first last : Schema}
    {others : List Schema} (compiled : compileAll nodes = .ok (first :: others))
    (compiledLast : node.compile = .ok last) :
    (TypeNode.intersection (nodes ++ [node])).compile =
      .ok ((others ++ [last]).foldl .and first) := by
  have alone : compileAll [node] = .ok [last] := by
    rw [compileAll, compiledLast]
    rfl
  cases nodes with
  | nil => cases compiled
  | cons head nodes =>
      obtain ⟨schema, rest, own, tail, same⟩ := Result.cons_eq_ok_iff.mp compiled
      cases same
      rw [List.cons_append, compile, own]
      exact compileAnd_of_compileAll (compileAll_append tail alone) first

end TypeNode

namespace TypeScript

open Result

/-! The parts of an intersection. -/

mutual

/-- The types that a type is the intersection of, however its intersections are nested. -/
def TypeTree.factors : TypeTree → List TypeTree
  | .intersection first others => first.factors ++ TypeTree.allFactors others
  | tree => [tree]

def TypeTree.allFactors : List TypeTree → List TypeTree
  | [] => []
  | tree :: others => tree.factors ++ TypeTree.allFactors others

end

namespace TypeTree

theorem lowerAll_append (before after : List TypeTree) :
    lowerAll (before ++ after) = do
      let nodes ← lowerAll before
      let others ← lowerAll after
      return nodes ++ others := by
  induction before with
  | nil => exact (bind_pure (lowerAll after)).symm
  | cons tree before induction =>
      rw [List.cons_append, lowerAll, lowerAll, induction]
      simp only [bind_assoc, pure_bind, List.cons_append]

theorem lowerAll_single {tree : TypeTree}
    (single : ∀ first others, tree ≠ .intersection first others) :
    lowerAll [tree] = intersectionParts <$> tree.lower := by
  rw [lowerAll, lowerAll]
  cases lowered : tree.lower with
  | error error => rfl
  | ok node =>
      cases node with
      | intersection parts =>
          obtain ⟨first, others, same⟩ := eq_intersection_of_lower lowered
          exact absurd same (single first others)
      | _ => rfl

mutual

/-- The factors of a type are lowered to the parts that the type brings into an intersection. -/
theorem lowerAll_factors (tree : TypeTree) :
    lowerAll tree.factors = intersectionParts <$> tree.lower := by
  cases tree with
  | intersection first others =>
      rw [factors, lowerAll_append, first.lowerAll_factors, lowerAll_allFactors others, lower]
      cases first.lower with
      | error error => rfl
      | ok node => cases lowerAll others <;> rfl
  | _ => exact lowerAll_single nofun

theorem lowerAll_allFactors (trees : List TypeTree) :
    lowerAll (allFactors trees) = (·.flatMap intersectionParts) <$> lowerAll trees := by
  cases trees with
  | nil => rfl
  | cons tree others =>
      rw [allFactors, lowerAll_append, tree.lowerAll_factors, lowerAll_allFactors others, lowerAll]
      cases tree.lower with
      | error error => rfl
      | ok node => cases lowerAll others <;> rfl

end

theorem lower_intersection (first : TypeTree) (others : List TypeTree) :
    (TypeTree.intersection first others).lower =
      .intersection <$> lowerAll (TypeTree.intersection first others).factors := by
  rw [lowerAll_factors, lower]
  cases first.lower with
  | error error => rfl
  | ok node => cases lowerAll others <;> rfl

theorem factors_of_isBase {base : TypeTree} (isBase : base.IsBase) : base.factors = [base] := by
  cases base with
  | intersection first others => exact isBase.elim
  | _ => rfl

/-- Named types before a body, side by side, are the factors of their intersection. -/
theorem factors_bases {first : TypeTree} {others : List TypeTree}
    (named : ∀ base ∈ first :: others, base.IsBase) (body : List BodyItem) :
    (TypeTree.intersection first (others ++ [.object body])).factors =
      (first :: others) ++ [.object body] := by
  have side : ∀ bases : List TypeTree, (∀ base ∈ bases, base.IsBase) →
      allFactors (bases ++ [.object body]) = bases ++ [.object body] := by
    intro bases named
    induction bases with
    | nil => rfl
    | cons base bases induction =>
        obtain ⟨isBase, named⟩ := List.forall_mem_cons.mp named
        rw [List.cons_append, allFactors, factors_of_isBase isBase, induction named]
        rfl
  exact side (first :: others) named

theorem eq_intersection_of_factors {tree : TypeTree} (several : tree.factors.length ≠ 1) :
    ∃ first others, tree = .intersection first others := by
  cases tree with
  | intersection first others => exact ⟨first, others, rfl⟩
  | _ => exact absurd rfl several

theorem exists_lowerAll {trees : List TypeTree} (lower : ∀ tree ∈ trees, tree.lowers = true) :
    ∃ nodes, lowerAll trees = .ok nodes := by
  rw [← isOk_iff, isOk_lowerAll]
  induction trees with
  | nil => rfl
  | cons tree trees induction =>
      obtain ⟨first, others⟩ := List.forall_mem_cons.mp lower
      rw [allLower, first, induction others]
      rfl

theorem lowerAll_culprit {before after : List TypeTree} {culprit : TypeTree} {error : GenerateError}
    (lower : ∀ tree ∈ before, tree.lowers = true) (failed : culprit.lower = .error error) :
    lowerAll (before ++ culprit :: after) = .error error := by
  obtain ⟨nodes, lowered⟩ := exists_lowerAll lower
  rw [lowerAll_append, lowered, lowerAll, failed]
  rfl

/-- The one part that fails is the body, or it is one of the bases. -/
theorem lowerAll_of_culprit {bases before after : List TypeTree} {culprit : TypeTree}
    {body : List BodyItem} {error : GenerateError}
    (parts : bases ++ [.object body] = before ++ culprit :: after)
    (lower : ∀ part ∈ before ++ after, part.lowers = true)
    (failed : culprit.lower = .error error) :
    ((∃ nodes, lowerAll bases = .ok nodes) ∧ BodyItem.lowerAll none none body = .error error) ∨
      (lowerAll bases = .error error ∧ ∃ object, BodyItem.lowerAll none none body = .ok object) := by
  obtain ⟨fine, fineAfter⟩ := List.forall_mem_append.mp lower
  obtain rfl | ⟨inner, last, rfl⟩ := after.eq_nil_or_concat'
  · obtain ⟨rfl, same⟩ := List.append_inj' parts rfl
    cases same
    left
    refine ⟨exists_lowerAll fine, ?_⟩
    obtain bodyFailed | ⟨object, -, result⟩ := bind_eq_error_iff.mp failed
    · exact bodyFailed
    · cases result
  · rw [← List.cons_append, ← List.append_assoc] at parts
    obtain ⟨rfl, same⟩ := List.append_inj' parts rfl
    cases same
    right
    have fineBody := fineAfter (.object body) (List.mem_append_right inner List.mem_cons_self)
    exact ⟨lowerAll_culprit fine failed,
      isOk_iff.mp ((BodyItem.isOk_lowerAll none none body).trans fineBody)⟩

end TypeTree

namespace DeclarationTree

variable {bases : List TypeTree}

/-- The alias of an intersection takes its parts in order. -/
theorem lower_typeAlias_factors (name : String) {type : TypeTree} {body : List BodyItem}
    (nonempty : bases ≠ []) (meets : type.factors = bases ++ [.object body]) :
    (typeAlias name type).lower = do
      let nodes ← TypeTree.lowerAll bases
      let object ← BodyItem.lowerAll none none body
      return ⟨name, .intersection (nodes ++ [.object object])⟩ := by
  have several : type.factors.length ≠ 1 := by
    have filled := List.length_pos_of_ne_nil nonempty
    rw [meets, List.length_append, List.length_singleton]
    omega
  obtain ⟨first, others, rfl⟩ := TypeTree.eq_intersection_of_factors several
  rw [lower, TypeTree.lower_intersection, meets, TypeTree.lowerAll_append]
  cases TypeTree.lowerAll bases with
  | error error => rfl
  | ok nodes =>
      simp only [TypeTree.lowerAll, TypeTree.lower]
      cases BodyItem.lowerAll none none body <;> rfl

/-- An interface takes its body before its bases. -/
theorem lower_interface_bases (name : String) (nonempty : bases ≠ []) (body : List BodyItem) :
    (interface name bases body).lower = do
      let object ← BodyItem.lowerAll none none body
      let nodes ← TypeTree.lowerAll bases
      return ⟨name, .intersection (nodes ++ [.object object])⟩ := by
  rw [lower]
  cases BodyItem.lowerAll none none body with
  | error error => rfl
  | ok object =>
      cases lowered : TypeTree.lowerAll bases with
      | error error => rfl
      | ok nodes =>
          cases bases with
          | nil => exact absurd rfl nonempty
          | cons base bases =>
              obtain ⟨node, rest, -, -, rfl⟩ := cons_eq_ok_iff.mp lowered
              rfl

end DeclarationTree

end TypeScript

namespace SchemaModule

/-- The module of one schema, by the text of the schema. -/
def writeAlone (identifier : String) (schema : List Char) (options : ModuleOptions) : List Char :=
  options.header ++ (if options.header.isEmpty then [] else ['\n']) ++
    (if options.exported then "export ".toList else []) ++ "const ".toList ++
    identifier.toList ++ " = ".toList ++ schema ++ ";\n".toList

theorem write_single (binding : Binding) (options : ModuleOptions) :
    write [binding] options =
      writeAlone binding.identifier (binding.schema.write binding.library.toList 0) options := by
  simp only [write, writeBindings, Binding.write, writeAlone, List.append_assoc]
  rfl

theorem generate_alone {declaration : Declaration} {schema : Schema}
    (compiled : declaration.node.compile = .ok schema) (options : ModuleOptions) :
    generate [declaration] options = .ok {
      code := String.ofList (writeAlone (Name.schemaName declaration.name)
        (schema.write (Name.libraryName options.library).toList 0) options)
      identifiers := [Name.schemaName declaration.name]
      skipped := [] } := by
  simp only [generate, bindAll, Declaration.bind_ok options.binding compiled]
  exact congrArg (fun text => Except.ok (GeneratedModule.mk (String.ofList text) _ _))
    (write_single _ options)

end SchemaModule

namespace TypeScript.DeclarationTree

open Result

/-- An interface with bases and the alias of the intersection of these with its body become the same
declaration, if they become one; and if just one of the parts cannot be lowered, both fail for the
reason that this part gives. The schema of the declaration is that of the first base, met with those
of the other bases and at last with that of the body. -/
theorem lower_interface_intersection (name : String) {bases : List TypeTree}
    {body : List BodyItem} {type : TypeTree} (nonempty : bases ≠ [])
    (meets : type.factors = bases ++ [.object body]) :
    (∀ declaration, (interface name bases body).lower = .ok declaration ↔
      (typeAlias name type).lower = .ok declaration) ∧
    (∀ before culprit after error, bases ++ [.object body] = before ++ culprit :: after →
      (∀ part ∈ before ++ after, part.lowers = true) → culprit.lower = .error error →
      (interface name bases body).lower = .error error ∧
        (typeAlias name type).lower = .error error) ∧
    ∀ nodes object first others last, TypeTree.lowerAll bases = .ok nodes →
      BodyItem.lowerAll none none body = .ok object →
      TypeNode.compileAll nodes = .ok (first :: others) →
      (TypeNode.object object).compile = .ok last →
      ∃ declaration, (interface name bases body).lower = .ok declaration ∧
        (typeAlias name type).lower = .ok declaration ∧
        ∀ options : ModuleOptions,
          let library := (Name.libraryName options.library).toList
          SchemaModule.generate [declaration] options = .ok {
            code := String.ofList (SchemaModule.writeAlone (Name.schemaName name)
              (first.write library 0 ++ Schema.andCalls library 0 (others ++ [last])) options)
            identifiers := [Name.schemaName name]
            skipped := [] } := by
  have extending := lower_interface_bases name nonempty body
  have meeting := lower_typeAlias_factors name nonempty meets
  refine ⟨?_, ?_, ?_⟩
  · intro declaration
    rw [extending, meeting]
    cases TypeTree.lowerAll bases with
    | error error => cases BodyItem.lowerAll none none body <;> exact iff_of_false nofun nofun
    | ok nodes => cases BodyItem.lowerAll none none body <;> exact Iff.rfl
  · intro before culprit after error parts lower failed
    rw [extending, meeting]
    obtain ⟨⟨nodes, basesLowered⟩, bodyFailed⟩ | ⟨baseFailed, object, bodyLowered⟩ :=
      TypeTree.lowerAll_of_culprit parts lower failed
    · rw [basesLowered, bodyFailed]
      exact ⟨rfl, rfl⟩
    · rw [baseFailed, bodyLowered]
      exact ⟨rfl, rfl⟩
  · intro nodes object first others last basesLowered bodyLowered compiled compiledLast
    rw [extending, meeting, basesLowered, bodyLowered]
    refine ⟨_, rfl, rfl, ?_⟩
    intro options library
    have whole := TypeNode.compile_intersection_append compiled compiledLast
    rw [← Schema.write_foldl_and]
    exact SchemaModule.generate_alone whole options

/-- Three bases in an intersection that is nested to the left; and two bases, one of which has a
function for its argument. -/
theorem lower_interface_intersection_hero :
    let bases : List TypeTree :=
      [.name "Person", .qualifiedName "powers" "Flight", .generic "Partial" [.name "Cape"]]
    let body : List BodyItem := [.property (.plain "alias") false (some (.keyword "string"))]
    let type : TypeTree := .intersection (.intersection (.intersection (.name "Person")
      [.qualifiedName "powers" "Flight"]) [.generic "Partial" [.name "Cape"]]) [.object body]
    let failing : TypeTree := .generic "Partial" [.other "function type" "() => void"]
    let failed : TypeTree := .intersection (.name "Person") [failing, .object body]
    (bases ≠ [] ∧ type.factors = bases ++ [.object body] ∧ ∃ declaration generated,
      (interface "Hero" bases body).lower = .ok declaration ∧
        (typeAlias "Hero" type).lower = .ok declaration ∧
        SchemaModule.generate [declaration] { importHeader := false } = .ok generated ∧
        generated.code = "export const heroSchema = personSchema.and(powersFlightSchema)" ++
          ".and(capeSchema.partial()).and(z.object(\x7b\n    alias: z.string()\n\x7d));\n") ∧
      [TypeTree.name "Person", failing] ≠ [] ∧
      failed.factors = [.name "Person", failing] ++ [.object body] ∧
      (interface "Hero" [.name "Person", failing] body).lower =
        .error (.unsupported (.typeForm "function type" "() => void")) ∧
      (typeAlias "Hero" failed).lower =
        .error (.unsupported (.typeForm "function type" "() => void")) := by
  intro bases body type failing failed
  have nonempty : bases ≠ [] := List.cons_ne_nil _ _
  have meets : type.factors = bases ++ [.object body] := rfl
  obtain ⟨declaration, extending, meeting, generates⟩ :=
    (lower_interface_intersection "Hero" nonempty meets).2.2 _ _ _ _ _ rfl rfl rfl rfl
  have nonemptyFailing : [TypeTree.name "Person", failing] ≠ [] := List.cons_ne_nil _ _
  have named : ∀ base ∈ [TypeTree.name "Person", failing], base.IsBase :=
    List.forall_mem_cons.mpr ⟨trivial, List.forall_mem_singleton.mpr trivial⟩
  have meetsFailing : failed.factors = [.name "Person", failing] ++ [.object body] :=
    TypeTree.factors_bases named body
  have lower : ∀ part ∈ [TypeTree.name "Person"] ++ [.object body], part.lowers = true :=
    List.forall_mem_cons.mpr ⟨rfl, List.forall_mem_singleton.mpr rfl⟩
  have culprit := (lower_interface_intersection "Hero" nonemptyFailing meetsFailing).2.1
    [.name "Person"] failing [.object body] _ rfl lower rfl
  exact ⟨⟨nonempty, meets, declaration, _, extending, meeting,
    generates { importHeader := false }, by decide +kernel⟩, nonemptyFailing, meetsFailing, culprit⟩

end TypeScript.DeclarationTree

end TypeSchema
