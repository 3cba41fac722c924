import TypeSchema.Proofs.Schema.Lines
import TypeSchema.Proofs.SchemaModule.Header
import TypeSchema.Proofs.SchemaModule.Strict

/-!
The text of a module. It is the header and a block for each binding, with empty lines between; no
block has an empty line in it, so that the text shows each of them again, and a block says nothing
of the other declarations.
-/

namespace TypeSchema

open Text

namespace Text

/-- Pieces, each ended, with an empty line between. -/
def apart (pieces : List (List Char)) : List Char :=
  ['\n'].intercalate (pieces.map (· ++ ['\n']))

theorem apart_singleton (piece : List Char) : apart [piece] = piece ++ ['\n'] := by
  rw [apart, List.map_singleton, List.intercalate_singleton]

theorem apart_cons_cons (piece next : List Char) (more : List (List Char)) :
    apart (piece :: next :: more) = piece ++ '\n' :: '\n' :: apart (next :: more) := by
  simp only [apart, List.map_cons, List.intercalate_cons_cons, List.append_assoc, List.cons_append,
    List.nil_append]

theorem apart_eq (piece : List Char) (others : List (List Char)) :
    apart (piece :: others) = ['\n', '\n'].intercalate (piece :: others) ++ ['\n'] := by
  induction others generalizing piece with
  | nil => rw [apart_singleton, List.intercalate_singleton]
  | cons next more induction =>
      rw [apart_cons_cons, induction, List.intercalate_cons_cons]
      simp only [List.append_assoc, List.cons_append, List.nil_append]

end Text

namespace Binding

/-- The binding of the first declaration of a TypeScript source. -/
def ofTypeScript (source : String) (options : BindingOptions) : Except GenerateError Binding := do
  (← Declaration.readFirstTypeScript source).bind options

theorem write_paragraph {binding : Binding} (exported : Bool)
    (named : IsWord binding.identifier.toList)
    (inline : Inline (binding.schema.write binding.library.toList 0)) :
    Paragraph (binding.write exported) := by
  have start : Paragraph ((if exported then "export ".toList else []) ++ "const ".toList) := by
    cases exported <;> rfl
  have equals : Inline " = ".toList := inline_of_oneLine (by decide)
  have ended : Inline [';'] := inline_nil.cons (by decide)
  have name := start.append (inline_of_oneLine named.oneLine)
  exact ((name.append equals).append inline).append ended

end Binding

theorem ImportsLibrary.paragraph {line : List Char} {name : String} (imports : ImportsLibrary line name)
    (oneLine : '\n' ∉ name.toList) : Paragraph line := by
  cases imports with
  | own => rfl
  | renamed =>
      have start : Paragraph "import \x7b z as ".toList := by rfl
      have ending : Inline " \x7d from \"zod\";".toList := by rfl
      exact (start.append (inline_of_oneLine oneLine)).append ending

namespace ModuleOptions

/-- The header of a module, if it has one, without the end of its last line. -/
def headerPieces (options : ModuleOptions) : List (List Char) :=
  if options.importHeader then [options.header.dropLast] else []

variable {options : ModuleOptions}

theorem library_oneLine (library : ∀ name ∈ options.library, '\n' ∉ name.toList) :
    '\n' ∉ (Name.libraryName options.library).toList := by
  cases given : options.library with
  | none => decide
  | some name => exact library name given

theorem header_paragraph (library : ∀ name ∈ options.library, '\n' ∉ name.toList)
    (headed : options.importHeader = true) :
    ∃ text, options.header = text ++ ['\n'] ∧ Paragraph text := by
  obtain ⟨line, written, imports⟩ := options.importLine_imports
  have banner : WholeLines "// Generated by normalize-zodgen\n".toList := by rfl
  refine ⟨_, ?_, banner.paragraph (imports.paragraph (library_oneLine library))⟩
  rw [header_eq written, ModuleOptions.headed, if_pos headed]

theorem headerPieces_paragraph (library : ∀ name ∈ options.library, '\n' ∉ name.toList) :
    ∀ piece ∈ options.headerPieces, Paragraph piece := by
  unfold headerPieces
  split
  next headed =>
    obtain ⟨text, header, paragraph⟩ := header_paragraph library headed
    rw [header, List.dropLast_concat]
    exact List.forall_mem_singleton.mpr paragraph
  next => exact fun piece listed => absurd listed List.not_mem_nil

end ModuleOptions

namespace SchemaModule

variable {options : ModuleOptions} {declarations : List Declaration}

theorem writeBindings_apart (exported : Bool) (piece : List Char) (bindings : List Binding) :
    piece ++ '\n' :: writeBindings exported false bindings =
      apart (piece :: bindings.map (·.write exported)) := by
  induction bindings generalizing piece with
  | nil => rw [List.map_nil, apart_singleton, writeBindings]
  | cons binding bindings induction =>
      rw [List.map_cons, apart_cons_cons, ← induction]
      rfl

theorem write_apart (library : ∀ name ∈ options.library, '\n' ∉ name.toList)
    (bindings : List Binding) :
    write bindings options =
      apart (options.headerPieces ++ bindings.map (·.write options.exported)) := by
  cases headed : options.importHeader with
  | true =>
      obtain ⟨text, header, -⟩ := ModuleOptions.header_paragraph library headed
      rw [write, ModuleOptions.header_isEmpty, headed, ModuleOptions.headerPieces, if_pos headed,
        header, List.dropLast_concat, List.singleton_append, ← writeBindings_apart,
        List.append_assoc]
      rfl
  | false =>
      have header : options.header = [] := if_neg (by rw [headed]; exact Bool.false_ne_true)
      rw [write, ModuleOptions.headerPieces, if_neg (by rw [headed]; exact Bool.false_ne_true),
        header]
      cases bindings with
      | nil => rfl
      | cons binding bindings =>
          rw [List.nil_append, List.nil_append, List.map_cons, ← writeBindings_apart]
          rfl

/-- A text is made of pieces without empty lines, each ended, with one empty line between, and shows
them again when it is cut at its empty lines. -/
structure MadeOf (code : List Char) (pieces : List (List Char)) : Prop where
  joined : code = ['\n'].intercalate (pieces.map (· ++ ['\n']))
  filled : ∀ piece ∈ pieces, [] ∉ piece.splitOn '\n'
  split : pieces ≠ [] → splitAtEmptyLines code.dropLast = pieces

theorem madeOf_apart {pieces : List (List Char)} (each : ∀ piece ∈ pieces, Paragraph piece) :
    MadeOf (apart pieces) pieces where
  joined := rfl
  filled piece listed := (each piece listed).no_empty_line
  split nonempty := by
    cases pieces with
    | nil => exact absurd rfl nonempty
    | cons piece others =>
        rw [apart_eq, List.dropLast_concat, splitAtEmptyLines_intercalate each nonempty]

theorem bind_paragraph (library : ∀ name ∈ options.library, '\n' ∉ name.toList)
    {declaration : Declaration}
    (numbers : ∀ text, (TypeNode.literal (.number text)).Inside declaration.node →
      '\n' ∉ text.toList)
    {binding : Binding} (bound : declaration.bind options.binding = .ok binding) :
    Paragraph (binding.write options.exported) := by
  obtain ⟨schema, compiled, made⟩ := Result.bind_eq_ok_iff.mp bound
  cases made
  have covers : Vocabulary.onOneLine.Covers declaration.node :=
    { literals := fun value inside => by
        cases value with
        | string text => trivial
        | number text => exact numbers text inside
        | boolean value => trivial
      comments := fun _ _ _ _ _ => trivial }
  exact Binding.write_paragraph _ (Name.schemaName_isWord declaration.name)
    ((TypeNode.formed_of_compile covers compiled).inline (ModuleOptions.library_oneLine library) 0)

/-- With the option to skip, a list of declarations has a module whose text is the header and the
blocks of the declarations that have a schema, each as it is written for that declaration alone, and
the text shows them again. The first block is the one of a source's first declaration. -/
theorem generate_paragraphs (skip : options.skipUnsupported = true)
    (library : ∀ name ∈ options.library, '\n' ∉ name.toList)
    (numbers : ∀ declaration ∈ declarations, ∀ text,
      (TypeNode.literal (.number text)).Inside declaration.node → '\n' ∉ text.toList) :
    (declarations ≠ [] → ∃ generated, generate declarations options = .ok generated) ∧
    ∀ generated, generate declarations options = .ok generated →
      ∃ bindings, bindings = declarations.filterMap (·.binding? options.binding) ∧
        generated.identifiers = bindings.map (·.identifier) ∧
        MadeOf generated.code.toList
          (options.headerPieces ++ bindings.map (·.write options.exported)) ∧
        ∀ source first others binding, declarations = first :: others →
          Declaration.readTypeScript source = .ok declarations →
          first.bind options.binding = .ok binding →
          Binding.ofTypeScript source options.binding = .ok binding ∧
            bindings.head? = some binding := by
  refine ⟨fun nonempty => ⟨_, generate_skipping skip nonempty⟩, fun generated made => ?_⟩
  have nonempty : declarations ≠ [] := by
    rintro rfl
    cases made
  rw [generate_skipping skip nonempty] at made
  cases made
  refine ⟨_, rfl, rfl, ?_, ?_⟩
  · rw [render, String.toList_ofList, write_apart library]
    refine madeOf_apart (List.forall_mem_append.mpr ⟨?_, ?_⟩)
    · exact ModuleOptions.headerPieces_paragraph library
    · intro block listed
      obtain ⟨binding, bindingListed, rfl⟩ := List.mem_map.mp listed
      obtain ⟨declaration, declared, bound⟩ := List.mem_filterMap.mp bindingListed
      exact bind_paragraph library (numbers declaration declared)
        (Declaration.binding_eq_some_iff.mp bound)
  · rintro source first others binding rfl read bound
    refine ⟨?_, ?_⟩
    · rw [Binding.ofTypeScript, Declaration.readFirstTypeScript, read]
      exact bound
    · rw [List.filterMap_cons, Declaration.binding_eq_some_iff.mpr bound, List.head?_cons]

/-- A declaration without a schema after one whose comment has an empty line. -/
theorem generate_paragraphs_commented :
    let age : Member := ⟨"age", false, .literal (.number "42"), some "/**\n\n * Years.\n */", []⟩
    let declarations : List Declaration :=
      [⟨"Hero", .object ⟨[age], none⟩⟩, ⟨"Power", .union []⟩]
    let options : ModuleOptions := { library := some "zod" }
    options.skipUnsupported = true ∧ (∀ name ∈ options.library, '\n' ∉ name.toList) ∧
      (∀ declaration ∈ declarations, ∀ text,
        (TypeNode.literal (.number text)).Inside declaration.node → '\n' ∉ text.toList) ∧
      ∃ generated, generate declarations options = .ok generated ∧
        splitAtEmptyLines generated.code.toList.dropLast =
          ["// Generated by normalize-zodgen\nimport \x7b z as zod \x7d from \"zod\";".toList,
            ("export const heroSchema = zod.object(\x7b\n    /**\n    \n     * Years.\n     */\n" ++
              "    age: zod.literal(42)\n\x7d);").toList] := by
  intro age declarations options
  have library : ∀ name ∈ options.library, '\n' ∉ name.toList := by
    rintro name ⟨⟩
    decide
  have numbers : ∀ declaration ∈ declarations, ∀ text,
      (TypeNode.literal (.number text)).Inside declaration.node → '\n' ∉ text.toList := by
    refine List.forall_mem_cons.mpr ⟨fun text inside => ?_,
      List.forall_mem_singleton.mpr fun text inside => ?_⟩
    · rcases Relation.ReflTransGen.cases_tail inside with same | ⟨part, within, direct⟩
      · cases same
      · cases direct with
        | memberType listed =>
            obtain rfl := List.mem_singleton.mp listed
            rcases Relation.ReflTransGen.cases_tail within with same | ⟨_, _, direct⟩
            · cases same
              decide
            · cases direct
        | indexKey given => cases given
        | indexValue given => cases given
    · rcases Relation.ReflTransGen.cases_tail inside with same | ⟨part, within, direct⟩
      · cases same
      · cases direct with
        | unionPart listed => exact absurd listed List.not_mem_nil
  have skip : options.skipUnsupported = true := rfl
  obtain ⟨made, told⟩ := generate_paragraphs skip library numbers
  obtain ⟨generated, made⟩ := made (List.cons_ne_nil _ _)
  obtain ⟨bindings, rfl, -, text, -⟩ := told generated made
  refine ⟨skip, library, numbers, generated, made, ?_⟩
  rw [text.split (List.cons_ne_nil _ _)]
  decide +kernel

end SchemaModule

end TypeSchema
