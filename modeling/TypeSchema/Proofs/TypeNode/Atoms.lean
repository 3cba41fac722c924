import TypeSchema.Proofs.Schema.Grammar
import TypeSchema.Proofs.TypeNode.Check
import TypeSchema.Proofs.TypeNode.Construction

/-!
What a type says, part by part from left to right, and what its schema asks for. Compiling puts the
parts together in another way, but none is lost, doubled or moved: the main statement is that both
have the same atoms.
-/

namespace TypeSchema

/-- The smallest parts of a type or of a schema, members being given as `Entry`. -/
inductive Atom (Entry : Type) where
  | primitive (keyword : Primitive)
  | literal (value : Literal)
  | reference (identifier : String)
  /-- A member, whose own atoms follow. -/
  | member (entry : Entry)
  /-- A chained call. -/
  | call (call : Call)

namespace Atom

variable {Entry Other : Type}

def map (f : Entry → Other) : Atom Entry → Atom Other
  | primitive keyword => primitive keyword
  | literal value => literal value
  | reference identifier => reference identifier
  | member entry => member (f entry)
  | call chained => .call chained

def member? : Atom Entry → Option Entry
  | member entry => some entry
  | _ => none

/-- Two atoms are the same, members aside, which are related. -/
inductive Rel (related : Entry → Other → Prop) : Atom Entry → Atom Other → Prop
  | primitive (keyword : Primitive) : Rel related (.primitive keyword) (.primitive keyword)
  | literal (value : Literal) : Rel related (.literal value) (.literal value)
  | reference (identifier : String) : Rel related (.reference identifier) (.reference identifier)
  | member {entry : Entry} {other : Other} (pair : related entry other) :
      Rel related (.member entry) (.member other)
  | call (call : Call) : Rel related (.call call) (.call call)

end Atom

/-! The atoms of a schema: those of its base and of the arguments of the base, then those of its
chained calls. A call of `and` is no atom, but its argument has some. -/

mutual

def Schema.atoms : Schema → List (Atom ShapeEntry)
  | ⟨base, chain⟩ => base.atoms ++ Call.chainAtoms chain

def SchemaBase.atoms : SchemaBase → List (Atom ShapeEntry)
  | .call ⟨name, arguments⟩ =>
    ((Primitive.ofKeyword? name).map .primitive).toList ++ Argument.atomsAll arguments
  | .reference identifier => [.reference identifier]

def Call.chainAtoms : List Call → List (Atom ShapeEntry)
  | [] => []
  | ⟨name, arguments⟩ :: others =>
    (if name = "and" then [] else [.call ⟨name, arguments⟩]) ++ Argument.atomsAll arguments ++
      Call.chainAtoms others

def Argument.atomsAll : List Argument → List (Atom ShapeEntry)
  | [] => []
  | argument :: others => argument.atoms ++ Argument.atomsAll others

def Argument.atoms : Argument → List (Atom ShapeEntry)
  | .schema schema => schema.atoms
  | .schemas schemas => Schema.atomsAll schemas
  | .shape entries => ShapeEntry.atomsAll entries
  | .literal value => [.literal value]
  | .mask _ => []
  | .number _ => []
  | .pattern _ => []

def Schema.atomsAll : List Schema → List (Atom ShapeEntry)
  | [] => []
  | schema :: others => schema.atoms ++ Schema.atomsAll others

def ShapeEntry.atomsAll : List ShapeEntry → List (Atom ShapeEntry)
  | [] => []
  | ⟨key, comment, schema⟩ :: others =>
    .member ⟨key, comment, schema⟩ :: schema.atoms ++ ShapeEntry.atomsAll others

end

/-- The calls that a member adds to the schema of its type. -/
def Member.calls (member : Member) : List Call :=
  Directive.refinements member.directives ++ if member.optional then [.bare "optional"] else []

/-- The match against the pattern of a template. -/
def TemplateLiteral.calls (template : TemplateLiteral) : List Call :=
  match template.pattern with
  | .ok pattern => [⟨"regex", [.pattern pattern]⟩]
  | .error _ => []

namespace TypeNode

/-- The keys that a type selects: the string literals among its leaves. -/
def selectedKeys (keys : TypeNode) : List String :=
  keys.leaves.filterMap fun
    | .literal (.string key) => some key
    | _ => none

/-! The atoms of a type. The keys of a record and of an index signature have none. -/

mutual

def atoms : TypeNode → List (Atom Member)
  | .primitive keyword => [.primitive keyword]
  | .literal value => [.literal value]
  | .reference name => [.reference (Name.schemaName name)]
  | .array element => element.atoms
  | .tuple elements => atomsAll elements
  | .object ⟨members, none⟩ => memberAtoms members
  | .object ⟨members, some ⟨_, value⟩⟩ => value.atoms ++ memberAtoms members
  | .union parts => atomsAll parts
  | .intersection parts => atomsAll parts
  | .generic name arguments =>
    match name, arguments with
    | "Array", [element] => element.atoms
    | "Record", [_, value] => value.atoms
    | "Partial", [inner] => inner.atoms ++ [.call (.bare "partial")]
    | "Required", [inner] => inner.atoms ++ [.call (.bare "required")]
    | "Readonly", [inner] => inner.atoms
    | "Pick", [inner, keys] => inner.atoms ++ [.call ⟨"pick", [.mask keys.selectedKeys]⟩]
    | "Omit", [inner, keys] => inner.atoms ++ [.call ⟨"omit", [.mask keys.selectedKeys]⟩]
    | _, _ => []
  | .template text => .primitive .string :: text.calls.map .call
  | .parenthesized inner => inner.atoms

def atomsAll : List TypeNode → List (Atom Member)
  | [] => []
  | node :: others => node.atoms ++ atomsAll others

def memberAtoms : List Member → List (Atom Member)
  | [] => []
  | ⟨key, optional, type, comment, directives⟩ :: others =>
    let member : Member := ⟨key, optional, type, comment, directives⟩
    .member member :: type.atoms ++ member.calls.map .call ++ memberAtoms others

end

end TypeNode

/-! The atoms of a schema that is put together from others. -/

/-- A chained call that is an atom and has none in its arguments. -/
structure Call.IsAtom (call : Call) : Prop where
  name : call.name ≠ "and"
  arguments : Argument.atomsAll call.arguments = []

theorem Call.Refines.isAtom {call : Call} (refines : call.Refines) : call.IsAtom := by
  have name : call.name ≠ "and" := refines.name_ne (by decide)
  cases refines <;> exact ⟨name, rfl⟩

theorem Member.calls_isAtom (member : Member) : ∀ call ∈ member.calls, call.IsAtom := by
  intro call listed
  rcases List.mem_append.mp listed with refines | optional
  · exact (Directive.refinements_refine member.directives call refines).isAtom
  · split at optional
    · obtain rfl := List.mem_singleton.mp optional
      exact ⟨by decide, rfl⟩
    · cases optional

theorem Member.entry_schema (member : Member) (schema : Schema) :
    (member.entry schema).schema = schema.chainedAll member.calls := by
  simp only [Member.entry, Member.calls, Schema.chainedAll]
  split <;> simp [Schema.optional, Schema.chained]

namespace Schema

theorem chainAtoms_append (first second : List Call) :
    Call.chainAtoms (first ++ second) = Call.chainAtoms first ++ Call.chainAtoms second := by
  induction first with
  | nil => rfl
  | cons call first induction =>
      cases call
      simp [Call.chainAtoms, induction]

theorem chainAtoms_calls {calls : List Call} (atoms : ∀ call ∈ calls, call.IsAtom) :
    Call.chainAtoms calls = calls.map .call := by
  induction calls with
  | nil => rfl
  | cons call calls induction =>
      obtain ⟨head, tail⟩ := List.forall_mem_cons.mp atoms
      obtain ⟨name, arguments⟩ := call
      have named : name ≠ "and" := head.name
      have none : Argument.atomsAll arguments = [] := head.arguments
      simp [Call.chainAtoms, named, none, induction tail]

theorem atoms_chainedAll (schema : Schema) {calls : List Call}
    (atoms : ∀ call ∈ calls, call.IsAtom) :
    (schema.chainedAll calls).atoms = schema.atoms ++ calls.map .call := by
  obtain ⟨base, chain⟩ := schema
  simp only [chainedAll, Schema.atoms, chainAtoms_append, chainAtoms_calls atoms, List.append_assoc]

theorem atoms_chained (schema : Schema) {call : Call} (atom : call.IsAtom) :
    (schema.chained call).atoms = schema.atoms ++ [.call call] :=
  schema.atoms_chainedAll (List.forall_mem_singleton.mpr atom)

theorem atoms_and (schema other : Schema) : (schema.and other).atoms = schema.atoms ++ other.atoms := by
  obtain ⟨base, chain⟩ := schema
  simp [Schema.and, chained, Schema.atoms, chainAtoms_append, Call.chainAtoms, Argument.atomsAll,
    Argument.atoms]

theorem atoms_foldl_and (schema : Schema) (others : List Schema) :
    (others.foldl .and schema).atoms = schema.atoms ++ atomsAll others := by
  induction others generalizing schema with
  | nil => simp [atomsAll]
  | cons other others induction =>
      rw [List.foldl_cons, induction, atoms_and, atomsAll, List.append_assoc]

theorem atoms_ofCall {name : String} (other : Primitive.ofKeyword? name = none)
    (argument : Argument) : (ofCall name [argument]).atoms = argument.atoms := by
  simp [ofCall, Schema.atoms, SchemaBase.atoms, other, Argument.atomsAll, Call.chainAtoms]

theorem atoms_keyword (keyword : Primitive) : (bare keyword.keyword).atoms = [.primitive keyword] := by
  cases keyword <;> rfl

end Schema

namespace TypeNode

open Result

theorem selectedKeys_all {utility : Utility} {parts : List TypeNode} {mask : List String}
    (each : ∀ part ∈ parts, ∀ mask, part.maskKeys utility true = .ok mask →
      mask = part.selectedKeys)
    (selected : maskKeysAll utility parts = .ok mask) : mask = (TypeNode.union parts).selectedKeys := by
  induction parts generalizing mask with
  | nil =>
      cases selected
      rfl
  | cons part parts induction =>
      obtain ⟨head, tail⟩ := List.forall_mem_cons.mp each
      obtain ⟨keys, first, rest⟩ := bind_eq_ok_iff.mp selected
      obtain ⟨others, more, result⟩ := bind_eq_ok_iff.mp rest
      cases result
      have whole : (TypeNode.union (part :: parts)).selectedKeys =
          part.selectedKeys ++ (TypeNode.union parts).selectedKeys := by
        simp only [selectedKeys, leaves, leavesAll, List.filterMap_append]
      rw [whole, ← head keys first, ← induction tail more]

theorem selectedKeys_of_maskKeys {utility : Utility} {inUnion : Bool} {keys : TypeNode}
    {mask : List String} (selected : keys.maskKeys utility inUnion = .ok mask) :
    mask = keys.selectedKeys := by
  induction keys generalizing inUnion mask with
  | parenthesized inner induction =>
      rw [selectedKeys, leaves]
      exact induction selected
  | union parts induction =>
      exact selectedKeys_all (fun part listed _ => induction part listed) selected
  | literal value =>
      cases value with
      | string key =>
          cases selected
          rfl
      | _ => cases selected
  | _ => cases selected

/-- A member and the entry that it becomes. -/
def Makes (member : Member) (entry : ShapeEntry) : Prop :=
  BuildsEntry (fun type schema => type.compile = .ok schema) member entry

/-- A type and a schema with the same atoms, from left to right. -/
def SameAtoms (node : TypeNode) (schema : Schema) : Prop :=
  List.Forall₂ (Atom.Rel Makes) node.atoms schema.atoms

theorem sameCalls (calls : List Call) :
    List.Forall₂ (Atom.Rel Makes) (calls.map .call) (calls.map .call) := by
  rw [List.forall₂_map_left_iff, List.forall₂_map_right_iff, List.forall₂_same]
  exact fun call _ => .call call

theorem sameAtoms_all {nodes : List TypeNode} {schemas : List Schema}
    (pairs : List.Forall₂ SameAtoms nodes schemas) :
    List.Forall₂ (Atom.Rel Makes) (atomsAll nodes) (Schema.atomsAll schemas) := by
  induction pairs with
  | nil => exact .nil
  | cons pair _ induction => exact List.rel_append pair induction

theorem sameAtoms_members {members : List Member} {entries : List ShapeEntry}
    (pairs : List.Forall₂
      (BuildsEntry fun type schema => type.compile = .ok schema ∧ SameAtoms type schema)
      members entries) :
    List.Forall₂ (Atom.Rel Makes) (memberAtoms members) (ShapeEntry.atomsAll entries) := by
  induction pairs with
  | nil => exact .nil
  | @cons member entry members entries pair _ induction =>
      obtain ⟨schema, ⟨compiled, same⟩, made⟩ := pair
      have makes : Makes member entry := ⟨schema, compiled, made⟩
      have calls : entry.schema.atoms = schema.atoms ++ member.calls.map .call := by
        rw [made, Member.entry_schema, Schema.atoms_chainedAll schema member.calls_isAtom]
      have member_cons : memberAtoms (member :: members) =
          .member member :: ((member.type.atoms ++ member.calls.map .call) ++ memberAtoms members) := by
        cases member
        rfl
      have entry_cons : ShapeEntry.atomsAll (entry :: entries) =
          .member entry :: (entry.schema.atoms ++ ShapeEntry.atomsAll entries) := by
        cases entry
        rfl
      rw [member_cons, entry_cons, calls]
      exact .cons (.member makes)
        (List.rel_append (List.rel_append same (sameCalls member.calls)) induction)

theorem sameAtoms_chained {type node : TypeNode} {schema : Schema} {call : Call}
    (same : SameAtoms type schema) (atom : call.IsAtom)
    (atoms : node.atoms = type.atoms ++ [.call call]) : SameAtoms node (schema.chained call) := by
  rw [SameAtoms, atoms, Schema.atoms_chained schema atom]
  exact List.rel_append same (sameCalls [call])

theorem sameAtoms_recordOf {node value : TypeNode} {schema : Schema} (same : SameAtoms value schema)
    (atoms : node.atoms = value.atoms) : SameAtoms node (.recordOf schema) := by
  rw [SameAtoms, atoms, Schema.recordOf, Schema.atoms_ofCall rfl]
  exact same

theorem sameAtoms_arrayOf {node element : TypeNode} {schema : Schema}
    (same : SameAtoms element schema) (atoms : node.atoms = element.atoms) :
    SameAtoms node (.arrayOf schema) := by
  rw [SameAtoms, atoms, Schema.arrayOf, Schema.atoms_ofCall rfl]
  exact same

theorem sameAtoms_of_compile {node : TypeNode} {schema : Schema}
    (compiled : node.compile = .ok schema) : SameAtoms node schema := by
  refine compile_induct (motive := SameAtoms) ?_ compiled
  intro node schema built
  have same : ∀ (inside : TypeNode) (schema : Schema),
      (inside.PartOf node ∧ inside.compile = .ok schema ∧ SameAtoms inside schema) →
      SameAtoms inside schema := fun _ _ part => part.2.2
  have shape : ∀ {members entries}, List.Forall₂ (BuildsEntry fun inside schema =>
        inside.PartOf node ∧ inside.compile = .ok schema ∧ SameAtoms inside schema) members entries →
      List.Forall₂ (Atom.Rel Makes) (memberAtoms members) (ShapeEntry.atomsAll entries) := by
    intro members entries pairs
    exact sameAtoms_members (pairs.imp fun _ _ ⟨schema, part, made⟩ => ⟨schema, part.2, made⟩)
  cases built with
  | primitive keyword =>
      rw [SameAtoms, Schema.atoms_keyword]
      exact .cons (.primitive keyword) .nil
  | literal value =>
      rw [SameAtoms, Schema.atoms_ofCall rfl]
      exact .cons (.literal value) .nil
  | reference name => exact .cons (.reference _) .nil
  | array built => exact sameAtoms_arrayOf built.2.2 rfl
  | tuple built =>
      rw [SameAtoms, Schema.atoms_ofCall rfl]
      exact sameAtoms_all (built.imp same)
  | object pairs =>
      rw [SameAtoms, Schema.objectOf, Schema.atoms_ofCall rfl]
      exact shape pairs
  | @index signature schema built =>
      obtain ⟨key, value⟩ := signature
      exact sameAtoms_recordOf built.2.2 (List.append_nil _)
  | @indexAndMembers signature member others schema entries built pairs =>
      obtain ⟨key, value⟩ := signature
      rw [SameAtoms, Schema.atoms_and, Schema.recordOf, Schema.atoms_ofCall rfl, Schema.objectOf,
        Schema.atoms_ofCall rfl]
      exact List.rel_append built.2.2 (shape pairs)
  | @onlyPart node schema built =>
      have atoms : (TypeNode.union [node]).atoms = node.atoms := List.append_nil _
      rw [SameAtoms, atoms]
      exact built.2.2
  | union built =>
      rw [SameAtoms, Schema.atoms_ofCall rfl]
      exact sameAtoms_all (built.imp same)
  | intersection built more =>
      rw [SameAtoms, Schema.atoms_foldl_and]
      exact List.rel_append built.2.2 (sameAtoms_all (more.imp same))
  | arrayOf built => exact sameAtoms_arrayOf built.2.2 rfl
  | record built => exact sameAtoms_recordOf built.2.2 rfl
  | allOptional built => exact sameAtoms_chained built.2.2 ⟨by decide, rfl⟩ rfl
  | allRequired built => exact sameAtoms_chained built.2.2 ⟨by decide, rfl⟩ rfl
  | allReadonly built => exact built.2.2
  | pickKeys built selected =>
      rw [selectedKeys_of_maskKeys selected]
      exact sameAtoms_chained built.2.2 ⟨(by decide : "pick" ≠ "and"), rfl⟩ rfl
  | omitKeys built selected =>
      rw [selectedKeys_of_maskKeys selected]
      exact sameAtoms_chained built.2.2 ⟨(by decide : "omit" ≠ "and"), rfl⟩ rfl
  | @template text pattern made =>
      have calls : text.calls = [⟨"regex", [.pattern pattern]⟩] := by
        rw [TemplateLiteral.calls, made]
      have string : (Schema.bare "string").atoms = [.primitive .string] := Schema.atoms_keyword .string
      rw [SameAtoms, atoms, calls, Schema.atoms_chained _ ⟨(by decide : "regex" ≠ "and"), rfl⟩,
        string]
      exact .cons (.primitive .string) (sameCalls _)
  | parenthesized built => exact built.2.2

end TypeNode

/-! What is left of the atoms when a member is known by its key and its comment. -/

def Schema.outline (schema : Schema) : List (Atom (String × Option String)) :=
  schema.atoms.map (Atom.map fun entry => (entry.key, entry.comment))

def TypeNode.outline (node : TypeNode) : List (Atom (String × Option String)) :=
  node.atoms.map (Atom.map fun member => (member.key, member.comment))

theorem Atom.Rel.map_eq {Entry Other Label : Type} {related : Entry → Other → Prop}
    {f : Entry → Label} {g : Other → Label} (agree : ∀ entry other, related entry other →
      f entry = g other) {atom : Atom Entry} {other : Atom Other} (pair : Atom.Rel related atom other) :
    atom.map f = other.map g := by
  cases pair with
  | member pair => exact congrArg Atom.member (agree _ _ pair)
  | _ => rfl

theorem TypeNode.Makes.label_eq {member : Member} {entry : ShapeEntry}
    (makes : TypeNode.Makes member entry) :
    (member.key, member.comment) = (entry.key, entry.comment) := by
  obtain ⟨schema, -, rfl⟩ := makes
  rfl

/-- Compiling keeps the outline: it loses, repeats and moves nothing. -/
theorem TypeNode.outline_of_compile {node : TypeNode} {schema : Schema}
    (compiled : node.compile = .ok schema) : schema.outline = node.outline := by
  have same : List.Forall₂ (Atom.Rel Makes) node.atoms schema.atoms :=
    sameAtoms_of_compile compiled
  rw [TypeNode.outline, Schema.outline, eq_comm, ← List.forall₂_eq_eq_eq,
    List.forall₂_map_left_iff, List.forall₂_map_right_iff]
  exact same.imp fun _ _ pair => pair.map_eq fun _ _ makes => makes.label_eq

theorem TypeNode.outline_of_picked_intersection :
    let version : Member :=
      ⟨"version", true, .template ⟨"v", [⟨.primitive .number, ""⟩]⟩, some "/** @minLength 2 */",
        [⟨"minLength", "2"⟩]⟩
    let keys : TypeNode := .union [.literal (.string "a"), .literal (.string "b")]
    let node : TypeNode :=
      .intersection [.generic "Pick" [.reference "Hero", keys],
        .object ⟨[version], some ⟨.primitive .string, .primitive .boolean⟩⟩]
    ∃ schema, node.compile = .ok schema ∧ schema.outline = node.outline ∧
      node.outline =
        [.reference "heroSchema", .call ⟨"pick", [.mask ["a", "b"]]⟩, .primitive .boolean,
          .member ("version", some "/** @minLength 2 */"), .primitive .string,
          .call ⟨"regex", [.pattern ⟨"^v\\d+$"⟩]⟩, .call ⟨"min", [.number "2"]⟩,
          .call (.bare "optional")] := by
  intro version keys node
  have compiled : ∃ schema, node.compile = .ok schema := ⟨_, rfl⟩
  obtain ⟨schema, compiled⟩ := compiled
  exact ⟨schema, compiled, outline_of_compile compiled, rfl⟩

end TypeSchema
