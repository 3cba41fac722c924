import TypeSchema.Proofs.Schema.Reading
import TypeSchema.Proofs.TypeNode.Grammar

/-!
Source text is unambiguous. Two schemas of types, both without comments, that are written the same
way are the same schema up to the way in which the delimiters in their patterns are escaped.
-/

namespace TypeSchema

open Text

mutual

/-- A schema with each of its patterns as it stands between slashes. -/
def Schema.settled : Schema → Schema
  | ⟨base, chain⟩ => ⟨base.settled, Call.settledAll chain⟩

def SchemaBase.settled : SchemaBase → SchemaBase
  | .call call => .call call.settled
  | .reference identifier => .reference identifier

def Call.settledAll : List Call → List Call
  | [] => []
  | call :: others => call.settled :: Call.settledAll others

def Call.settled : Call → Call
  | ⟨name, arguments⟩ => ⟨name, Argument.settledAll arguments⟩

def Argument.settledAll : List Argument → List Argument
  | [] => []
  | argument :: others => argument.settled :: Argument.settledAll others

def Argument.settled : Argument → Argument
  | .schema schema => .schema schema.settled
  | .schemas schemas => .schemas (Schema.settledAll schemas)
  | .shape entries => .shape (ShapeEntry.settledAll entries)
  | .mask keys => .mask keys
  | .literal literal => .literal literal
  | .number text => .number text
  | .pattern pattern => .pattern pattern.settled

def Schema.settledAll : List Schema → List Schema
  | [] => []
  | schema :: others => schema.settled :: Schema.settledAll others

def ShapeEntry.settledAll : List ShapeEntry → List ShapeEntry
  | [] => []
  | entry :: others => entry.settled :: ShapeEntry.settledAll others

def ShapeEntry.settled : ShapeEntry → ShapeEntry
  | ⟨key, comment, schema⟩ => ⟨key, comment, schema.settled⟩

end

theorem Schema.settledAll_eq (schemas : List Schema) :
    Schema.settledAll schemas = schemas.map Schema.settled := by
  induction schemas with
  | nil => rfl
  | cons schema others induction => rw [settledAll, induction, List.map_cons]

theorem ShapeEntry.settledAll_eq (entries : List ShapeEntry) :
    ShapeEntry.settledAll entries = entries.map ShapeEntry.settled := by
  induction entries with
  | nil => rfl
  | cons entry others induction => rw [settledAll, induction, List.map_cons]

/-- No comments, and numbers that are tokens of source code. -/
def Vocabulary.readable : Vocabulary where
  literal := Literal.Readable
  comment := (· = none)

section

variable {library : List Char} {level : Nat}

theorem Schema.writeAll_eq (schemas : List Schema) :
    writeAll library level schemas = commaSeparated ' ' (write library level) schemas := by
  induction schemas with
  | nil => rfl
  | cons schema others induction =>
      cases others with
      | nil => rfl
      | cons next more =>
          rw [writeAll, commaSeparated, induction]
          · exact List.cons_ne_nil next more
          · exact List.cons_ne_nil next more

theorem ShapeEntry.writeAll_eq (entry : ShapeEntry) (others : List ShapeEntry) :
    writeAll library level (entry :: others) =
      commaSeparated '\n' (write library level) (entry :: others) ++ ['\n'] := by
  induction others generalizing entry with
  | nil => rfl
  | cons next more induction =>
      rw [writeAll, commaSeparated, induction, List.append_assoc]
      · rfl
      · exact List.cons_ne_nil next more
      · exact List.cons_ne_nil next more

end

section

variable (library : List Char)

/-- A schema shows what it is, and where it ends. -/
def Schema.Cancels (schema : Schema) : Prop :=
  ∀ (level : Nat) (other : Schema) (rest others : List Char), other.Formed .readable →
    Closes rest → Closes others →
    schema.write library level ++ rest = other.write library level ++ others →
    schema.settled = other.settled ∧ rest = others

/-- A call of a table shows what it is, and where it ends. -/
def Call.Cancels (table : List (String × ArgumentForm)) (call : Call) : Prop :=
  ∀ (level : Nat) (other : Call) (rest others : List Char), other.Formed .readable table →
    call.write library level ++ rest = other.write library level ++ others →
    call.settled = other.settled ∧ rest = others

/-- Arguments of a form show what they are, up to the parenthesis that closes them. -/
def Argument.Cancel (form : ArgumentForm) (arguments : List Argument) : Prop :=
  ∀ (level : Nat) (otherArguments : List Argument) (rest others : List Char),
    Argument.Fit .readable form otherArguments →
    Call.writeArguments library level arguments ++ ')' :: rest =
      Call.writeArguments library level otherArguments ++ ')' :: others →
    Argument.settledAll arguments = Argument.settledAll otherArguments ∧ rest = others

end

variable {library : List Char}

namespace SchemaLibrary

theorem constructors_words : ∀ entry ∈ constructors, IsWord entry.1.toList := by decide

theorem methods_words : ∀ entry ∈ methods, IsWord entry.1.toList := by decide

end SchemaLibrary

namespace Call

variable {table : List (String × ArgumentForm)} {name : String} {form : ArgumentForm}

theorem isWord_of_lookup (words : ∀ entry ∈ table, IsWord entry.1.toList)
    (known : table.lookup name = some form) : IsWord name.toList := by
  obtain ⟨before, after, split, -⟩ := List.lookup_eq_some_iff.mp known
  exact words (name, form) (by rw [split]; simp)

theorem name_cancel {otherName : String} {rest others : List Char} (word : IsWord name.toList)
    (otherWord : IsWord otherName.toList)
    (same : name.toList ++ '(' :: rest = otherName.toList ++ '(' :: others) :
    name = otherName ∧ rest = others := by
  obtain ⟨texts, tails⟩ := word.cancel otherWord (delimiter_heads rfl _) (delimiter_heads rfl _)
    same
  exact ⟨String.toList_inj.mp texts, (List.cons.inj tails).2⟩

theorem write_append (level : Nat) (arguments : List Argument) (rest : List Char) :
    Call.write library level ⟨name, arguments⟩ ++ rest =
      name.toList ++ '(' :: (writeArguments library level arguments ++ ')' :: rest) := by
  simp only [write, List.cons_append, List.append_assoc, List.nil_append]

theorem cancels_of_arguments (words : ∀ entry ∈ table, IsWord entry.1.toList)
    {arguments : List Argument} (known : table.lookup name = some form)
    (inside : Argument.Cancel library form arguments) :
    Call.Cancels library table ⟨name, arguments⟩ := by
  intro level other rest others formed same
  obtain ⟨otherKnown, fit⟩ := formed
  rw [write_append, write_append] at same
  obtain ⟨rfl, tails⟩ := name_cancel (isWord_of_lookup words known)
    (isWord_of_lookup words otherKnown) same
  obtain rfl := Option.some.inj (known.symm.trans otherKnown)
  obtain ⟨settled, rests⟩ := inside level _ rest others fit tails
  exact ⟨by rw [Call.settled, Call.settled, settled], rests⟩

end Call

namespace Schema

theorem chain_heads {level : Nat} {rest : List Char} (chain : List Call) (closes : Closes rest) :
    ∀ c ∈ (writeChain library level chain ++ rest).head?, isDelimiter c = true := by
  cases chain with
  | nil => exact closes.delimits
  | cons call others => exact delimiter_heads rfl _

theorem chain_cancel {chain otherChain : List Call} {level : Nat} {rest others : List Char}
    (each : ∀ call ∈ chain, call.Cancels library SchemaLibrary.methods)
    (otherFormed : ∀ call ∈ otherChain, call.Formed .readable SchemaLibrary.methods)
    (closes : Closes rest) (otherCloses : Closes others)
    (same : writeChain library level chain ++ rest =
      writeChain library level otherChain ++ others) :
    Call.settledAll chain = Call.settledAll otherChain ∧ rest = others := by
  induction chain generalizing otherChain with
  | nil =>
      cases otherChain with
      | nil => exact ⟨rfl, same⟩
      | cons call calls => exact absurd same (closes.ne_point _)
  | cons call calls induction =>
      cases otherChain with
      | nil => exact absurd same.symm (otherCloses.ne_point _)
      | cons otherCall otherCalls =>
          obtain ⟨head, tail⟩ := List.forall_mem_cons.mp each
          obtain ⟨headFormed, tailFormed⟩ := List.forall_mem_cons.mp otherFormed
          simp only [writeChain, List.cons_append, List.append_assoc] at same
          obtain ⟨settled, tails⟩ := head level otherCall _ _ headFormed (List.cons.inj same).2
          obtain ⟨others, rests⟩ := induction tail tailFormed tails
          exact ⟨by rw [Call.settledAll, Call.settledAll, settled, others], rests⟩

/-- A constructor call is not taken for a name: what the library's name is followed by is no
method. -/
theorem constructor_ne_reference (libraryWord : IsWord library) {level : Nat} {call : Call}
    {identifier rest others : List Char} {chain : List Call}
    (constructs : call.Formed .readable SchemaLibrary.constructors) (word : IsWord identifier)
    (chainFormed : ∀ call ∈ chain, call.Formed .readable SchemaLibrary.methods)
    (closes : Closes others) :
    library ++ '.' :: (call.write library level ++ rest) ≠
      identifier ++ (writeChain library level chain ++ others) := by
  intro same
  -- The library may go by the name of a schema; then only the call after the point decides.
  obtain ⟨rfl, tails⟩ := libraryWord.cancel word (delimiter_heads rfl _)
    (chain_heads chain closes) same
  cases chain with
  | nil => exact absurd tails.symm (closes.ne_point _)
  | cons method methods =>
      obtain ⟨methodFormed, -⟩ := List.forall_mem_cons.mp chainFormed
      obtain ⟨known, -⟩ := constructs
      obtain ⟨methodKnown, -⟩ := methodFormed
      simp only [writeChain, List.cons_append, List.append_assoc, Call.write_append] at tails
      obtain ⟨names, -⟩ := Call.name_cancel
        (Call.isWord_of_lookup SchemaLibrary.constructors_words known)
        (Call.isWord_of_lookup SchemaLibrary.methods_words methodKnown) (List.cons.inj tails).2
      exact SchemaLibrary.constructor_ne_method known methodKnown names

theorem write_append_call (level : Nat) (call : Call) (chain : List Call) (rest : List Char) :
    write library level ⟨.call call, chain⟩ ++ rest =
      library ++ '.' :: (call.write library level ++ (writeChain library level chain ++ rest)) := by
  simp only [write, SchemaBase.write, List.cons_append, List.append_assoc]

theorem write_append_reference (level : Nat) (identifier : String) (chain : List Call)
    (rest : List Char) :
    write library level ⟨.reference identifier, chain⟩ ++ rest =
      identifier.toList ++ (writeChain library level chain ++ rest) := by
  simp only [write, SchemaBase.write, List.append_assoc]

theorem cancels_of_call (libraryWord : IsWord library) {call : Call} {chain : List Call}
    (constructs : call.Formed .readable SchemaLibrary.constructors)
    (base : call.Cancels library SchemaLibrary.constructors)
    (each : ∀ call ∈ chain, call.Cancels library SchemaLibrary.methods) :
    Schema.Cancels library ⟨.call call, chain⟩ := by
  intro level other rest others formed closes otherCloses same
  obtain ⟨baseFormed, chainFormed⟩ := formed
  cases baseFormed with
  | call otherConstructs =>
      rw [write_append_call, write_append_call] at same
      obtain ⟨settled, tails⟩ := base level _ _ _ otherConstructs
        (List.cons.inj (List.append_cancel_left same)).2
      obtain ⟨chains, rests⟩ := chain_cancel each chainFormed closes otherCloses tails
      refine ⟨?_, rests⟩
      rw [Schema.settled, Schema.settled, SchemaBase.settled, SchemaBase.settled, settled, chains]
  | reference declared =>
      rw [write_append_call, write_append_reference] at same
      exact absurd same (constructor_ne_reference libraryWord constructs
        (Name.schemaName_isWord declared) chainFormed otherCloses)

theorem cancels_of_reference (libraryWord : IsWord library) (declared : String) {chain : List Call}
    (chainFormed : ∀ call ∈ chain, call.Formed .readable SchemaLibrary.methods)
    (each : ∀ call ∈ chain, call.Cancels library SchemaLibrary.methods) :
    Schema.Cancels library ⟨.reference (Name.schemaName declared), chain⟩ := by
  intro level other rest others formed closes otherCloses same
  have word := Name.schemaName_isWord declared
  obtain ⟨baseFormed, otherChainFormed⟩ := formed
  cases baseFormed with
  | call otherConstructs =>
      rw [write_append_call, write_append_reference] at same
      exact absurd same.symm
        (constructor_ne_reference libraryWord otherConstructs word chainFormed closes)
  | reference otherDeclared =>
      rw [write_append_reference, write_append_reference] at same
      obtain ⟨names, tails⟩ := word.cancel (Name.schemaName_isWord otherDeclared)
        (chain_heads chain closes) (chain_heads _ otherCloses) same
      obtain ⟨chains, rests⟩ := chain_cancel each otherChainFormed closes otherCloses tails
      exact ⟨by rw [Schema.settled, Schema.settled, String.toList_inj.mp names, chains], rests⟩

theorem write_ne_cons (libraryWord : IsWord library) {schema : Schema}
    (formed : schema.Formed .readable) (level : Nat) {delimiter : Char}
    (delimits : isDelimiter delimiter = true) (rest others : List Char) :
    schema.write library level ++ rest ≠ delimiter :: others := by
  obtain ⟨baseFormed, -⟩ := formed
  cases baseFormed with
  | call =>
      rw [write_append_call]
      exact libraryWord.ne_cons delimits _ _
  | reference declared =>
      rw [write_append_reference]
      exact (Name.schemaName_isWord declared).ne_cons delimits _ _

end Schema

theorem ShapeEntry.write_append (level : Nat) {entry : ShapeEntry} (bare : entry.comment = none)
    (rest : List Char) :
    entry.write library level ++ rest =
      indentation level ++ (writeKey entry.key ++
        ':' :: ' ' :: (entry.schema.write library level ++ rest)) := by
  cases entry with
  | mk key comment schema =>
      cases bare
      simp only [write, Option.elim, List.nil_append, List.append_assoc, List.cons_append]

theorem ShapeEntry.settled_eq (entry : ShapeEntry) :
    entry.settled = ⟨entry.key, entry.comment, entry.schema.settled⟩ := by
  cases entry
  rfl

theorem Separates.closes {closing : Char} {rest : List Char} (separates : Separates closing rest)
    (closes : closing ∈ [')', ',', ']', '\n']) : Closes rest := by
  intro c member
  rcases separates c member with rfl | rfl
  · decide
  · exact closes

namespace ShapeEntry

/-- A member of a shape shows what it is, before a comma or the end of a line. -/
def Shown (library : List Char) (level : Nat) (entry : ShapeEntry) : Prop :=
  Shows (write library level) '\n'
    (fun other => other.comment = none ∧ other.schema.Formed .readable) settled entry

theorem shown {entry : ShapeEntry} (bare : entry.comment = none)
    (inside : entry.schema.Cancels library) {level : Nat} : entry.Shown library level := by
  rintro other rest others ⟨otherBare, formed⟩ separates otherSeparates same
  rw [write_append level bare, write_append level otherBare] at same
  obtain ⟨keys, tails⟩ := writeKey_cancel (List.append_cancel_left same)
  obtain ⟨schemas, rests⟩ := inside level _ _ _ formed (separates.closes (by decide))
    (otherSeparates.closes (by decide)) (List.cons.inj tails).2
  exact ⟨by rw [settled_eq, settled_eq, keys, bare, otherBare, schemas], rests⟩

end ShapeEntry

namespace Argument

theorem cancel_nothing : Argument.Cancel library .nothing [] := by
  intro level otherArguments rest others fit same
  cases fit
  exact ⟨rfl, (List.cons.inj same).2⟩

theorem cancel_schema {schema : Schema} (inside : schema.Cancels library) :
    Argument.Cancel library .schema [.schema schema] := by
  intro level otherArguments rest others fit same
  cases fit with
  | schema formed =>
      obtain ⟨schemas, tails⟩ := inside level _ _ _ formed (closes_cons (by decide) _)
        (closes_cons (by decide) _) same
      exact ⟨by rw [settledAll, settled, schemas]; rfl, (List.cons.inj tails).2⟩

theorem cancel_schemas (libraryWord : IsWord library) {schemas : List Schema}
    (formed : ∀ schema ∈ schemas, schema.Formed .readable)
    (each : ∀ schema ∈ schemas, schema.Cancels library) :
    Argument.Cancel library .schemas [.schemas schemas] := by
  intro level otherArguments rest others fit same
  cases fit with
  | @schemas otherSchemas otherFormed =>
      simp only [Call.writeArguments, write, List.cons_append, List.append_assoc,
        List.nil_append] at same
      have inside := (List.cons.inj same).2
      rw [Schema.writeAll_eq, Schema.writeAll_eq] at inside
      simp only [settledAll, settled, Schema.settledAll_eq]
      cases schemas with
      | nil =>
          cases otherSchemas with
          | nil => exact ⟨rfl, (List.cons.inj (List.cons.inj inside).2).2⟩
          | cons other more =>
              rw [commaSeparated_cons, List.append_assoc] at inside
              exact absurd inside.symm (Schema.write_ne_cons libraryWord
                (otherFormed other List.mem_cons_self) level rfl _ _)
      | cons schema more =>
          cases otherSchemas with
          | nil =>
              rw [commaSeparated_cons, List.append_assoc] at inside
              exact absurd inside (Schema.write_ne_cons libraryWord
                (formed schema List.mem_cons_self) level rfl _ _)
          | cons other otherMore =>
              have shows : ∀ inner ∈ schema :: more, Shows (Schema.write library level) ']'
                  (·.Formed .readable) Schema.settled inner :=
                fun inner listed other rest others otherFormed separates otherSeparates =>
                  each inner listed level other rest others otherFormed
                    (separates.closes (by decide)) (otherSeparates.closes (by decide))
              obtain ⟨settled, tails⟩ := commaSeparated_cancel (by decide) shows otherFormed
                (List.cons_ne_nil _ _) (List.cons_ne_nil _ _) inside
              exact ⟨by rw [settled], (List.cons.inj tails).2⟩

theorem cancel_shape {entries : List ShapeEntry}
    (comments : ∀ entry ∈ entries, entry.comment = none)
    (each : ∀ entry ∈ entries, entry.schema.Cancels library) :
    Argument.Cancel library .shape [.shape entries] := by
  intro level otherArguments rest others fit same
  cases fit with
  | @shape otherEntries otherComments otherFormed =>
      cases entries with
      | nil =>
          cases otherEntries with
          | nil =>
              simp only [Call.writeArguments, write, List.cons_append, List.nil_append] at same
              exact ⟨rfl, (List.cons.inj (List.cons.inj (List.cons.inj same).2).2).2⟩
          | cons other more => exact absurd (List.cons.inj (List.cons.inj same).2).1 (by decide)
      | cons entry more =>
          cases otherEntries with
          | nil => exact absurd (List.cons.inj (List.cons.inj same).2).1 (by decide)
          | cons other otherMore =>
              have shows : ∀ inner ∈ entry :: more, inner.Shown library (level + 1) :=
                fun inner listed => ShapeEntry.shown (comments inner listed) (each inner listed)
              simp only [Call.writeArguments, write, ShapeEntry.writeAll_eq, List.cons_append,
                List.append_assoc, List.nil_append] at same
              obtain ⟨settled, tails⟩ := commaSeparated_cancel (by decide) shows
                (fun other listed => ⟨otherComments other listed, otherFormed other listed⟩)
                (List.cons_ne_nil _ _) (List.cons_ne_nil _ _)
                (List.cons.inj (List.cons.inj same).2).2
              have rests := List.append_cancel_left tails
              refine ⟨?_, (List.cons.inj (List.cons.inj rests).2).2⟩
              simp only [settledAll, Argument.settled, ShapeEntry.settledAll_eq, settled]

theorem cancel_mask (keys : List String) : Argument.Cancel library .mask [.mask keys] := by
  intro level otherArguments rest others fit same
  cases fit with
  | mask otherKeys =>
      cases keys with
      | nil =>
          cases otherKeys with
          | nil =>
              simp only [Call.writeArguments, write, List.cons_append, List.nil_append] at same
              exact ⟨rfl, (List.cons.inj (List.cons.inj (List.cons.inj same).2).2).2⟩
          | cons other more => exact absurd (List.cons.inj (List.cons.inj same).2).1 (by decide)
      | cons key more =>
          cases otherKeys with
          | nil => exact absurd (List.cons.inj (List.cons.inj same).2).1 (by decide)
          | cons other otherMore =>
              simp only [Call.writeArguments, write, List.cons_append, List.append_assoc,
                List.nil_append] at same
              obtain ⟨keys, tails⟩ := writeMask_cancel (List.cons_ne_nil _ _)
                (List.cons_ne_nil _ _) (List.cons.inj (List.cons.inj same).2).2
              exact ⟨by rw [keys], (List.cons.inj (List.cons.inj tails).2).2⟩

theorem cancel_literal {value : Literal} (readable : value.Readable) :
    Argument.Cancel library .literal [.literal value] := by
  intro level otherArguments rest others fit same
  cases fit with
  | literal otherReadable =>
      obtain ⟨rfl, rests⟩ := Literal.write_cancel readable otherReadable same
      exact ⟨rfl, rests⟩

theorem cancel_number {text : String} (bound : IsBound text) :
    Argument.Cancel library .number [.number text] := by
  intro level otherArguments rest others fit same
  cases fit with
  | number otherBound =>
      obtain ⟨rfl, rests⟩ := number_cancel (bound.chars rfl) (otherBound.chars rfl) same
      exact ⟨rfl, rests⟩

theorem cancel_pattern {pattern : Pattern}
    (ends : Refinement.endsPending pattern.source.toList = false) :
    Argument.Cancel library .pattern [.pattern pattern] := by
  intro level otherArguments rest others fit same
  cases fit with
  | pattern otherEnds =>
      rw [Refinement.endsPending, odd_backslashes_eq_endsEscaped] at ends otherEnds
      obtain ⟨patterns, tails⟩ := Pattern.literal_cancel ends otherEnds same
      exact ⟨by rw [settledAll, settled, patterns]; rfl, (List.cons.inj tails).2⟩

end Argument

-- The recursion is on the derivation of the first schema; the second may be any.
mutual

theorem Schema.Formed.cancels (libraryWord : IsWord library) {schema : Schema}
    (formed : schema.Formed .readable) : schema.Cancels library := by
  match formed with
  | .mk (.call constructs) chainFormed =>
      exact Schema.cancels_of_call libraryWord constructs
        (constructs.cancels libraryWord SchemaLibrary.constructors_words)
        fun call listed => (chainFormed call listed).cancels libraryWord SchemaLibrary.methods_words
  | .mk (.reference declared) chainFormed =>
      exact Schema.cancels_of_reference libraryWord declared chainFormed
        fun call listed => (chainFormed call listed).cancels libraryWord SchemaLibrary.methods_words

theorem Call.Formed.cancels (libraryWord : IsWord library) {table : List (String × ArgumentForm)}
    {call : Call} (formed : call.Formed .readable table)
    (words : ∀ entry ∈ table, IsWord entry.1.toList) : call.Cancels library table := by
  match formed with
  | .mk known fit => exact Call.cancels_of_arguments words known (fit.cancel libraryWord)

theorem Argument.Fit.cancel (libraryWord : IsWord library) {form : ArgumentForm}
    {arguments : List Argument} (fit : Argument.Fit .readable form arguments) :
    Argument.Cancel library form arguments := by
  match fit with
  | .nothing => exact Argument.cancel_nothing
  | .schema formed => exact Argument.cancel_schema (formed.cancels libraryWord)
  | .schemas formed =>
      exact Argument.cancel_schemas libraryWord formed
        fun schema listed => (formed schema listed).cancels libraryWord
  | .shape comments formed =>
      exact Argument.cancel_shape comments
        fun entry listed => (formed entry listed).cancels libraryWord
  | .mask keys => exact Argument.cancel_mask keys
  | .literal readable => exact Argument.cancel_literal readable
  | .number bound => exact Argument.cancel_number bound
  | .pattern ends => exact Argument.cancel_pattern ends

end

theorem Schema.settled_eq_of_write_eq {first second : Schema} (libraryWord : IsWord library)
    (firstFormed : first.Formed .readable) (secondFormed : second.Formed .readable) {level : Nat}
    (same : first.write library level = second.write library level) :
    first.settled = second.settled := by
  have nothing : Closes [] := fun _ member => absurd member (Option.not_mem_none _)
  refine (firstFormed.cancels libraryWord level second [] [] secondFormed nothing nothing ?_).1
  rw [List.append_nil, List.append_nil, same]

namespace TypeNode

/-- Schemas of types without comments that are written the same way are the same, the delimiters in
their patterns aside. -/
theorem settled_eq_of_render_eq {first second : TypeNode} {firstSchema secondSchema : Schema}
    {library : String} (identifier : isIdentifier library.toList = true)
    (firstReadable : Vocabulary.readable.Covers first)
    (secondReadable : Vocabulary.readable.Covers second)
    (firstCompiled : first.compile = .ok firstSchema)
    (secondCompiled : second.compile = .ok secondSchema)
    (same : firstSchema.render library = secondSchema.render library) :
    firstSchema.settled = secondSchema.settled :=
  Schema.settled_eq_of_write_eq (isWord_of_isIdentifier identifier)
    (formed_of_compile firstReadable firstCompiled)
    (formed_of_compile secondReadable secondCompiled) (String.ofList_inj.mp same)

def restricted (pattern : String) : TypeNode :=
  .object ⟨[⟨"key", false, .primitive .string, none, [⟨"pattern", pattern⟩]⟩], none⟩

def restrictedSchema (pattern : String) : Schema :=
  .objectOf [⟨"key", none, (Schema.bare "string").chained ⟨"regex", [.pattern ⟨pattern⟩]⟩⟩]

theorem eq_of_inside_restricted {node : TypeNode} {pattern : String}
    (inside : node.Inside (restricted pattern)) :
    node = restricted pattern ∨ node = .primitive .string := by
  rcases Relation.ReflTransGen.cases_tail inside with same | ⟨part, within, direct⟩
  · exact .inl same.symm
  · cases direct with
    | memberType listed =>
        obtain rfl := List.mem_singleton.mp listed
        rcases Relation.ReflTransGen.cases_tail within with same | ⟨_, _, direct⟩
        · exact .inr same.symm
        · cases direct
    | indexKey given => cases given
    | indexValue given => cases given

theorem restricted_readable (pattern : String) :
    Vocabulary.readable.Covers (restricted pattern) where
  literals value inside := by
    rcases eq_of_inside_restricted inside with same | same <;> cases same
  comments members signature inside := by
    rcases eq_of_inside_restricted inside with same | same
    · cases same
      exact List.forall_mem_singleton.mpr rfl
    · cases same

/-- A slash with a backslash before it and one without are written the same way. -/
theorem settled_eq_of_escaped_slash :
    (restricted "a/b").compile = .ok (restrictedSchema "a/b") ∧
      (restricted "a\\/b").compile = .ok (restrictedSchema "a\\/b") ∧
      (restrictedSchema "a/b").render "z" = (restrictedSchema "a\\/b").render "z" ∧
      (restrictedSchema "a/b").settled = (restrictedSchema "a\\/b").settled := by
  have first : (restricted "a/b").compile = .ok (restrictedSchema "a/b") := by rfl
  have second : (restricted "a\\/b").compile = .ok (restrictedSchema "a\\/b") := by rfl
  have same : (restrictedSchema "a/b").render "z" = (restrictedSchema "a\\/b").render "z" := by
    decide
  exact ⟨first, second, same, settled_eq_of_render_eq (by decide) (restricted_readable _)
    (restricted_readable _) first second same⟩

end TypeNode

end TypeSchema
