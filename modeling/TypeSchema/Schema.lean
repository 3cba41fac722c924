import TypeSchema.Pattern

/-!
Schema expressions: a constructor of the schema library or the name of another schema, followed by
chained calls in the order in which they were added.
-/

namespace TypeSchema

mutual

/-- A schema expression. -/
structure Schema where
  base : SchemaBase
  chain : List Call

/-- What a schema expression starts with. -/
inductive SchemaBase where
  /-- A constructor of the schema library. -/
  | call (call : Call)
  /-- Another schema, by its name. -/
  | reference (identifier : String)

/-- A constructor or method call. -/
structure Call where
  name : String
  arguments : List Argument

/-- An argument of a call. -/
inductive Argument where
  | schema (schema : Schema)
  | schemas (schemas : List Schema)
  /-- An object of schemas. -/
  | shape (entries : List ShapeEntry)
  /-- A selection of keys. -/
  | mask (keys : List String)
  | literal (literal : Literal)
  /-- A number, as it is written. -/
  | number (text : String)
  | pattern (pattern : Pattern)

/-- A member of an object of schemas. -/
structure ShapeEntry where
  key : String
  comment : Option String
  schema : Schema

end

namespace Call

/-- A call without arguments. -/
def bare (name : String) : Call :=
  ⟨name, []⟩

end Call

namespace Schema

/-- A constructor call. -/
def ofCall (name : String) (arguments : List Argument) : Schema :=
  ⟨.call ⟨name, arguments⟩, []⟩

/-- A constructor call without arguments. -/
def bare (name : String) : Schema :=
  ofCall name []

def reference (identifier : String) : Schema :=
  ⟨.reference identifier, []⟩

def chained (schema : Schema) (call : Call) : Schema :=
  { schema with chain := schema.chain ++ [call] }

/-- A schema with more chained calls, in their order. -/
def chainedAll (schema : Schema) (calls : List Call) : Schema :=
  { schema with chain := schema.chain ++ calls }

def and (schema other : Schema) : Schema :=
  schema.chained ⟨"and", [.schema other]⟩

def optional (schema : Schema) : Schema :=
  schema.chained (.bare "optional")

def arrayOf (element : Schema) : Schema :=
  ofCall "array" [.schema element]

/-- The schema of objects with any keys, by the schema of their values. -/
def recordOf (value : Schema) : Schema :=
  ofCall "record" [.schema value]

def objectOf (entries : List ShapeEntry) : Schema :=
  ofCall "object" [.shape entries]

def methods (schema : Schema) : List String :=
  schema.chain.map (·.name)

end Schema

instance : Inhabited Schema := ⟨.bare "any"⟩

instance : Inhabited Call := ⟨.bare "optional"⟩

instance : Inhabited Argument := ⟨.mask []⟩

end TypeSchema
