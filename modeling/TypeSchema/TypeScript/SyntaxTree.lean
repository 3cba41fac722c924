/-!
The syntax tree of TypeScript declarations. It keeps the comments in the bodies of object types,
where they may document a member, and the source text of the forms that have no schema. It does
not keep `readonly` before a type, which says nothing about values. A union or an intersection has
one part at least.
-/

namespace TypeSchema.TypeScript

/-- The name of a property, as it is written. -/
inductive PropertyName where
  /-- An identifier or a number. -/
  | plain (text : String)
  /-- A string, with its quotes. -/
  | quoted (text : String)
  /-- An expression, with the brackets around it. -/
  | computed (text : String)
deriving DecidableEq

mutual

inductive TypeTree where
  /-- A word that names a type of the language, or `unique symbol`. -/
  | keyword (text : String)
  | name (text : String)
  /-- Names with points between them: what stands before the last point, and what after it. -/
  | qualifiedName (qualifier name : String)
  | generic (name : String) (arguments : List TypeTree)
  /-- A string, with its quotes. -/
  | string (text : String)
  /-- A number, with its sign. -/
  | number (text : String)
  | boolean (value : Bool)
  | null
  | undefined
  | array (element : TypeTree)
  | tuple (elements : List TypeTree)
  | parenthesized (inner : TypeTree)
  | union (first : TypeTree) (others : List TypeTree)
  | intersection (first : TypeTree) (others : List TypeTree)
  | object (body : List BodyItem)
  /-- A template literal type: its source text, and the pieces between its backticks. -/
  | template (text : String) (pieces : List TemplatePiece)
  /-- A form that has no schema, with its source text. -/
  | other (form text : String)

/-- What stands in the body of an object type, in source order. -/
inductive BodyItem where
  | comment (text : String)
  | property (name : PropertyName) (optional : Bool) (type : Option TypeTree)
  | indexSignature (key value : TypeTree)
  | mappedType (text : String)
  /-- An item of a form that has no schema. -/
  | other (form : String)

inductive TemplatePiece where
  /-- Text without escapes. -/
  | text (raw : String)
  /-- Text from an escape on, or a hole that holds no type. -/
  | stray (raw : String)
  | hole (type : TypeTree)

end

instance : Inhabited TypeTree := ⟨.null⟩

inductive DeclarationTree where
  | typeAlias (name : String) (type : TypeTree)
  /-- An interface with the types that it extends, a comment among them counting as one. -/
  | interface (name : String) (bases : List TypeTree) (body : List BodyItem)

end TypeSchema.TypeScript
