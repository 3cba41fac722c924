import Mathlib.Data.List.Basic
import TypeSchema.Schema

/-!
What stands in a schema expression, its nesting aside: the names of its calls and of other schemas, keys
and comments, selections of keys, literals, numbers and patterns, from left to right.
-/

namespace TypeSchema

/-- A part of a schema expression that holds no schema. -/
inductive Detail where
  /-- The name of a constructor or of a method. -/
  | callee (name : String)
  /-- The name of another schema. -/
  | reference (identifier : String)
  | member (key : String) (comment : Option String)
  | mask (keys : List String)
  | literal (value : Literal)
  /-- The number in a refinement. -/
  | number (text : String)
  | pattern (pattern : Pattern)
deriving DecidableEq

mutual

def Schema.details : Schema → List Detail
  | ⟨base, chain⟩ => base.details ++ Call.detailsAll chain

def SchemaBase.details : SchemaBase → List Detail
  | .call call => call.details
  | .reference identifier => [.reference identifier]

def Call.detailsAll : List Call → List Detail
  | [] => []
  | call :: others => call.details ++ Call.detailsAll others

def Call.details : Call → List Detail
  | ⟨name, arguments⟩ => .callee name :: Argument.detailsAll arguments

def Argument.detailsAll : List Argument → List Detail
  | [] => []
  | argument :: others => argument.details ++ Argument.detailsAll others

def Argument.details : Argument → List Detail
  | .schema schema => schema.details
  | .schemas schemas => Schema.detailsAll schemas
  | .shape entries => ShapeEntry.detailsAll entries
  | .mask keys => [.mask keys]
  | .literal value => [.literal value]
  | .number text => [.number text]
  | .pattern pattern => [.pattern pattern]

def Schema.detailsAll : List Schema → List Detail
  | [] => []
  | schema :: others => schema.details ++ Schema.detailsAll others

def ShapeEntry.detailsAll : List ShapeEntry → List Detail
  | [] => []
  | entry :: others => entry.details ++ ShapeEntry.detailsAll others

def ShapeEntry.details : ShapeEntry → List Detail
  | ⟨key, comment, schema⟩ => .member key comment :: schema.details

end

theorem Call.detailsAll_eq_flatMap (calls : List Call) :
    Call.detailsAll calls = calls.flatMap Call.details := by
  induction calls with
  | nil => rfl
  | cons call others induction => rw [Call.detailsAll, induction, List.flatMap_cons]

theorem Schema.detailsAll_eq_flatMap (schemas : List Schema) :
    Schema.detailsAll schemas = schemas.flatMap Schema.details := by
  induction schemas with
  | nil => rfl
  | cons schema others induction => rw [Schema.detailsAll, induction, List.flatMap_cons]

theorem ShapeEntry.detailsAll_eq_flatMap (entries : List ShapeEntry) :
    ShapeEntry.detailsAll entries = entries.flatMap ShapeEntry.details := by
  induction entries with
  | nil => rfl
  | cons entry others induction => rw [ShapeEntry.detailsAll, induction, List.flatMap_cons]

namespace Schema

theorem details_chainedAll (schema : Schema) (calls : List Call) :
    (schema.chainedAll calls).details = schema.details ++ calls.flatMap Call.details := by
  obtain ⟨base, chain⟩ := schema
  simp only [chainedAll, Schema.details, Call.detailsAll_eq_flatMap, List.flatMap_append,
    List.append_assoc]

theorem details_chained (schema : Schema) (call : Call) :
    (schema.chained call).details = schema.details ++ call.details := by
  have alone := schema.details_chainedAll [call]
  rwa [List.flatMap_singleton] at alone

theorem details_and (schema other : Schema) :
    (schema.and other).details = schema.details ++ .callee "and" :: other.details := by
  rw [Schema.and, details_chained, Call.details, Argument.detailsAll, Argument.detailsAll,
    List.append_nil, Argument.details]

theorem details_ofCall (name : String) (argument : Argument) :
    (ofCall name [argument]).details = .callee name :: argument.details := by
  simp only [ofCall, Schema.details, SchemaBase.details, Call.details, Argument.detailsAll,
    Call.detailsAll, List.append_nil]

end Schema

end TypeSchema
