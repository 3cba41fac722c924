import TypeSchema.Utility

/-!
Why no schema can be generated, and how that is said.
-/

namespace TypeSchema

/-- Where a record's key type is written. -/
inductive RecordSite where
  | generic
  | indexSignature
deriving DecidableEq

/-- A form of type that no schema corresponds to. -/
inductive Construct where
  | emptyUnion
  | emptyIntersection
  /-- A utility with the wrong number of arguments. -/
  | utilityArity (utility : Utility) (count : Nat)
  | unknownGeneric (name : String)
  | keyword (text : String)
  /-- A type of some form, with its source text. -/
  | typeForm (form text : String)
  /-- An item of some form in the body of an object type. -/
  | bodyItem (form : String)
  | computedProperty (text : String)
  | mappedType (text : String)
deriving DecidableEq

inductive SourceFault where
  | malformedTypes
  | malformedJson
  /-- Well-formed JSON that is no declaration and no list of declarations. -/
  | notDeclarations
  | unterminatedTemplate (text : String)
  /-- A piece of a template literal type that is neither text nor a hole. -/
  | strayInTemplate (text : String)
deriving DecidableEq

inductive GenerateError where
  /-- Record keys of a type other than `string`. -/
  | recordKey (site : RecordSite) (key : String)
  /-- A selection of keys that holds something other than string literals; `inUnion` tells whether
  that is a part of a union. -/
  | keySelection (utility : Utility) (part : String) (inUnion : Bool)
  /-- A hole of a template literal type that no pattern corresponds to. -/
  | templateSpan (kind : String)
  | missingDeclaration
  | unsupported (construct : Construct)
  | unreadable (fault : SourceFault)
deriving DecidableEq

namespace RecordSite

def describe : RecordSite → String
  | generic => "Record<K, V>"
  | indexSignature => "index signature"

end RecordSite

namespace Construct

def describe : Construct → String
  | emptyUnion => "empty union"
  | emptyIntersection => "empty intersection"
  | utilityArity utility count => utility.name ++ " with " ++ toString count ++ " type argument(s)"
  | unknownGeneric name => "generic type " ++ name ++ "<…>"
  | keyword text => "`" ++ text ++ "` type"
  | typeForm form text => form ++ " `" ++ text ++ "`"
  | bodyItem form => form ++ " in object type"
  | computedProperty text => "computed property " ++ text
  | mappedType text => "index signature " ++ text

end Construct

namespace SourceFault

def describe : SourceFault → String
  | malformedTypes => "syntax error"
  | malformedJson => "invalid JSON"
  | notDeclarations => "data did not match any variant of untagged enum OneOrMany"
  | unterminatedTemplate text => "unterminated template literal type `" ++ text ++ "`"
  | strayInTemplate text => "unexpected `" ++ text ++ "` in template literal type"

end SourceFault

namespace GenerateError

def message : GenerateError → String
  | recordKey site key =>
    site.describe ++ " with `" ++ key ++
      "` keys is not supported, record keys must be `string`"
  | keySelection utility part inUnion =>
    utility.name ++ "<T, K> unknown syntax: (" ++ part ++ " as K" ++
      (if inUnion then " union part" else "") ++ " not supported)"
  | templateSpan kind => "unsupported type in template literal: " ++ kind
  | missingDeclaration => "no `type` or `interface` declaration found"
  | unsupported construct => "unsupported construct: " ++ construct.describe
  | unreadable fault => "parse error: " ++ fault.describe

end GenerateError

end TypeSchema
