/-!
The generic names that have a meaning of their own.
-/

namespace TypeSchema

/-- A generic type that is understood wherever it is given its number of arguments. -/
inductive Utility where
  | arrayOf
  | record
  | allOptional
  | allRequired
  | allReadonly
  | pickKeys
  | omitKeys
deriving DecidableEq

namespace Utility

def all : List Utility :=
  [arrayOf, record, allOptional, allRequired, allReadonly, pickKeys, omitKeys]

def name : Utility → String
  | arrayOf => "Array"
  | record => "Record"
  | allOptional => "Partial"
  | allRequired => "Required"
  | allReadonly => "Readonly"
  | pickKeys => "Pick"
  | omitKeys => "Omit"

def ofName? (name : String) : Option Utility :=
  all.find? (·.name == name)

end Utility

end TypeSchema
