/-!
JSON values. An object keeps its fields in the order in which they are written, and repeated ones.
-/

namespace TypeSchema

/-- A JSON value. A number is kept as it is written. -/
inductive Json where
  | null
  | bool (value : Bool)
  | number (text : String)
  | string (value : String)
  | array (items : List Json)
  | object (fields : List (String × Json))

instance : Inhabited Json := ⟨.null⟩

mutual

/-- How deeply arrays and objects are nested in a value. -/
def Json.depth : Json → Nat
  | .array items => Json.depthOfItems items + 1
  | .object fields => Json.depthOfFields fields + 1
  | _ => 0

/-- How deeply arrays and objects are nested in the items of an array. -/
def Json.depthOfItems : List Json → Nat
  | [] => 0
  | item :: others => max item.depth (Json.depthOfItems others)

/-- How deeply arrays and objects are nested in the fields of an object. -/
def Json.depthOfFields : List (String × Json) → Nat
  | [] => 0
  | (_, value) :: others => max value.depth (Json.depthOfFields others)

end

end TypeSchema
