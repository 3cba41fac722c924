import TypeSchema.TypeScript.Lowering
import TypeSchema.TypeScript.StatementGrammar

/-!
Reading the declarations of a TypeScript source: those of its type aliases and interfaces, in
order. A source with a fault in its grammar has no declarations at all, and neither has one with a
form that has no schema; the first such form gives the error.
-/

namespace TypeSchema.TypeScript

/-- The trees of a source's declarations, if the source is well formed. Reading takes a fixed number
of steps for each lexeme at most. -/
def declarationTrees? (source : String) : Option (List DeclarationTree) :=
  let tokens := tokens source.toList
  if tokens.any (·.kind == .invalid) then none
  else
    let lexemes := lexemes tokens
    ((Grammar.statements (12 * (lexemes.length + 1))).run lexemes).map (·.1)

def DeclarationTree.lowerAll : List DeclarationTree → Except GenerateError (List Declaration)
  | [] => .ok []
  | tree :: others => do
    let declaration ← tree.lower
    let rest ← DeclarationTree.lowerAll others
    return declaration :: rest

end TypeScript

def Declaration.readTypeScript (source : String) : Except GenerateError (List Declaration) :=
  match TypeScript.declarationTrees? source with
  | none => .error (.unreadable .malformedTypes)
  | some trees => TypeScript.DeclarationTree.lowerAll trees

def Declaration.readFirstTypeScript (source : String) : Except GenerateError Declaration := do
  match ← Declaration.readTypeScript source with
  | [] => .error .missingDeclaration
  | declaration :: _ => return declaration

end TypeSchema
