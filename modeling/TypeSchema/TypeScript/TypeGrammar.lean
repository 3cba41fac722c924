import TypeSchema.TypeScript.Lexeme
import TypeSchema.TypeScript.SyntaxTree
import TypeSchema.TypeScript.Template

/-!
The grammar of types, from the loosest binding to the tightest: conditional types, unions,
intersections, types with a word before them, array types and single types. Each reader takes as
much as belongs to its type. Forms that have no schema are read as strictly as the others; their
tree is their source text.

In some places a line break ends a type, where the next line can start something else; readers are
told so by `breakable`.
-/

namespace TypeSchema.TypeScript.Grammar

open Reader

/-- The words that are types by themselves. -/
def keywordTypes : List String :=
  ["any", "number", "boolean", "string", "symbol", "void", "unknown", "never", "object"]

/-- The words before a name in the body of an object type that say nothing about values. -/
def propertyModifiers : List String :=
  ["public", "private", "protected", "static", "override", "readonly"]

/-- The words before a name in the body of an object type that make it a method. -/
def methodModifiers : List String :=
  ["async", "get", "set"]

/-- Whether a lexeme may be the name of a property, or start it. -/
def startsPropertyName (lexeme : Lexeme) : Bool :=
  lexeme.isName || lexeme.token.kind == .string || lexeme.token.kind == .number || lexeme.isMark "["

/-- Whether a lexeme opens the parameters of a method whose name stands before it. -/
def opensMethod (lexeme : Lexeme) : Bool :=
  lexeme.isMark "<" || (lexeme.isMark "(" && !lexeme.startsLine)

/-- Whether lexemes start with a group in parentheses before an arrow. -/
def opensFunction (lexemes : List Lexeme) : Bool :=
  match lexemes with
  | first :: _ =>
    first.isMark "<" ||
      (first.isMark "(" && ((afterGroup [] lexemes).any fun rest => rest.head?.any (·.isMark "=>")))
  | [] => false

/-- Whether lexemes start with a construct signature or the type of a constructor. -/
def opensConstruct : List Lexeme → Bool
  | first :: second :: third :: _ =>
    (first.isWord "new" && opensMethod second) ||
      (first.isWord "abstract" && second.isWord "new" && opensMethod third)
  | _ => false

/-- What follows the opening bracket of an index signature or a mapped type, if lexemes start with
one. -/
def indexStart? : List Lexeme → Option (List Lexeme)
  | bracket :: name :: third :: rest =>
    if bracket.isMark "[" then
      if name.isName && (third.isMark ":" || third.isWord "in") then some (name :: third :: rest)
      else none
    else if bracket.isWord "readonly" && !name.startsLine then indexStart? (name :: third :: rest)
    else if bracket.isMarkOf ["+", "-"] && name.isWord "readonly" then
      indexStart? (name :: third :: rest)
    else none
  | _ => none

/-- The pieces of a template's text: what stands before the first escape, and what from there on. -/
def textPieces (text : List Char) : List TemplatePiece :=
  match Template.splitAtEscape text with
  | (plain, []) => [.text (String.ofList plain)]
  | (plain, escapes) => [.text (String.ofList plain), .stray (String.ofList escapes)]

def templateText (closing : Nat) (token : Token) : List Char :=
  (token.text.drop 1).take (token.text.length - 1 - closing)

def piecesBeforeHole (token : Token) : Reader (List TemplatePiece) :=
  let text := templateText 2 token
  if Template.mayPrecedeHole text && !Template.hasEscapedHole text then return textPieces text
  else failure

def piecesAtEnd (token : Token) : Reader (List TemplatePiece) :=
  let text := templateText 1 token
  if Template.hasEscapedHole text then failure else return textPieces text

/-- Takes what stands in a hole although it is no type. -/
def strayHole : Reader TemplatePiece := do
  let start ← get
  skip (afterHole [])
  return .stray ("$\x7b" ++ (← textSince start) ++ "\x7d")

/-- What follows a name and the names after points, and the tree of them all; `start` is where the
first name stands, and `tree` the tree so far. -/
def dottedName (start : List Lexeme) (tree : TypeTree) : List Lexeme → TypeTree × List Lexeme
  | point :: name :: rest =>
    if point.isMark "." && name.isName then
      let qualifier := sourceText (start.take (start.length - rest.length - 2))
      dottedName start
        (.qualifiedName (qualifier ++ String.ofList point.leadingText) (String.ofList name.text)) rest
    else (tree, point :: name :: rest)
  | rest => (tree, rest)

/-- What follows the words of some sort before a property's name, and whether there are any. -/
def afterModifiers (modifiers : List String) : List Lexeme → List Lexeme × Bool
  | first :: second :: rest =>
    if first.isWordOf modifiers && !second.startsLine &&
        (startsPropertyName second || second.isMark "*") then
      ((afterModifiers modifiers (second :: rest)).1, true)
    else (first :: second :: rest, false)
  | rest => (rest, false)

/-- Takes the words of some sort before a property's name, and tells whether there were any. -/
def acceptModifiers (modifiers : List String) : Reader Bool := do
  let (rest, found) := afterModifiers modifiers (← get)
  set rest
  return found

def propertyName : Reader PropertyName := do
  let start ← get
  match start with
  | [] => failure
  | first :: _ =>
    if first.isMark "[" then
      group
      let text ← textSince start
      if text == "[]" then failure else return .computed text
    else
      let lexeme ← next
      let text := String.ofList lexeme.token.text
      match lexeme.token.kind with
      | .word => return .plain text
      | .number => return .plain text
      | .string => return .quoted text
      | _ => failure

/-- The mark before the type of an index signature or a mapped type. -/
def mappedAnnotation : Reader Unit := do
  if ← acceptIf (·.isMarkOf ["+", "-"]) then expect "?" else let _ ← accept "?"
  expect ":"

/-- Takes what separates an item of an object type's body from the next, or stands before the
closing brace, and returns the comments before the separator. -/
def bodySeparator : Reader (List String) := do
  match ← get with
  | [] => failure
  | lexeme :: rest =>
    if lexeme.isMarkOf [",", ";"] then
      set rest
      return lexeme.comments
    else if lexeme.isMark "\x7d" || lexeme.endsLine then return []
    else failure

mutual

def typeTree : Nat → Bool → Reader TypeTree
  | 0, _ => failure
  | fuel + 1, breakable => do
    let start ← get
    let tree ← unionTree fuel breakable
    if ← acceptIf fun lexeme => lexeme.isWord "extends" && !(breakable && lexeme.startsLine) then
      let _ ← unionTree fuel false
      expect "?"
      let _ ← typeTree fuel false
      expect ":"
      let _ ← typeTree fuel breakable
      return .other "conditional type" (← textSince start)
    else return tree

/-- A union, or its only part. -/
def unionTree : Nat → Bool → Reader TypeTree
  | 0, _ => failure
  | fuel + 1, breakable => do
    let first ← intersectionTree fuel breakable
    let others ← unionOthers fuel breakable
    return if others.isEmpty then first else .union first others

/-- The parts of a union after the first. -/
def unionOthers : Nat → Bool → Reader (List TypeTree)
  | 0, _ => failure
  | fuel + 1, breakable => do
    if ← accept "|" then
      let tree ← intersectionTree fuel breakable
      let others ← unionOthers fuel breakable
      return tree :: others
    else return []

/-- An intersection, or its only part. -/
def intersectionTree : Nat → Bool → Reader TypeTree
  | 0, _ => failure
  | fuel + 1, breakable => do
    let first ← partTree fuel breakable
    let others ← intersectionOthers fuel breakable
    return if others.isEmpty then first else .intersection first others

/-- The parts of an intersection after the first. -/
def intersectionOthers : Nat → Bool → Reader (List TypeTree)
  | 0, _ => failure
  | fuel + 1, breakable => do
    if ← accept "&" then
      let tree ← partTree fuel breakable
      let others ← intersectionOthers fuel breakable
      return tree :: others
    else return []

/-- A part of a union or an intersection; a separator may stand before it. -/
def partTree : Nat → Bool → Reader TypeTree
  | 0, _ => failure
  | fuel + 1, breakable => do
    let start ← get
    if ← accept "|" then return .union (← intersectionTree fuel breakable) []
    else if ← accept "&" then return .intersection (← partTree fuel breakable) []
    else if ← acceptWord "readonly" then partTree fuel breakable
    else if ← acceptWord "infer" then
      let _ ← name
      if ← acceptIf fun lexeme => lexeme.isWord "extends" && !(breakable && lexeme.startsLine) then
        let _ ← unionTree fuel breakable
      return .other "infer type" (← textSince start)
    else if opensConstruct start then
      let _ ← acceptWord "abstract"
      expectWord "new"
      functionType fuel breakable
      return .other "constructor type" (← textSince start)
    else if opensFunction start then
      functionType fuel breakable
      return .other "function type" (← textSince start)
    else queriedTree fuel breakable

/-- A type that `keyof` may stand before. -/
def queriedTree : Nat → Bool → Reader TypeTree
  | 0, _ => failure
  | fuel + 1, breakable => do
    let start ← get
    if ← acceptWord "keyof" then
      let _ ← queriedTree fuel breakable
      return .other "index type query" (← textSince start)
    else
      let tree ← singleTree fuel
      arrayTree fuel breakable start tree

/-- What the brackets after a type make of it; the type starts at `start`. -/
def arrayTree : Nat → Bool → List Lexeme → TypeTree → Reader TypeTree
  | 0, _, _, _ => failure
  | fuel + 1, breakable, start, tree => do
    if ← acceptIf fun lexeme => lexeme.isMark "[" && !(breakable && lexeme.startsLine) then
      if ← accept "]" then arrayTree fuel breakable start (.array tree)
      else
        let _ ← typeTree fuel false
        expect "]"
        arrayTree fuel breakable start (.other "lookup type" (← textSince start))
    else return tree

/-- A type that is a single token, starts with its name or stands in brackets. -/
def singleTree : Nat → Reader TypeTree
  | 0 => failure
  | fuel + 1 => do
    let start ← get
    let first ← next
    let text := String.ofList first.token.text
    match first.token.kind with
    | .string => return .string text
    | .number => return .number text
    | .template =>
      let pieces ← piecesAtEnd first.token
      return .template text pieces
    | .openTemplate => return .template text []
    | .templateHead =>
      let pieces ← piecesBeforeHole first.token
      let others ← templatePieces fuel
      return .template (← textSince start) (pieces ++ others)
    | .mark => markedTree fuel start first
    | .word => wordTree fuel start first text
    | _ => failure

/-- A type of which the mark `first` has been taken. -/
def markedTree : Nat → List Lexeme → Lexeme → Reader TypeTree
  | 0, _, _ => failure
  | fuel + 1, start, first => do
    if first.isMark "(" then
      let tree ← typeTree fuel false
      expect ")"
      return .parenthesized tree
    else if first.isMark "[" then
      if ← accept "," then
        expect "]"
        return .tuple []
      else return .tuple (← tupleElements fuel)
    else if first.isMark "\x7b" then
      return .object (← objectBody fuel true)
    else if first.isMarkOf ["+", "-"] then
      let _ ← expectIf (·.token.kind == .number)
      return .number (← textSince start)
    else if first.isMark "?" then
      let _ ← queriedTree fuel false
      return .other "flow maybe type" (← textSince start)
    else if first.isMark "*" then return .other "existential type" "*"
    else failure

/-- A type of which the word `first`, spelt `text`, has been taken. -/
def wordTree : Nat → List Lexeme → Lexeme → String → Reader TypeTree
  | 0, _, _, _ => failure
  | fuel + 1, start, first, text => do
    if first.isWordOf keywordTypes then return .keyword text
    else if first.isWord "unique" then
      expectWord "symbol"
      return .keyword (← textSince start)
    else if first.isWord "true" then return .boolean true
    else if first.isWord "false" then return .boolean false
    else if first.isWord "null" then return .null
    else if first.isWord "undefined" then return .undefined
    else if first.isWord "this" then return .other "this type" text
    else if first.isWord "typeof" then
      if ← acceptWord "import" then groupOf "("
      else
        let _ ← name
      queryPath fuel
      return .other "type query" (← textSince start)
    else if first.isWord "import" then
      groupOf "("
      let isMember ← nextIs (·.isMark ".")
      queryPath fuel
      return .other (if isMember then "member expression" else "call expression") (← textSince start)
    else if first.isWordOf ["readonly", "keyof", "infer", "new"] then failure
    else
      let (tree, rest) := dottedName start (.name text) (← get)
      set rest
      appliedTree fuel start tree

/-- A name that starts at `start`, with its type arguments if it has any. -/
def appliedTree : Nat → List Lexeme → TypeTree → Reader TypeTree
  | 0, _, _ => failure
  | fuel + 1, start, tree => do
    if ← nextIs (·.isMark "<") then
      let name ← textSince start
      expect "<"
      return .generic name (← typeArguments fuel)
    else return tree

/-- What follows the first name of a `typeof`: names after points, type arguments and brackets with
a literal or a keyword in them. -/
def queryPath : Nat → Reader Unit
  | 0 => failure
  | fuel + 1 => do
    match ← get with
    | point :: name :: rest =>
      if point.isMark "." && name.isName then
        set rest
        queryPath fuel
      else if point.isMark "<" then
        let _ ← next
        let _ ← typeArguments fuel
        queryPath fuel
      else if point.isMark "[" && !point.startsLine &&
          (name.token.kind == .string || name.token.kind == .number || name.isWordOf keywordTypes)
      then
        set rest
        expect "]"
        queryPath fuel
      else return ()
    | _ => return ()

/-- Types up to the closing angle bracket. -/
def typeArguments : Nat → Reader (List TypeTree)
  | 0 => failure
  | fuel + 1 => do
    let tree ← typeTree fuel false
    if ← accept "," then
      if ← accept ">" then return [tree] else return tree :: (← typeArguments fuel)
    else
      expect ">"
      return [tree]

/-- The elements of a tuple up to the closing bracket. -/
def tupleElements : Nat → Reader (List TypeTree)
  | 0 => failure
  | fuel + 1 => do
    if ← accept "]" then return []
    else
      let tree ← tupleElement fuel
      if ← accept "," then return tree :: (← tupleElements fuel)
      else
        expect "]"
        return [tree]

def tupleElement : Nat → Reader TypeTree
  | 0 => failure
  | fuel + 1 => do
    let start ← get
    let isRest ← accept "..."
    match ← get with
    | name :: second :: third :: rest =>
      if name.isName && second.isMark ":" then
        set (third :: rest)
        let _ ← typeTree fuel false
        return .other "required parameter" (← textSince start)
      else if name.isName && second.isMark "?" && third.isMark ":" && !isRest then
        set rest
        let _ ← typeTree fuel false
        return .other "optional parameter" (← textSince start)
      else plainElement fuel isRest start
    | _ => plainElement fuel isRest start

/-- An element of a tuple without a name. -/
def plainElement : Nat → Bool → List Lexeme → Reader TypeTree
  | 0, _, _ => failure
  | fuel + 1, isRest, start => do
    let tree ← typeTree fuel false
    if isRest then return .other "rest type" (← textSince start)
    else if ← accept "?" then return .other "optional type" (← textSince start)
    else return tree

def templatePieces : Nat → Reader (List TemplatePiece)
  | 0 => failure
  | fuel + 1 => do
    let piece ← templateHole fuel <|> strayHole
    let token := (← next).token
    match token.kind with
    | .templateMiddle =>
      let pieces ← piecesBeforeHole token
      let others ← templatePieces fuel
      return piece :: pieces ++ others
    | .templateTail => return piece :: (← piecesAtEnd token)
    | _ => failure

/-- A hole of a template; an empty one holds a name without characters. -/
def templateHole : Nat → Reader TemplatePiece
  | 0 => failure
  | fuel + 1 => do
    let ends := fun lexeme : Lexeme =>
      lexeme.token.kind == .templateMiddle || lexeme.token.kind == .templateTail
    if ← nextIs ends then return .hole (.name "")
    else
      let tree ← typeTree fuel false
      if ← nextIs ends then return .hole tree else failure

/-- The body of an object type up to the closing brace. A separator may stand before its first
item. -/
def objectBody : Nat → Bool → Reader (List BodyItem)
  | 0, _ => failure
  | fuel + 1, isFirst => do
    match ← get with
    | [] => failure
    | lexeme :: rest =>
      let comments := lexeme.comments.map BodyItem.comment
      if lexeme.isMark "\x7d" then
        set rest
        return comments
      else if isFirst && lexeme.isMarkOf [",", ";"] then
        set rest
        if ← nextIs (·.isMark "\x7d") then failure
        else return comments ++ (← objectBody fuel false)
      else
        let item ← bodyItem fuel
        let trailing := (← bodySeparator).map BodyItem.comment
        let others ← objectBody fuel false
        return comments ++ item :: trailing ++ others

def bodyItem : Nat → Reader BodyItem
  | 0 => failure
  | fuel + 1 => do
    let start ← get
    if ← nextIs (·.isMarkOf ["(", "<"]) then
      callSignature fuel
      return .other "call signature"
    else if opensConstruct start then
      let _ ← acceptWord "abstract"
      expectWord "new"
      callSignature fuel
      return .other "construct signature"
    else
      match indexStart? start with
      | some rest =>
        set rest
        indexItem fuel start
      | none => namedItem fuel

/-- An index signature or a mapped type whose opening bracket has been taken; it starts at
`start`. -/
def indexItem : Nat → List Lexeme → Reader BodyItem
  | 0, _ => failure
  | fuel + 1, start => do
    let _ ← name
    if ← accept ":" then
      let key ← typeTree fuel false
      expect "]"
      mappedAnnotation
      let value ← typeTree fuel true
      return .indexSignature key value
    else
      expectWord "in"
      let _ ← typeTree fuel false
      if ← acceptWord "as" then
        let _ ← typeTree fuel false
      expect "]"
      mappedAnnotation
      let _ ← typeTree fuel true
      return .mappedType (← textSince start)

def namedItem : Nat → Reader BodyItem
  | 0 => failure
  | fuel + 1 => do
    let _ ← acceptModifiers propertyModifiers
    let isModified ← acceptModifiers methodModifiers
    let isStarred ← accept "*"
    let name ← propertyName
    let optional ← accept "?"
    if ← nextIs opensMethod then
      callSignature fuel
      return .other "method signature"
    else if isModified || isStarred then failure
    else if ← accept ":" then return .property name optional (some (← typeTree fuel true))
    else return .property name optional none

def callSignature : Nat → Reader Unit
  | 0 => failure
  | fuel + 1 => do
    if ← nextIs (·.isMark "<") then typeParameters fuel
    expect "("
    parameters fuel
    if ← accept ":" then resultType fuel true

def functionType : Nat → Bool → Reader Unit
  | 0, _ => failure
  | fuel + 1, breakable => do
    if ← nextIs (·.isMark "<") then typeParameters fuel
    expect "("
    parameters fuel
    expect "=>"
    resultType fuel breakable

/-- What a function returns: a type, or what it tells about a parameter. -/
def resultType : Nat → Bool → Reader Unit
  | 0, _ => failure
  | fuel + 1, breakable => do
    match ← get with
    | first :: second :: rest =>
      if first.isWord "asserts" && second.isName && !second.isWordOf ["is", "extends"] then
        set rest
        if ← acceptWord "is" then
          let _ ← typeTree fuel breakable
      else if first.isName && second.isWord "is" && !second.startsLine then
        set rest
        let _ ← typeTree fuel breakable
      else
        let _ ← typeTree fuel breakable
    | _ =>
      let _ ← typeTree fuel breakable

def parameters : Nat → Reader Unit
  | 0 => failure
  | fuel + 1 => do
    if ← accept ")" then return ()
    else
      parameter fuel
      if ← accept "," then parameters fuel else expect ")"

/-- A parameter: a name or a pattern, and its type. -/
def parameter : Nat → Reader Unit
  | 0 => failure
  | fuel + 1 => do
    let _ ← acceptModifiers propertyModifiers
    let _ ← accept "..."
    if ← nextIs (·.isMarkOf ["[", "\x7b"]) then group
    else
      let _ ← name
    let _ ← accept "?"
    if ← accept ":" then
      let _ ← typeTree fuel false

def typeParameters : Nat → Reader Unit
  | 0 => failure
  | fuel + 1 => do
    expect "<"
    typeParameterList fuel

/-- Type parameters up to the closing angle bracket. -/
def typeParameterList : Nat → Reader Unit
  | 0 => failure
  | fuel + 1 => do
    let _ ← acceptWord "const"
    let _ ← name
    if ← acceptWord "extends" then
      let _ ← typeTree fuel false
    if ← accept "=" then
      let _ ← typeTree fuel false
    if ← accept "," then
      if ← accept ">" then return () else typeParameterList fuel
    else expect ">"

end

end TypeSchema.TypeScript.Grammar
