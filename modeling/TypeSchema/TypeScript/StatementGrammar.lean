import TypeSchema.TypeScript.TypeGrammar

/-!
The grammar of statements. Declarations of types are read; of other statements only the extent is,
the content of their brackets being looked at no further.
-/

namespace TypeSchema.TypeScript.Grammar

open Reader

/-- The words that can stand before an operand, some of them in the type of a function's result
only. -/
def operatorWords : List String :=
  ["typeof", "void", "delete", "await", "new", "yield", "async", "throw", "keyof", "readonly",
    "unique", "asserts"]

/-- The words that can stand between operands, the last in the type of a function's result only. -/
def infixWords : List String :=
  ["in", "instanceof", "is"]

/-- The marks of which the operators between two operands are made. -/
def operatorMarks : List String :=
  ["+", "-", "*", "/", "%", "<", ">", "=", "&", "|", "^", "?", ":", ".", "=>", "!"]

def opensGroup (lexeme : Lexeme) : Bool :=
  lexeme.isMarkOf ["(", "[", "\x7b"] || lexeme.token.kind == .templateHead

def startsOperand (lexeme : Lexeme) : Bool :=
  opensGroup lexeme || lexeme.isMarkOf ["+", "-", "!", "~", "++", "--"] ||
    lexeme.token.kind ∈ [.word, .number, .string, .regex, .template]

def startsWithOperator : List Lexeme → Bool
  | first :: second :: _ =>
    first.isMarkOf ["+", "-", "!", "~", "++", "--", "@"] ||
      (first.isWord "async" && second.isName && !second.startsLine) ||
      (first.isWordOf operatorWords && !first.isWord "async" && startsOperand second)
  | _ => false

/-- What follows the marks that stand directly after an operator's first and belong to it. -/
def afterOperator : List Lexeme → List Lexeme
  | lexeme :: rest =>
    if lexeme.before.isEmpty && lexeme.isMarkOf ["=", "&", "|", "?", "*", ">", "."] then
      afterOperator rest
    else lexeme :: rest
  | [] => []

/-- What follows the head of a class, from its body on. -/
def toClassBody : Nat → List Lexeme → Option (List Lexeme)
  | 0, _ => none
  | _, [] => none
  | fuel + 1, lexeme :: rest =>
    if lexeme.isMark "\x7b" then some (lexeme :: rest)
    else if lexeme.isMark "<" then
      (afterAngles 0 [] (lexeme :: rest)).bind (toClassBody fuel)
    else if lexeme.isMarkOf ["(", "["] then
      (afterGroup [] (lexeme :: rest)).bind (toClassBody fuel)
    else if lexeme.isMarkOf [".", ","] || lexeme.isName then toClassBody fuel rest
    else none

/-- A class after the word for it. -/
def classRest : Reader Unit := do
  let start ← get
  skip (toClassBody (start.length + 1))
  group

/-- A function after the word for it, up to its parameters and the type of its result. -/
def functionHead (fuel : Nat) : Reader Unit := do
  let _ ← accept "*"
  let _ ← acceptIf (·.isName)
  if ← nextIs (·.isMark "<") then skip (afterAngles 0 [])
  groupOf "("
  if ← accept ":" then resultType fuel true

/-- Takes what ends a statement: a semicolon, or nothing before a closing brace, at the start of a
line or at the end of the source. -/
def statementEnd : Reader Unit := do
  if ← accept ";" then return ()
  else
    match ← get with
    | [] => return ()
    | lexeme :: _ => if lexeme.isMark "\x7d" || lexeme.endsLine then return () else failure

mutual

/-- An expression; `inList` tells that it ends before a comma. -/
def expression : Nat → Bool → Reader Unit
  | 0, _ => failure
  | fuel + 1, inList => do
    let start ← get
    if startsWithOperator start then
      let _ ← next
      expression fuel inList
    else if ← nextIs (·.isMark "<") then
      skip (afterAngles 0 [])
      expression fuel inList
    else if ← acceptWord "function" then
      functionHead fuel
      groupOf "\x7b"
      expressionRest fuel inList
    else if ← acceptWord "class" then
      classRest
      expressionRest fuel inList
    else if ← nextIs opensGroup then
      group
      expressionRest fuel inList
    else
      let _ ← expectIf startsOperand
      expressionRest fuel inList

/-- What follows an operand. -/
def expressionRest : Nat → Bool → Reader Unit
  | 0, _ => failure
  | fuel + 1, inList => do
    match ← get with
    | [] => return ()
    | lexeme :: rest =>
      if lexeme.isMarkOf [";", ")", "]", "\x7d"] then return ()
      else if lexeme.isMark "," then
        if inList then return ()
        else
          set rest
          expression fuel inList
      else if lexeme.isMarkOf ["(", "["] || lexeme.token.kind == .templateHead then
        group
        expressionRest fuel inList
      else if lexeme.token.kind == .template then
        set rest
        expressionRest fuel inList
      else if lexeme.isMarkOf ["++", "--"] then
        if lexeme.startsLine then return ()
        else
          set rest
          expressionRest fuel inList
      else if lexeme.isMark "!" && !(rest.head?.any fun next => next.isMark "=" && next.before.isEmpty)
      then
        if lexeme.startsLine then return ()
        else
          set rest
          expressionRest fuel inList
      else if lexeme.isWordOf ["as", "satisfies"] && !lexeme.startsLine then
        set rest
        let _ ← typeTree fuel true
        expressionRest fuel inList
      else if lexeme.isWordOf infixWords || lexeme.isMarkOf operatorMarks then
        set (afterOperator rest)
        expression fuel inList
      else if lexeme.startsLine then return ()
      else failure

end

/-- The variables of a declaration: names or patterns with their types and values. -/
def variableList : Nat → Reader Unit
  | 0 => failure
  | fuel + 1 => do
    if ← nextIs (·.isMarkOf ["[", "\x7b"]) then group
    else
      let _ ← name
    let _ ← accept "!"
    if ← accept ":" then
      let _ ← typeTree fuel true
    if ← accept "=" then expression fuel true
    if ← accept "," then variableList fuel

/-- The source that an import or an export names, with the attributes after it. -/
def moduleSource : Reader Unit := do
  let _ ← expectIf (·.token.kind == .string)
  if ← acceptIf fun lexeme => lexeme.isWordOf ["with", "assert"] && !lexeme.startsLine then
    groupOf "\x7b"

/-- What an import names, up to its end. -/
def importRest : Nat → Reader Unit
  | 0 => failure
  | fuel + 1 => do
    if ← nextIs (·.token.kind == .string) then
      moduleSource
      statementEnd
    else if ← accept "=" then
      expression fuel false
      statementEnd
    else if ← nextIs (·.isMark "\x7b") then
      group
      importRest fuel
    else
      let _ ← expectIf fun lexeme => lexeme.isName || lexeme.isMarkOf ["*", ","]
      importRest fuel

/-- The source of an export, which `required` tells to stand there. -/
def exportSource (required : Bool) : Reader Unit := do
  if ← acceptWord "from" then moduleSource
  else if required then failure
  statementEnd

/-- Names with points between them. -/
def namePath : Nat → Reader Unit
  | 0 => failure
  | fuel + 1 => do
    let _ ← name
    if ← accept "." then namePath fuel

/-- The bases of an interface; a comment before one counts as a base. -/
def baseList : Nat → Reader (List TypeTree)
  | 0 => failure
  | fuel + 1 => do
    let start ← get
    let first ← expectIf (·.isName)
    let comments := first.comments.map (TypeTree.other "comment")
    let (tree, rest) := dottedName start (.name (String.ofList first.token.text)) (← get)
    set rest
    let base ← appliedTree fuel start tree
    match ← get with
    | comma :: rest =>
      if comma.isMark "," then
        set rest
        let others ← baseList fuel
        return comments ++ base :: comma.comments.map (TypeTree.other "comment") ++ others
      else return comments ++ [base]
    | [] => failure

/-- A type alias after the word for it. -/
def aliasRest (fuel : Nat) : Reader DeclarationTree := do
  let name ← name
  if ← nextIs (·.isMark "<") then typeParameters fuel
  expect "="
  let tree ← typeTree fuel true
  statementEnd
  return .typeAlias name tree

/-- An interface after the word for it. -/
def interfaceRest (fuel : Nat) : Reader DeclarationTree := do
  let name ← name
  if ← nextIs (·.isMark "<") then typeParameters fuel
  let bases ← if ← acceptWord "extends" then baseList fuel else pure []
  expect "\x7b"
  return .interface name bases (← objectBody fuel true)

/-- Whether lexemes start with a word and then, in the same line, with a lexeme of some sort. -/
def startsWith (word : String) (p : Lexeme → Bool) : List Lexeme → Bool
  | first :: second :: _ => first.isWord word && p second && !second.startsLine
  | _ => false

def namesModule (lexeme : Lexeme) : Bool :=
  lexeme.isName || lexeme.token.kind == .string

def startsDeclaration (lexemes : List Lexeme) : Bool :=
  startsWith "type" (·.isName) lexemes || startsWith "declare" (·.isName) lexemes ||
    startsWith "abstract" (·.isWord "class") lexemes ||
    startsWith "async" (·.isWord "function") lexemes ||
    startsWith "namespace" namesModule lexemes || startsWith "module" namesModule lexemes ||
    startsWith "global" (·.isMark "\x7b") lexemes ||
    lexemes.head?.any fun lexeme =>
      lexeme.isWordOf ["interface", "class", "function", "enum", "const", "let", "var", "import"]

/-- A declaration; the tree is that of a declaration of a type. -/
def declaration : Nat → Reader (Option DeclarationTree)
  | 0 => failure
  | fuel + 1 => do
    let start ← get
    if startsWith "type" (·.isName) start then
      let _ ← next
      return some (← aliasRest fuel)
    else if ← acceptWord "interface" then return some (← interfaceRest fuel)
    else if startsWith "declare" (·.isName) start then
      let _ ← next
      let _ ← declaration fuel
      return none
    else
      if startsWith "abstract" (·.isWord "class") start then
        let _ ← next
        let _ ← next
        classRest
      else if ← acceptWord "class" then classRest
      else if (← acceptWord "function") || startsWith "async" (·.isWord "function") start then
        if startsWith "async" (·.isWord "function") start then
          let _ ← next
          let _ ← next
        functionHead fuel
        if ← nextIs (·.isMark "\x7b") then group else statementEnd
      else if ← acceptWord "enum" then
        let _ ← name
        groupOf "\x7b"
      else if startsWith "const" (·.isWord "enum") start then
        let _ ← next
        let _ ← next
        let _ ← name
        groupOf "\x7b"
      else if ← acceptIf (·.isWordOf ["const", "let", "var"]) then
        variableList fuel
        statementEnd
      else if ← acceptWord "import" then importRest fuel
      else if startsWith "namespace" namesModule start || startsWith "module" namesModule start then
        let _ ← next
        if ← acceptIf (·.token.kind == .string) then pure () else namePath fuel
        if ← nextIs (·.isMark "\x7b") then group else statementEnd
      else if startsWith "global" (·.isMark "\x7b") start then
        let _ ← next
        group
      else failure
      return none

/-- An export after the word for it. -/
def exportRest : Nat → Reader (Option DeclarationTree)
  | 0 => failure
  | fuel + 1 => do
    let start ← get
    if startsWith "type" (·.isMarkOf ["\x7b", "*"]) start then
      let _ ← next
      exportRest fuel
    else if ← nextIs (·.isMark "\x7b") then
      group
      exportSource false
      return none
    else if ← accept "*" then
      if ← acceptWord "as" then
        let _ ← expectIf namesModule
      exportSource true
      return none
    else if ← accept "=" then
      expression fuel false
      statementEnd
      return none
    else if startsWith "as" (·.isWord "namespace") start then
      let _ ← next
      let _ ← next
      let _ ← name
      statementEnd
      return none
    else if ← acceptWord "default" then
      if startsDeclaration (← get) then declaration fuel
      else
        expression fuel false
        statementEnd
        return none
    else declaration fuel

/-- A statement; the tree is that of a declaration of a type that is not inside of another
statement. -/
def statement : Nat → Reader (Option DeclarationTree)
  | 0 => failure
  | fuel + 1 => do
    let start ← get
    if ← accept ";" then return none
    else if ← nextIs (·.isMark "\x7b") then
      group
      return none
    else if ← accept "@" then
      namePath fuel
      if ← nextIs (·.isMark "(") then group
      let _ ← statement fuel
      return none
    else if ← acceptWord "export" then exportRest fuel
    else if startsWith "import" (·.isMarkOf ["(", "."]) start then expressionStatement fuel
    else if startsDeclaration start then declaration fuel
    else if ← acceptIf (·.isWordOf ["if", "for", "while", "with"]) then
      let _ ← acceptWord "await"
      groupOf "("
      let _ ← statement fuel
      if ← acceptWord "else" then
        let _ ← statement fuel
      return none
    else if ← acceptWord "do" then
      let _ ← statement fuel
      expectWord "while"
      groupOf "("
      let _ ← accept ";"
      return none
    else if ← acceptWord "try" then
      groupOf "\x7b"
      if ← acceptWord "catch" then
        if ← nextIs (·.isMark "(") then group
        groupOf "\x7b"
      if ← acceptWord "finally" then groupOf "\x7b"
      return none
    else if ← acceptWord "switch" then
      groupOf "("
      groupOf "\x7b"
      return none
    else if ← acceptIf (·.isWordOf ["return", "break", "continue", "debugger"]) then
      if ← nextIs fun lexeme => startsOperand lexeme && !lexeme.startsLine then expression fuel false
      statementEnd
      return none
    else
      match start with
      | label :: colon :: rest =>
        if label.isName && colon.isMark ":" then
          set rest
          let _ ← statement fuel
          return none
        else expressionStatement fuel
      | _ => expressionStatement fuel
where
  /-- An expression up to the end of the statement. -/
  expressionStatement (fuel : Nat) : Reader (Option DeclarationTree) := do
    expression fuel false
    statementEnd
    return none

/-- The declarations of types among statements, up to the end of the source. -/
def statements : Nat → Reader (List DeclarationTree)
  | 0 => failure
  | fuel + 1 => do
    if (← get).isEmpty then return []
    else
      let first ← statement fuel
      let others ← statements fuel
      return first.toList ++ others

end TypeSchema.TypeScript.Grammar
