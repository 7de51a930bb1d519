import DocOutline.Syntax.Expression

/-!
# The grammar of statements

A block is the lines from its first one on that are indented at least as far. The productions refer
to the lines of inner blocks through a parameter, and `linesFrom` ties the knot with a bound on the
nesting of blocks. A line that is no statement becomes an error node, and reading goes on with the
next line. At the end of a source there is no next line: an error there that is too deep takes the
place of the file.
-/

namespace DocOutline.Syntax

namespace Statement

open Parse Grammar

/-! ## Lines -/

/-- The first token of the next line, with its indentation. -/
def nextLine? : Parse (Option (Token × Nat)) := do
  match (← get).tokens with
  | t :: _ => return if t.lexeme = .finish then none else t.line.map (t, ·)
  | [] => return none

/-- Takes the comments and hidden newlines before the next line. -/
def extrasBeforeLine : Parse (List Piece) := do
  match (← get).tokens with
  | t :: ts =>
    modify fun cursor => { cursor with tokens := { t with extras := [] } :: ts }
    return extraPieces t
  | [] => return []

/-- Goes to the next line, so that its tokens can be read. What stands before it is taken. -/
def enterLine : Parse (List Piece) := do
  let before ← extrasBeforeLine
  match (← get).tokens with
  | t :: ts => set { tokens := { t with line := none } :: ts, nested := false : Cursor }
  | [] => pure ()
  return before

/-- Whether the next line is indented by at least `indent` and starts with one of these words. -/
def atLineWith (indent : Nat) (ws : List String) : Parse Bool := do
  match ← nextLine? with
  | some (t, k) => return indent ≤ k && ws.any t.spells
  | none => return false

/-- Fails unless the line is read to its end. -/
def lineEnd : Parse Unit := do
  if (← peek?).isSome then failure

/-- A line that is no statement. -/
def errorLine : Parse (List Piece) := do
  return [.ofPieces .error (← many (child (take .token)))]

/-! ## Simple statements -/

section

variable (g : Grammar)

/-- A value on either side of an assignment. -/
def value : Parse Piece := do
  if ← atWord "yield" then yielded g
  else if ← atWord "*" then starred g .listSplat "*"
  else g .expression

/-- Values with commas between them and perhaps behind the last one. -/
def values : Parse (List Piece) := do
  let first ← value g
  let more ← many do
    let comma ← child (word ",")
    return comma ++ (← child (value g))
  return first :: more ++ (← whenever (atWord ",") (child (word ",")))

/-- One value, or a list of values. -/
def valueList : Parse Piece := do
  match ← values g with
  | [p] => return p
  | ps => return .ofPieces .expressionList ps

/-- The operators that change a variable. -/
def updates : List String :=
  ["+=", "-=", "*=", "/=", "@=", "//=", "%=", "**=", ">>=", "<<=", "&=", "^=", "|="]

/-- Values by themselves, or an assignment. -/
def expressionStatement : Parse Piece := do
  let items ← values g
  let target := match items with
    | [p] => p
    | ps => .ofPieces .expressionList ps
  if ← atAny ("=" :: ":" :: updates) then
    let hint ← whenever (atWord ":") do
      let colon ← child (word ":")
      return colon ++ (← childIn .type (g .hint))
    let change ← whenever (atAny updates) do
      let op ← child (anyWord updates)
      return op ++ (← child (valueList g))
    let sources ← many do
      let eq ← child (word "=")
      return eq ++ (← child (valueList g))
    if hint.isEmpty && change.isEmpty && sources.isEmpty then failure
    return .ofPieces .expressionStatement
      [.ofPieces .assignment (target :: hint ++ change ++ sources)]
  else return .ofPieces .expressionStatement items

/-- Whether a simple statement ends here. -/
def atStatementEnd : Parse Bool := do
  match ← peek? with
  | some t => return t.spells ";"
  | none => return true

/-- A keyword with values behind it, if there are any. -/
def keywordValues : Parse Piece := do
  let start ← take .token
  let first ← if ← atStatementEnd then pure [] else child (valueList g)
  let cause ← whenever (atWord "from") do
    let mid ← child (word "from")
    return mid ++ (← child (g .expression))
  return .ofPieces .simpleStatement (start :: first ++ cause)

/-- A statement made of names: everything up to its end belongs to it. -/
def nameStatement : Parse Piece := do
  let start ← take .token
  let token : Parse Piece := do
    if ← atWord ";" then failure
    if ← atWord "(" then inBrackets do
      let opening ← word "("
      let inner ← many do
        if ← atWord ")" then failure
        child (take .token)
      return .ofPieces .expressionList (opening :: inner ++ (← child (word ")")))
    else take .token
  return .ofPieces .simpleStatement (start :: (← many (child token)))

/-- The old forms of `print` and `exec`, which take their values without parentheses. -/
def bareCall : Parse Piece := do
  let start ← take .token
  let target ← whenever (atWord ">>") (child (word ">>"))
  return .ofPieces .simpleStatement (start :: target ++ (← child (valueList g)))

/-- A name for a type. -/
def typeAlias : Parse Piece := do
  let start ← word "type"
  let left ← child (g .hint)
  let eq ← child (word "=")
  return .ofPieces .simpleStatement (start :: left ++ eq ++ (← child (g .hint)))

/-- Reads a statement that has to end here. -/
def whole (p : Parse Piece) : Parse Piece := do
  let piece ← p
  if ← atStatementEnd then return piece else failure

/-- A simple statement. -/
def simple : Parse Piece := do
  if ← atAny ["import", "from", "global", "nonlocal", "pass", "break", "continue"] then
    nameStatement
  else if ← atAny ["return", "del", "raise", "assert"] then keywordValues g
  else if ← atAny ["print", "exec"] then whole (expressionStatement g) <|> bareCall g
  else if ← atWord "type" then whole (expressionStatement g) <|> typeAlias g
  else expressionStatement g

/-- Simple statements up to the end of the line. -/
def simpleLine : Parse (List Piece) := do
  let first ← simple g
  let more ← many do
    let semicolon ← child (word ";")
    return semicolon ++ (← child (simple g))
  let last ← whenever (atWord ";") (child (word ";"))
  lineEnd
  return first :: more ++ last

/-! ## Compound statements -/

variable (lines : Nat → Parse (List Piece)) (indent : Nat)

/-- What a colon introduces: statements on the same line, or a block that is indented further. The
comments before a block stand outside it. -/
def suite (role : Role) : Parse (List Piece) := do
  let empty : Piece := (Piece.ofPieces .block []).inRole role
  match ← nextLine? with
  | some (_, k) =>
    if indent < k then
      let before ← extrasBeforeLine
      return before ++ [(Piece.ofPieces .block (← lines k)).inRole role]
    else return [empty]
  | none =>
    if (← peek?).isSome then childIn role (return .ofPieces .block (← simpleLine g))
    else return [empty]

/-- A colon and what it introduces. -/
def body (role : Role) : Parse (List Piece) := do
  let colon ← child (word ":")
  return colon ++ (← suite g lines indent role)

/-- A class. -/
def classDefinition : Parse Piece := do
  let start ← word "class"
  let title ← childIn .name name
  let types ← whenever (atWord "[") (child (typeParameters g))
  let bases ← whenever (atWord "(") (childIn .superclasses (arguments g))
  return .ofPieces .classDefinition
    (start :: title ++ types ++ bases ++ (← body g lines indent .body))

/-- Reads after `async`, if it stands here. -/
def maybeAsync (w : String) : Parse (List Piece) := do
  if ← atWord "async" then return (← word "async") :: (← child (word w)) else return [← word w]

/-- A function. -/
def functionDefinition : Parse Piece := do
  let start ← maybeAsync "def"
  let title ← childIn .name name
  let types ← whenever (atWord "[") (child (typeParameters g))
  let params ← childIn .parameters (parameters g)
  let result ← whenever (atWord "->") do
    let arrow ← child (word "->")
    return arrow ++ (← childIn .returnType (g .hint))
  return .ofPieces .functionDefinition
    (start ++ title ++ types ++ params ++ result ++ (← body g lines indent .body))

/-- A class or a function. -/
def definition : Parse Piece := do
  if ← atWord "class" then classDefinition g lines indent else functionDefinition g lines indent

/-- A decorator, up to the end of its line. -/
def decorator : Parse Piece := do
  let start ← word "@"
  let subject ← child (g .expression)
  lineEnd
  return .ofPieces .decorator (start :: subject)

/-- A definition with decorators. -/
def decorated : Parse Piece := do
  let first ← decorator g
  let more ← many do
    if ← atLineWith indent ["@"] then
      let before ← enterLine
      return before ++ [← decorator g]
    else failure
  let before ← enterLine
  let subject ← definition g lines indent
  return .ofPieces .decoratedDefinition
    (first :: more ++ before ++ [subject.inRole .definition])

/-- A clause that belongs to the statement before it, such as `else`. Some values may stand between
its keyword and its colon. -/
def clause (ws : List String) : Parse (List Piece) := do
  if ← atLineWith indent ws then
    let before ← enterLine
    let start ← anyWord ws
    let star ← whenever (atWord "*") (child (word "*"))
    let subject ← if ← atWord ":" then pure [] else child (valueList g)
    let main ← body g lines indent .plain
    return before ++ [.ofPieces .clause (start :: star ++ subject ++ main)]
  else failure

/-- A statement with a condition, and its further clauses. -/
def conditional (w : String) (role : Role) (clauses : List String) : Parse Piece := do
  let start ← word w
  let test ← child (g .expression)
  let main ← body g lines indent role
  return .ofPieces .compoundStatement
    (start :: test ++ main ++ (← many (clause g lines indent clauses)))

/-- A loop over values. -/
def forStatement : Parse Piece := do
  let start ← maybeAsync "for"
  let left ← targets g
  let mid ← child (word "in")
  let right ← child (valueList g)
  let main ← body g lines indent .body
  return .ofPieces .compoundStatement
    (start ++ left ++ mid ++ right ++ main ++ (← many (clause g lines indent ["else"])))

/-- A statement with resources. -/
def withStatement : Parse Piece := do
  let start ← maybeAsync "with"
  let items ← child (valueList g)
  return .ofPieces .compoundStatement (start ++ items ++ (← body g lines indent .body))

/-- A statement with handlers. -/
def tryStatement : Parse Piece := do
  let start ← word "try"
  let main ← body g lines indent .body
  return .ofPieces .compoundStatement
    (start :: main ++ (← many (clause g lines indent ["except", "else", "finally"])))

/-- A pattern of a case. -/
def casePattern : Parse Piece := do
  let p ← if ← atWord "*" then starred g .listSplat "*" else binary g
  if ← atWord "as" then
    let mid ← child (word "as")
    return .ofPieces .asPattern (p :: mid ++ (← child name))
  else return p

/-- A case, in a block with this indentation. -/
def caseClause (inner : Nat) : Parse (List Piece) := do
  if ← atLineWith inner ["case"] then
    let before ← enterLine
    let start ← word "case"
    let first ← child (casePattern g)
    let more ← many do
      let comma ← child (word ",")
      return comma ++ (← child (casePattern g))
    let last ← whenever (atWord ",") (child (word ","))
    let guard ← whenever (atWord "if") do
      let mid ← child (word "if")
      return mid ++ (← child (g .expression))
    let main ← body g lines inner .plain
    return before ++ [.ofPieces .clause (start :: first ++ more ++ last ++ guard ++ main)]
  else failure

/-- A statement with cases. -/
def matchStatement : Parse Piece := do
  let start ← word "match"
  let subject ← child (valueList g)
  let colon ← child (word ":")
  match ← nextLine? with
  | some (t, k) =>
    if indent < k && t.spells "case" then
      let before ← extrasBeforeLine
      let cases ← many (caseClause g lines k)
      return .ofPieces .compoundStatement (start :: subject ++ colon ++ before ++
        [(Piece.ofPieces .block cases).inRole .body])
    else failure
  | none => failure

/-- Whether `async` and this keyword, or the keyword alone, stand here. -/
def atMaybeAsync (w : String) : Parse Bool := do
  match ← ahead 2 with
  | a :: rest => return a.spells w || (a.spells "async" && rest.any (·.spells w))
  | [] => return false

/-- A statement, or the simple statements of one line. -/
def statement : Parse (List Piece) := do
  if ← atWord "class" then return [← classDefinition g lines indent]
  if ← atMaybeAsync "def" then return [← functionDefinition g lines indent]
  if ← atWord "@" then return [← decorated g lines indent]
  if ← atWord "if" then return [← conditional g lines indent "if" .plain ["elif", "else"]]
  if ← atWord "while" then return [← conditional g lines indent "while" .body ["else"]]
  if ← atMaybeAsync "for" then return [← forStatement g lines indent]
  if ← atMaybeAsync "with" then return [← withStatement g lines indent]
  if ← atWord "try" then return [← tryStatement g lines indent]
  if ← atWord "match" then
    (do return [← matchStatement g lines indent]) <|> simpleLine g
  else simpleLine g

/-- One line of a block, with everything that belongs to its statement. -/
def line : Parse (List Piece) := do
  match ← nextLine? with
  | some (_, k) =>
    if k < indent then failure
    let before ← enterLine
    let main ← statement g lines indent <|> errorLine
    return before ++ main
  | none => failure

end

/-- The lines of a block with this indentation, with at most `fuel` blocks inside each other. -/
def linesFrom (g : Grammar) : (fuel : Nat) → Nat → Parse (List Piece)
  | 0, _ => failure
  | fuel + 1, indent => many (line g (linesFrom g fuel) indent)

end Statement

/-! ## Sources that break off -/

/-- How far back a place to go on is looked for behind an error at the end of a source. -/
def recoveryDepth : Nat := 16

/-- The brackets that these nodes leave open. -/
def openBrackets (ts : List SyntaxTree) : Nat :=
  ts.foldl (fun n t =>
    if ["(", "[", "\x7b"].any (·.toList = t.text) then n + 1
    else if [")", "]", "\x7d"].any (·.toList = t.text) then n - 1
    else n) 0

namespace SyntaxTree

mutual

/-- What is left of a node in which the source breaks off, that is, a node that ends with an error
too deep to go on from. The nodes around the error are unfinished, so only their children are left,
and these play no part in them any more. -/
def brokenOff? : SyntaxTree → Option (List SyntaxTree)
  | node k _ _ cs =>
    if k = .error && recoveryDepth ≤ openBrackets cs then some cs else lastBrokenOff? cs

/-- What is left of nodes side by side if the source breaks off in the last one. -/
def lastBrokenOff? : List SyntaxTree → Option (List SyntaxTree)
  | [] => none
  | [t] => brokenOff? t
  | t :: u :: ts => (lastBrokenOff? (u :: ts)).map (t.withRole .plain :: ·)

end

end SyntaxTree

/-- The tree of a source with these lines, and these comments behind them. The root is a file or, if
the source breaks off, an error. -/
def rootOf (lines comments : List Piece) : SyntaxTree :=
  let file := Piece.treeOf .sourceFile (lines ++ comments)
  match SyntaxTree.lastBrokenOff? (lines.map (·.tree)) with
  | some parts => .node .error .plain file.text (parts ++ comments.map (·.tree))
  | none => file

/-- The tree of a source. -/
def parse (source : Text) : SyntaxTree :=
  let tokens := Token.scan source
  let bound := 4 * tokens.length + 8
  let file : Parse SyntaxTree := do
    let lines ← Statement.linesFrom (grammar bound) bound 0
    return rootOf lines (← Statement.extrasBeforeLine)
  match file { tokens, nested := false } with
  | some (tree, _) => tree
  | none => .leaf .error source

end DocOutline.Syntax
