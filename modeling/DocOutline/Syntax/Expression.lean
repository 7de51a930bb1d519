import DocOutline.Syntax.Parse

/-!
# The grammar of expressions

Every production is a reader that refers to the others through a `Grammar`, so none of them is
recursive by itself. `grammar` ties the knot with a bound on the nesting of productions.

Keywords are told from names by their place: a keyword that cannot stand where it is found is an
identifier.
-/

namespace DocOutline.Syntax

/-- What the productions refer to each other for. -/
inductive Goal where
  | expression
  | negation
  | unary
  | splat
  | hint
  | typeArgument
  | pattern
  deriving DecidableEq, Repr

/-- The productions by their goals. -/
abbrev Grammar := Goal → Parse Piece

namespace Grammar

open Parse

variable (g : Grammar)

/-! ## Brackets -/

/-- Whether a comprehension goes on here. -/
def atFor : Parse Bool := do
  match ← ahead 2 with
  | [a, b] => return a.spells "for" || (a.spells "async" && b.spells "for")
  | _ => return false

/-- A starred expression. -/
def starred (kind : Kind) (star : String) (h : kind.IsInner := by exact True.intro) :
    Parse Piece := do
  return .ofPieces kind ((← word star) :: (← child (g .expression))) h

/-- What follows `yield`: a source to draw from, or values. -/
def yieldValues : Parse (List Piece) := do
  if ← atWord "from" then
    return (← child (word "from")) ++ (← child (g .expression))
  else
    match ← peek? with
    | none => return []
    | some t =>
      if [")", "]", "\x7d", "=", ";", ":"].any t.spells then return []
      else
        let first ← child (g .expression)
        let more ← many do
          let comma ← child (word ",")
          return comma ++ (← child (g .expression))
        return first ++ more ++ (← whenever (atWord ",") (child (word ",")))

/-- A `yield` expression. -/
def yielded : Parse Piece := do
  return .ofPieces .yieldExpression ((← word "yield") :: (← yieldValues g))

/-- An element of a list, a tuple or a set. -/
def element : Parse Piece := do
  if ← atWord "*" then starred g .listSplat "*"
  else if ← atWord "yield" then yielded g
  else g .expression

/-- Binary operators from the tightest to the loosest. -/
def binaryLevels : List (List String) :=
  [["*", "@", "/", "%", "//"], ["+", "-"], ["<<", ">>"], ["^"], ["&"], ["|"]]

/-- Operands with binary operators between them. -/
def binary : Parse Piece :=
  binaryLevels.foldl (fun operand ops => chain .binaryOperator ops operand) (g .unary)

/-- A comparison operator, of one or two words. -/
def comparator : Parse (List Piece) := do
  match ← ahead 2 with
  | a :: rest =>
    if a.spells "not" then
      if rest.any (·.spells "in") then return (← child (word "not")) ++ (← child (word "in"))
      else failure
    else if a.spells "is" && rest.any (·.spells "not") then
      return (← child (word "is")) ++ (← child (word "not"))
    else child (anyWord ["<", "<=", "==", "!=", ">=", ">", "<>", "in", "is"])
  | [] => failure

/-- A comparison, or a single operand. -/
def comparison : Parse Piece := do
  let first ← binary g
  let more ← many do
    let op ← comparator
    return op ++ (← child (binary g))
  return if more.isEmpty then first else .ofPieces .comparisonOperator (first :: more)

/-- A negation, or a comparison. -/
def negation : Parse Piece := do
  if ← atWord "not" then
    return .ofPieces .notOperator ((← word "not") :: (← childIn .argument (g .negation)))
  else comparison g

/-- Negations joined by `and` and `or`. -/
def disjunction : Parse Piece :=
  chain .booleanOperator ["or"] (chain .booleanOperator ["and"] (g .negation))

/-- A target of a loop, or a tuple of targets without parentheses. -/
def targets : Parse (List Piece) := do
  let target : Parse Piece := do if ← atWord "*" then starred g .listSplat "*" else binary g
  let first ← child target
  let more ← many do
    let comma ← child (word ",")
    if ← atWord "in" then failure
    return comma ++ (← child target)
  return first ++ more ++ (← whenever (atWord ",") (child (word ",")))

/-- A value without a condition of its own. -/
def unconditional : Parse Piece := do
  if ← atWord "lambda" then g .expression else disjunction g

/-- A `for` clause of a comprehension. -/
def forClause : Parse Piece := do
  let start ← if ← atWord "async" then
      pure ((← word "async") :: (← child (word "for")))
    else pure [← word "for"]
  let left ← targets g
  let mid ← child (word "in")
  let right ← child (unconditional g)
  let more ← many do
    let comma ← child (word ",")
    return comma ++ (← child (unconditional g))
  return .ofPieces .forInClause (start ++ left ++ mid ++ right ++ more)

/-- An `if` clause of a comprehension. -/
def ifClause : Parse Piece := do
  return .ofPieces .ifClause ((← word "if") :: (← child (unconditional g)))

/-- The clauses of a comprehension and its closing bracket. -/
def clausesTo (close : String) : Parse (List Piece) := do
  let clauses ← many do
    if ← atFor then child (forClause g) else child (ifClause g)
  return clauses ++ (← child (word close))

/-- A parenthesis: a tuple, a generator, or an expression by itself. -/
def parenthesis : Parse Piece := inBrackets do
  let start ← word "("
  let before ← extras
  if ← atWord ")" then return .ofPieces .tuple (start :: before ++ [← word ")"])
  let first ← element g
  let opened := start :: before ++ [first]
  if ← atFor then return .ofPieces .generatorExpression (opened ++ (← clausesTo g ")"))
  let behind ← extras
  if ← atWord "," then
    let comma ← word ","
    return .ofPieces .tuple (opened ++ behind ++ comma :: (← itemsTo (element g) ")"))
  return .ofPieces .parenthesizedExpression (opened ++ behind ++ [← word ")"])

/-- A list or a list comprehension. -/
def listDisplay : Parse Piece := inBrackets do
  let start ← word "["
  let before ← extras
  if ← atWord "]" then return .ofPieces .list (start :: before ++ [← word "]"])
  let first ← element g
  let opened := start :: before ++ [first]
  if ← atFor then return .ofPieces .listComprehension (opened ++ (← clausesTo g "]"))
  return .ofPieces .list (opened ++ (← moreItemsTo (element g) "]"))

/-- A key and its value. -/
def pairOf (key : Piece) : Parse Piece := do
  let colon ← child (word ":")
  return .ofPieces .pair (key :: colon ++ (← child (g .expression)))

/-- An item of a dictionary. -/
def dictionaryItem : Parse Piece := do
  if ← atWord "**" then starred g .dictionarySplat "**" else pairOf g (← g .expression)

/-- A dictionary, a set, or a comprehension of either. -/
def braces : Parse Piece := inBrackets do
  let start ← word "\x7b"
  let before ← extras
  if ← atWord "\x7d" then return .ofPieces .dictionary (start :: before ++ [← word "\x7d"])
  if ← atWord "**" then
    let first ← dictionaryItem g
    return .ofPieces .dictionary
      (start :: before ++ first :: (← moreItemsTo (dictionaryItem g) "\x7d"))
  let first ← element g
  if ← atWord ":" then
    let opened := start :: before ++ [← pairOf g first]
    if ← atFor then return .ofPieces .dictionaryComprehension (opened ++ (← clausesTo g "\x7d"))
    return .ofPieces .dictionary (opened ++ (← moreItemsTo (dictionaryItem g) "\x7d"))
  let opened := start :: before ++ [first]
  if ← atFor then return .ofPieces .setComprehension (opened ++ (← clausesTo g "\x7d"))
  return .ofPieces .set (opened ++ (← moreItemsTo (element g) "\x7d"))

/-! ## Atoms and what follows them -/

/-- One string, or several in a row. -/
def strings : Parse Piece := do
  let part : Parse Piece := do
    match ← peek? with
    | some t => if t.lexeme = .string then take .string else failure
    | none => failure
  let first ← part
  let more ← many (child part)
  return if more.isEmpty then first else .ofPieces .concatenatedString (first :: more)

/-- The kind of a name that stands for a value. -/
def nameKind (text : Text) : Kind :=
  if text = "True" then .trueLiteral
  else if text = "False" then .falseLiteral
  else if text = "None" then .noneLiteral
  else .identifier

theorem isInner_nameKind (text : Text) : (nameKind text).IsInner := by
  unfold nameKind
  repeat' split
  all_goals exact True.intro

/-- An atom. -/
def atom : Parse Piece := do
  let some t ← peek? | failure
  match t.lexeme with
  | .integer => take .integer
  | .float => take .float
  | .string => strings
  | .name => if ["not", "lambda"].any t.spells then failure else
    take (nameKind t.text) (isInner_nameKind t.text)
  | .symbol =>
    if t.spells "(" then parenthesis g
    else if t.spells "[" then listDisplay g
    else if t.spells "\x7b" then braces g
    else if t.spells "..." then take .ellipsis
    else if t.spells "*" then g .splat
    else failure
  | _ => failure

/-- An argument of a call. -/
def argument : Parse Piece := do
  if ← atWord "*" then starred g .listSplat "*"
  else if ← atWord "**" then starred g .dictionarySplat "**"
  else if ← atNameThen "=" then
    let key ← name
    let eq ← child (word "=")
    let value ← childIn .value (g .expression)
    return .ofPieces .keywordArgument (key.inRole .name :: eq ++ value)
  else g .expression

/-- The arguments of a call: a list, or a generator by itself. -/
def arguments : Parse Piece := inBrackets do
  let start ← word "("
  let before ← extras
  if ← atWord ")" then return .ofPieces .argumentList (start :: before ++ [← word ")"])
  let first ← argument g
  let opened := start :: before ++ [first]
  if ← atFor then return .ofPieces .generatorExpression (opened ++ (← clausesTo g ")"))
  return .ofPieces .argumentList (opened ++ (← moreItemsTo (argument g) ")"))

/-- A bound of a slice, if there is one. -/
def sliceBound : Parse (List Piece) := do
  if ← atAny [":", ",", "]"] then return [] else child (g .expression)

/-- A subscript: an expression or a slice. -/
def subscriptItem : Parse Piece := do
  let start ← if ← atWord ":" then pure [] else pure [← element g]
  if ← atWord ":" then
    let colon ← child (word ":")
    let stop ← sliceBound g
    let step ← whenever (atWord ":") do
      let colon ← child (word ":")
      return colon ++ (← sliceBound g)
    return .ofPieces .slice (start ++ colon ++ stop ++ step)
  else
    match start with
    | [p] => return p
    | _ => failure

/-- The subscripts of a value, with their brackets. -/
def subscripts (value : Piece) (before : List Piece) : Parse Piece := inBrackets do
  let start ← word "["
  let item : Parse Piece := return (← subscriptItem g).inRole .subscript
  return .ofPieces .subscript
    (value.inRole .value :: before ++ start :: (← itemsTo item "]"))

/-- An attribute, a call or a subscript of what was read last. -/
def trailer (p : Piece) : Parse Piece := do
  let before ← extras
  if ← atWord "." then
    let dot ← word "."
    let attr ← childIn .attribute name
    return .ofPieces .attribute (p.inRole .object :: before ++ dot :: attr)
  else if ← atWord "(" then
    let args ← arguments g
    return .ofPieces .call (p.inRole .function :: before ++ [args.inRole .arguments])
  else subscripts g p before

/-- All attributes, calls and subscripts of what was read last. -/
def trailersOf (p : Piece) : (fuel : Nat) → Parse Piece
  | 0 => return p
  | fuel + 1 => do
    if ← atAny [".", "(", "["] then trailersOf (← trailer g p) fuel else return p

/-- An atom with its attributes, calls and subscripts. -/
def primary : Parse Piece := do
  let p ← atom g
  if ← atAny [".", "(", "["] then trailersOf g p (← get).tokens.length else return p

/-- A starred name with its attributes, calls and subscripts: a value to spread, or a parameter that
takes all the arguments that are left. -/
def splat (kind : Kind) (star : String) (h : kind.IsInner := by exact True.intro) :
    Parse Piece := do
  let start ← word star
  let target ← child do
    let p ← name
    trailersOf g p (← get).tokens.length
  return .ofPieces kind (start :: target) h

/-- A primary, or a power. -/
def power : Parse Piece := do
  let base ← primary g
  if ← atWord "**" then
    let op ← childIn .operator (word "**")
    return .ofPieces .binaryOperator (base :: op ++ (← child (g .unary)))
  else return base

/-- Whether `await` is followed by an operand. -/
def atAwait : Parse Bool := do
  match ← ahead 2 with
  | [a, b] =>
    let isOperator := ["in", "is", "and", "or", "not", "if", "else", "for", "as"].any b.spells
    let opens := b.lexeme != .symbol || ["(", "[", "\x7b", "..."].any b.spells
    return a.spells "await" && opens && !isOperator
  | _ => return false

/-- A signed or awaited operand, or a power. -/
def unary : Parse Piece := do
  if ← atAny ["-", "+", "~"] then
    let op ← anyWord ["-", "+", "~"]
    return .ofPieces .unaryOperator (op.inRole .operator :: (← childIn .argument (g .unary)))
  else if ← atAwait then
    return .ofPieces .awaitExpression ((← word "await") :: (← child (g .unary)))
  else power g

/-! ## Types -/

/-- Names that are also keywords, and do not start a generic type. -/
def softKeywords : List String := ["print", "exec", "async", "await", "type", "match"]

/-- Words that are no names at the start of an expression. -/
def valueWords : List String := ["not", "lambda", "True", "False", "None"]

/-- Whether a generic type starts here. -/
def atGeneric : Parse Bool := do
  match ← ahead 2 with
  | [a, b] =>
    return a.lexeme = .name && b.spells "[" && !(softKeywords ++ valueWords).any a.spells
  | _ => return false

/-- Whether a starred name stands here that is not subscripted or called. -/
def atSplatType : Parse Bool := do
  match ← ahead 3 with
  | a :: b :: rest =>
    return (a.spells "*" || a.spells "**") && b.lexeme = .name &&
      !rest.any fun c => ["[", "("].any c.spells
  | _ => return false

/-- A type argument, perhaps with a constraint, which may have one in turn. -/
def typeArgument : Parse Piece := do
  let first ← g .hint
  if ← atWord ":" then
    let colon ← child (word ":")
    let bound ← child (g .typeArgument)
    return .ofPieces .typeHint [.ofPieces .constrainedType (first :: colon ++ bound)]
  else return first

/-- Type arguments in brackets. -/
def typeParameters : Parse Piece := inBrackets do
  let start ← word "["
  return .ofPieces .typeParameter (start :: (← itemsTo (g .typeArgument) "]"))

/-- The start of a type: a starred name, a generic type, or an expression. -/
def hintStart : Parse Piece := do
  if ← atSplatType then
    let star ← anyWord ["*", "**"]
    return .ofPieces .splatType (star :: (← child name))
  else if ← atGeneric then
    let head ← name
    return .ofPieces .genericType (head :: (← child (typeParameters g)))
  else g .expression

/-- Members of a type that is no expression. -/
def membersOf (p : Piece) : (fuel : Nat) → Parse Piece
  | 0 => return p
  | fuel + 1 => do
    if ← atWord "." then
      let dot ← child (word ".")
      let member ← child name
      membersOf (.ofPieces .typeHint [.ofPieces .memberType (p :: dot ++ member)]) fuel
    else return p

/-- A type without alternatives. -/
def hintOperand : Parse Piece := do
  let start ← hintStart g
  membersOf (.ofPieces .typeHint [start]) (← get).tokens.length

/-- Alternatives of a type that is no expression. -/
def alternativesOf (p : Piece) : (fuel : Nat) → Parse Piece
  | 0 => return p
  | fuel + 1 => do
    if ← atWord "|" then
      let bar ← child (word "|")
      let other ← child (hintOperand g)
      alternativesOf (.ofPieces .typeHint [.ofPieces .unionType (p :: bar ++ other)]) fuel
    else return p

/-- A type. -/
def hint : Parse Piece := do
  let p ← hintOperand g
  alternativesOf g p (← get).tokens.length

/-! ## Parameters -/

/-- Names in parentheses in place of a parameter. -/
def pattern : Parse Piece := do
  if ← atWord "(" then inBrackets do
    let start ← word "("
    return .ofPieces .tuplePattern (start :: (← itemsTo (g .pattern) ")"))
  else name

/-- The type behind a parameter's name. -/
def parameterType : Parse (List Piece) := do
  let colon ← child (word ":")
  return colon ++ (← childIn .type (g .hint))

/-- The value behind a parameter's name. -/
def parameterValue : Parse (List Piece) := do
  let eq ← child (word "=")
  return eq ++ (← childIn .value (g .expression))

/-- A parameter; `typed` says that it may have a type. -/
def parameter (typed : Bool) : Parse Piece := do
  if ← atWord "/" then return .ofPieces .positionalSeparator [← word "/"]
  if ← atAny ["*", "**"] then
    if ← atWord "**" then finishSplat (← splat g .dictionarySplatPattern "**")
    else
      match ← ahead 2 with
      | [_, t] =>
        if t.lexeme = .name then finishSplat (← splat g .listSplatPattern "*")
        else return .ofPieces .keywordSeparator [← word "*"]
      | _ => return .ofPieces .keywordSeparator [← word "*"]
  else
    let target ← g .pattern
    let isTyped := typed && (← atWord ":")
    let type ← whenever (pure isTyped) (parameterType g)
    let hasValue ← atWord "="
    let value ← whenever (pure hasValue) (parameterValue g)
    match isTyped, hasValue with
    | false, false => return target
    | true, false => return .ofPieces .typedParameter (target :: type)
    | false, true => return .ofPieces .defaultParameter (target.inRole .name :: value)
    | true, true => return .ofPieces .typedDefaultParameter (target.inRole .name :: type ++ value)
where
  /-- A starred parameter, with its type if there is one. -/
  finishSplat (p : Piece) : Parse Piece := do
    if typed && (← atWord ":") then return .ofPieces .typedParameter (p :: (← parameterType g))
    else return p

/-- The parameters of a function. A colon in place of the closing parenthesis shows that it is
missing. -/
def parameters : Parse Piece := inBrackets do
  let start ← word "("
  let finish : Parse Piece := do
    if ← atWord ")" then word ")"
    else if ← atWord ":" then return .leaf [] .missing []
    else failure
  let items ← itemsUpTo (parameter g true) finish (atAny [")", ":"]) (← get).tokens.length
  return .ofPieces .parameters (start :: items)

/-- A function without a name. -/
def lambdaExpression : Parse Piece := do
  let start ← word "lambda"
  let before ← extras
  if ← atWord ":" then
    let colon ← word ":"
    return .ofPieces .lambdaExpression (start :: before ++ colon :: (← child (g .expression)))
  else
    let first ← parameter g false
    let more ← many do
      let comma ← child (word ",")
      return comma ++ (← child (parameter g false))
    let last ← whenever (atWord ",") (child (word ","))
    let colon ← child (word ":")
    let body ← child (g .expression)
    return .ofPieces .lambdaExpression
      (start :: before ++ .ofPieces .lambdaParameters (first :: more ++ last) :: colon ++ body)

/-! ## Whole expressions -/

/-- An expression up to a condition or a name given to it. -/
def simpleExpression : Parse Piece := do
  if ← atWord "lambda" then lambdaExpression g
  else if ← atNameThen ":=" then
    let target ← name
    let op ← child (word ":=")
    return .ofPieces .namedExpression (target :: op ++ (← child (g .expression)))
  else disjunction g

/-- An expression. -/
def expression : Parse Piece := do
  let value ← simpleExpression g
  let value ← if ← atWord "if" then do
      let start ← child (word "if")
      let test ← child (g .expression)
      let mid ← child (word "else")
      let other ← child (g .expression)
      pure (.ofPieces .conditionalExpression (value :: start ++ test ++ mid ++ other))
    else pure value
  if ← atWord "as" then
    let mid ← child (word "as")
    return .ofPieces .asPattern (value :: mid ++ (← child (g .expression)))
  else return value

end Grammar

/-- The grammar, with at most `fuel` productions inside each other. -/
def grammar : (fuel : Nat) → Grammar
  | 0 => fun _ => failure
  | fuel + 1 => fun
    | .expression => Grammar.expression (grammar fuel)
    | .negation => Grammar.negation (grammar fuel)
    | .unary => Grammar.unary (grammar fuel)
    | .splat => Grammar.splat (grammar fuel) .listSplat "*"
    | .hint => Grammar.hint (grammar fuel)
    | .typeArgument => Grammar.typeArgument (grammar fuel)
    | .pattern => Grammar.pattern (grammar fuel)

end DocOutline.Syntax
