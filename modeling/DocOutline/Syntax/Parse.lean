import DocOutline.Syntax.Token
import DocOutline.Syntax.Tree

/-!
# Reading tokens into trees

A reader takes tokens from the front of a list and gives back a tree, or fails. Outside brackets a
construct ends with its line, so the first token of a line cannot be seen from there. A comment or a
hidden newline belongs to the smallest node that has something before it and something behind it: it
is picked up before every child of a node but the first one.
-/

namespace DocOutline.Syntax

/-- A part of a file with the blanks before it. -/
structure Piece where
  gap : Text
  tree : SyntaxTree
  inner : tree.IsInner

namespace Piece

/-- A node without children. -/
def leaf (gap : Text) (kind : Kind) (text : Text)
    (h : kind.IsInner := by exact True.intro) : Piece :=
  ⟨gap, .leaf kind text, SyntaxTree.isInner_leaf h text⟩

/-- The piece in another role. -/
def inRole (role : Role) (p : Piece) : Piece :=
  ⟨p.gap, p.tree.withRole role, p.inner.withRole role⟩

/-- The text of a piece with the blanks before it. -/
def spelled (p : Piece) : Text := p.gap ++ p.tree.text

/-- The blanks before the first piece. -/
def gapBefore : List Piece → Text
  | [] => []
  | p :: _ => p.gap

/-- A tree made of pieces. Its text is theirs, without the blanks before the first one. -/
def treeOf (kind : Kind) : List Piece → SyntaxTree
  | [] => .leaf kind []
  | p :: ps => .node kind .plain (p.tree.text ++ ps.flatMap spelled) ((p :: ps).map (·.tree))

theorem kind_treeOf (kind : Kind) (ps : List Piece) : (treeOf kind ps).kind = kind := by
  cases ps <;> rfl

theorem allInner_children_treeOf (kind : Kind) (ps : List Piece) :
    SyntaxTree.AllInner (treeOf kind ps).children := by
  rw [SyntaxTree.allInner_iff]
  intro t ht
  cases ps with
  | nil => cases ht
  | cons p ps =>
    obtain ⟨q, -, rfl⟩ := List.mem_map.1 ht
    exact q.inner

theorem isInner_treeOf {kind : Kind} (h : kind.IsInner) (ps : List Piece) :
    (treeOf kind ps).IsInner := by
  rw [SyntaxTree.isInner_iff, kind_treeOf]
  exact ⟨h, allInner_children_treeOf kind ps⟩

/-- A node made of pieces. -/
def ofPieces (kind : Kind) (ps : List Piece) (h : kind.IsInner := by exact True.intro) : Piece :=
  ⟨gapBefore ps, treeOf kind ps, isInner_treeOf h ps⟩

end Piece

/-- What is left to read. -/
structure Cursor where
  tokens : List Token
  /-- Inside brackets, where the end of a line means nothing. -/
  nested : Bool
  deriving Inhabited

/-- A reader of tokens. -/
abbrev Parse := StateT Cursor Option

namespace Parse

/-- The first tokens that are left, as far as they belong to the construct that is read. -/
def ahead (n : Nat) : Parse (List Token) := do
  let cursor ← get
  return (cursor.tokens.take n).takeWhile fun t =>
    t.lexeme != .finish && (cursor.nested || t.line.isNone)

/-- The next token of the construct. -/
def peek? : Parse (Option Token) := return (← ahead 1).head?

/-- Whether the next token is one of these keywords and symbols. -/
def atAny (ws : List String) : Parse Bool := do
  match ← peek? with
  | some t => return ws.any t.spells
  | none => return false

/-- Whether the next token is this keyword or symbol. -/
def atWord (w : String) : Parse Bool := atAny [w]

/-- Whether the next two tokens are a name and this symbol. -/
def atNameThen (w : String) : Parse Bool := do
  match ← ahead 2 with
  | [a, b] => return a.lexeme = .name && b.spells w
  | _ => return false

/-- Takes the next token as a leaf. -/
def take (kind : Kind) (h : kind.IsInner := by exact True.intro) : Parse Piece := do
  let some t ← peek? | failure
  modify fun cursor => { cursor with tokens := cursor.tokens.tail }
  return .leaf t.gap kind t.text h

/-- Takes this keyword or symbol. -/
def word (w : String) : Parse Piece := do
  if ← atWord w then take .token else failure

/-- Takes one of these keywords and symbols. -/
def anyWord (ws : List String) : Parse Piece := do
  if ← atAny ws then take .token else failure

/-- Takes a name. -/
def name : Parse Piece := do
  match ← peek? with
  | some t => if t.lexeme = .name then take .identifier else failure
  | none => failure

/-- The comments and hidden newlines before a token, as leaves. -/
def extraPieces (t : Token) : List Piece :=
  t.extras.map fun (gap, text) =>
    if Token.isCommentText text then .leaf gap .comment text else .leaf gap .lineContinuation text

/-- Takes the comments and hidden newlines before the next token. -/
def extras : Parse (List Piece) := do
  match ← peek? with
  | some t =>
    modify fun cursor => { cursor with tokens := { t with extras := [] } :: cursor.tokens.tail }
    return extraPieces t
  | none => return []

/-- Reads a child that is not the first one, with what stands before it. -/
def child (p : Parse Piece) : Parse (List Piece) := do
  let before ← extras
  return before ++ [← p]

/-- Reads a child that is not the first one, in a role. -/
def childIn (role : Role) (p : Parse Piece) : Parse (List Piece) := child (return (← p).inRole role)

/-- Reads as often as possible, at most `fuel` times. -/
def manyUpTo (p : Parse (List Piece)) : (fuel : Nat) → Parse (List Piece)
  | 0 => return []
  | fuel + 1 => (do
      let first ← p
      return first ++ (← manyUpTo p fuel)) <|> return []

/-- Reads as often as possible. -/
def many (p : Parse (List Piece)) : Parse (List Piece) := (do
    let first ← p
    return first ++ (← manyUpTo p (← get).tokens.length)) <|> return []

/-- Reads if `test` holds, and otherwise nothing. -/
def whenever (test : Parse Bool) (p : Parse (List Piece)) : Parse (List Piece) := do
  if ← test then p else return []

/-- Reads with the ends of lines ignored. The closing bracket has to be read inside. -/
def inBrackets (p : Parse Piece) : Parse Piece := do
  let outer := (← get).nested
  modify fun cursor => { cursor with nested := true }
  let piece ← p
  modify fun cursor => { cursor with nested := outer }
  return piece

/-- Items with commas between them and perhaps behind the last one, up to `finish`, which is read
where `atEnd` holds. -/
def itemsUpTo (item finish : Parse Piece) (atEnd : Parse Bool) : (fuel : Nat) → Parse (List Piece)
  | 0 => failure
  | fuel + 1 => do
    let before ← extras
    if ← atEnd then return before ++ [← finish]
    let first ← item
    let behind ← extras
    if ← atWord "," then
      let comma ← word ","
      return before ++ first :: behind ++ comma :: (← itemsUpTo item finish atEnd fuel)
    else return before ++ first :: behind ++ [← finish]

/-- Items with commas between them and perhaps behind the last one, up to a closing bracket. -/
def itemsTo (item : Parse Piece) (close : String) : Parse (List Piece) := do
  itemsUpTo item (word close) (atWord close) (← get).tokens.length

/-- A comma and more items up to a closing bracket, or the bracket alone. -/
def moreItemsTo (item : Parse Piece) (close : String) : Parse (List Piece) := do
  let before ← extras
  if ← atWord "," then
    let comma ← word ","
    return before ++ comma :: (← itemsTo item close)
  else return before ++ [← word close]

/-- Operands of one kind with operators between them, grouped from the left. -/
def chainFrom (kind : Kind) (h : kind.IsInner) (operand operator : Parse Piece)
    (atOperator : Parse Bool) (left : Piece) : (fuel : Nat) → Parse Piece
  | 0 => return left
  | fuel + 1 => do
    if ← atOperator then
      let op ← childIn .operator operator
      let right ← child operand
      chainFrom kind h operand operator atOperator (.ofPieces kind (left :: op ++ right) h) fuel
    else return left

/-- Operands with these operators between them, grouped from the left. -/
def chain (kind : Kind) (ops : List String) (operand : Parse Piece)
    (h : kind.IsInner := by exact True.intro) : Parse Piece := do
  let left ← operand
  if ← atAny ops then
    chainFrom kind h operand (anyWord ops) (atAny ops) left (← get).tokens.length
  else return left

end Parse

end DocOutline.Syntax
