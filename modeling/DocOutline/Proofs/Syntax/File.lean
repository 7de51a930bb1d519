import DocOutline.Proofs.Syntax.Shape
import DocOutline.Syntax.Statement

/-!
# The tree of a source

Reading a source as a whole never fails: a line that is no statement becomes an error node, and a
source that breaks off one that takes the place of the file. What is read are pieces, and no piece
is a file, so the root is the only node of a source that may be one.
-/

namespace DocOutline.Syntax

theorem Parse.exists_orElse_pure {α : Type} (p : Parse α) (a : α) (cursor : Cursor) :
    ∃ b rest, (p <|> pure a) cursor = some (b, rest) := by
  change ∃ b rest, (p cursor).orElse (fun _ => some (a, cursor)) = some (b, rest)
  cases p cursor with
  | none => exact ⟨a, cursor, rfl⟩
  | some found => exact ⟨found.1, found.2, rfl⟩

/-- Reading as often as possible succeeds, also if nothing can be read. -/
theorem Parse.exists_many (p : Parse (List Piece)) (cursor : Cursor) :
    ∃ ps rest, many p cursor = some (ps, rest) :=
  exists_orElse_pure _ [] cursor

theorem Statement.exists_extrasBeforeLine (cursor : Cursor) :
    ∃ ps rest, extrasBeforeLine cursor = some (ps, rest) := by
  cases cursor with
  | mk tokens nested =>
    cases tokens with
    | nil => exact ⟨[], _, rfl⟩
    | cons t ts => exact ⟨Parse.extraPieces t, _, rfl⟩

theorem Statement.exists_linesFrom (g : Grammar) {fuel : Nat} (hfuel : 0 < fuel) (indent : Nat)
    (cursor : Cursor) : ∃ ps rest, linesFrom g fuel indent cursor = some (ps, rest) := by
  cases fuel with
  | zero => exact absurd hfuel (Nat.lt_irrefl 0)
  | succ fuel => exact Parse.exists_many _ cursor

/-! ## Nothing inside a source is a file -/

mutual

theorem SyntaxTree.allInner_brokenOff? : ∀ (t : SyntaxTree) (parts : List SyntaxTree), t.IsInner →
    t.brokenOff? = some parts → AllInner parts
  | .node k r x cs, parts, ht, hparts => by
    rw [brokenOff?] at hparts
    split at hparts
    · cases hparts
      exact ht.2
    · exact allInner_lastBrokenOff? cs parts ht.2 hparts

theorem SyntaxTree.allInner_lastBrokenOff? : ∀ (ts parts : List SyntaxTree), AllInner ts →
    lastBrokenOff? ts = some parts → AllInner parts
  | [], parts, _, hparts => by cases hparts
  | [t], parts, hts, hparts => allInner_brokenOff? t parts hts.1 hparts
  | t :: u :: ts, parts, hts, hparts => by
    rw [lastBrokenOff?] at hparts
    obtain ⟨rest, hrest, rfl⟩ := Option.map_eq_some_iff.1 hparts
    exact ⟨hts.1.withRole .plain, allInner_lastBrokenOff? (u :: ts) rest hts.2 hrest⟩

end

theorem Piece.allInner_trees (ps : List Piece) : SyntaxTree.AllInner (ps.map (·.tree)) := by
  rw [SyntaxTree.allInner_iff]
  intro t ht
  obtain ⟨p, -, rfl⟩ := List.mem_map.1 ht
  exact p.inner

theorem allInner_children_rootOf (lines comments : List Piece) :
    SyntaxTree.AllInner (rootOf lines comments).children := by
  unfold rootOf
  split
  · next parts hparts =>
    have hinner := SyntaxTree.allInner_lastBrokenOff? _ parts (Piece.allInner_trees lines) hparts
    rw [SyntaxTree.allInner_iff] at hinner ⊢
    intro t ht
    rcases List.mem_append.1 ht with ht | ht
    · exact hinner t ht
    · exact SyntaxTree.allInner_iff.1 (Piece.allInner_trees comments) t ht
  · exact Piece.allInner_children_treeOf .sourceFile (lines ++ comments)

theorem kind_rootOf (lines comments : List Piece) :
    (rootOf lines comments).kind = .sourceFile ∨ (rootOf lines comments).kind = .error := by
  unfold rootOf
  split
  · exact Or.inr rfl
  · exact Or.inl (Piece.kind_treeOf .sourceFile (lines ++ comments))

/-! ## The root -/

theorem parse_eq_rootOf (source : Text) :
    ∃ lines comments, parse source = rootOf lines comments := by
  have hbound : 0 < 4 * (Token.scan source).length + 8 := by omega
  obtain ⟨lines, rest, hlines⟩ := Statement.exists_linesFrom
    (grammar (4 * (Token.scan source).length + 8)) hbound 0 ⟨Token.scan source, false⟩
  obtain ⟨comments, last, hcomments⟩ := Statement.exists_extrasBeforeLine rest
  refine ⟨lines, comments, ?_⟩
  simp only [parse, bind, StateT.bind, hlines, hcomments, Option.bind]
  rfl

theorem isInner_of_mem_parse (source : Text) : ∀ c ∈ (parse source).children, c.IsInner := by
  obtain ⟨lines, comments, hparse⟩ := parse_eq_rootOf source
  rw [hparse, ← SyntaxTree.allInner_iff]
  exact allInner_children_rootOf lines comments

theorem kind_parse (source : Text) :
    (parse source).kind = .sourceFile ∨ (parse source).kind = .error := by
  obtain ⟨lines, comments, hparse⟩ := parse_eq_rootOf source
  rw [hparse]
  exact kind_rootOf lines comments

end DocOutline.Syntax
