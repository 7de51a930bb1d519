import DocOutline.Markup.Entry
import DocOutline.Proofs.Outline.Scopes
import DocOutline.Proofs.Outline.Walk
import DocOutline.Proofs.Path
import DocOutline.Proofs.Syntax.File
import Mathlib.Data.List.Forall2

/-!
# Levels as an outline

The level of an entry is the number of definitions around the one that it documents, itself
included and the root left out. With all definitions shown, the levels go down one by one, and the
nearest entry one level up is that of the definition directly around (`levels_form_outline`).
Qualified names follow the same order. They have one part for each level in a file, but one more
below any other root, since a climb only stops at files.
-/

namespace DocOutline

/-- The number of hashes at the start of a heading. -/
def Entry.headingDepth (e : Entry) : Nat := (e.heading.takeWhile (· = '#')).length

theorem Entry.headingDepth_eq (e : Entry) : e.headingDepth = e.level + 2 := by
  unfold headingDepth heading
  rw [List.append_assoc, List.takeWhile_append_of_pos]
  · simp
  · intro c hc
    rw [List.eq_of_mem_replicate hc]
    rfl

/-- Levels of headings that start at the topmost one, never rise above it, and never skip one on
the way down. -/
structure IsStaircase (topmost : Nat) (levels : List Nat) : Prop where
  topmost_le : ∀ l ∈ levels, topmost ≤ l
  start : ∀ l ∈ levels.head?, l = topmost
  step : levels.IsChain fun l next => next ≤ l + 1

theorem IsStaircase.map_add {topmost : Nat} {levels : List Nat} (h : IsStaircase topmost levels)
    (n : Nat) : IsStaircase (topmost + n) (levels.map (· + n)) where
  topmost_le := by
    intro l hl
    obtain ⟨m, hm, rfl⟩ := List.mem_map.1 hl
    have hle := h.topmost_le m hm
    omega
  start := by
    intro l hl
    rw [List.head?_map] at hl
    obtain ⟨m, hm, rfl⟩ := Option.map_eq_some_iff.1 hl
    rw [h.start m hm]
  step := by
    rw [List.isChain_map]
    refine h.step.imp ?_
    intro l next hle
    omega

namespace Outline

open Syntax Signature

/-! ## The entries of definitions -/

/-- A node by itself gives exactly this entry. -/
def Gives (options : OutlineOptions) (links : Links) (d : NumberedTree) (e : Entry) : Prop :=
  ∃ decorators own, ownEntries options links decorators d = some own ∧ own.value = [e]

section Gives

variable {options : OutlineOptions} {links : Links}

theorem exists_gives (hprivate : options.privateMembers = true) {v : Visited}
    (hd : isDefinition v.tree.kind = true)
    (hname : v.tree.kind = .functionDefinition → ∃ q, links.qualifiedName? v.tree = some q) :
    ∃ e, (entriesAt options links v).value = [e] ∧ Gives options links v.tree e := by
  have hown := ownEntries_eq_some options hname
  have hkind : v.tree.kind = .classDefinition ∨ v.tree.kind = .functionDefinition := by
    simpa [isDefinition] using hd
  have hone : ∃ e, (entriesAt options links v).value = [e] := by
    unfold entriesAt ownEntries
    rcases hkind with hk | hk
    · simp only [hk]
      exact ⟨_, rfl⟩
    · obtain ⟨q, hq⟩ := hname hk
      simp only [hk, hq, isHidden, hprivate]
      exact ⟨_, rfl⟩
  obtain ⟨e, he⟩ := hone
  exact ⟨e, he, v.decorators, _, hown, he⟩

/-- Without the docstring of the module, a node that is no definition has no entry. -/
theorem value_entriesAt_other (hdoc : options.moduleDocstring = false) {v : Visited}
    (hd : isDefinition v.tree.kind = false) : (entriesAt options links v).value = [] := by
  unfold entriesAt ownEntries
  cases hc : v.tree.kind
  case sourceFile =>
    rw [hdoc]
    rfl
  case classDefinition | functionDefinition =>
    rw [hc] at hd
    exact absurd hd (by decide)
  all_goals rfl

/-- The definitions among these nodes give the entries, one by one. -/
theorem forall₂_gives (options : OutlineOptions) (hdoc : options.moduleDocstring = false)
    (hprivate : options.privateMembers = true) {vs : List Visited} (hnames : links.Names vs) :
    List.Forall₂ (Gives options links)
      ((vs.filter fun v => isDefinition v.tree.kind).map Visited.tree)
      (vs.flatMap fun v => (entriesAt options links v).value) := by
  induction vs with
  | nil => exact .nil
  | cons v vs ih =>
    have hrest := ih fun w hw => hnames w (List.mem_cons_of_mem v hw)
    rw [List.flatMap_cons]
    cases hd : isDefinition v.tree.kind with
    | true =>
      obtain ⟨e, he, hgives⟩ := exists_gives hprivate hd (hnames v List.mem_cons_self)
      rw [List.filter_cons, if_pos hd, he]
      exact .cons hgives hrest
    | false =>
      rw [List.filter_cons, hd, value_entriesAt_other hdoc hd]
      exact hrest

end Gives

theorem exists_pairs {α β : Type} {R : α → β → Prop} {as : List α} {bs : List β}
    (h : List.Forall₂ R as bs) :
    ∃ ps : List (α × β), ps.map Prod.fst = as ∧ ps.map Prod.snd = bs ∧ ∀ p ∈ ps, R p.1 p.2 :=
  ⟨as.zip bs, List.map_fst_zip h.length_eq.le, List.map_snd_zip h.length_eq.ge,
    fun _ hp => List.forall₂_zip h hp⟩

/-! ## Titles -/

/-- The title of a definition with a qualified name: a class shows its own name only. -/
def IsTitle (d : NumberedTree) (qualified : Text) (e : Entry) : Prop :=
  (d.kind = .classDefinition ∧ e.subject = .classDef ∧ e.title = nameOf d.tree ++ "()") ∨
  (d.kind = .functionDefinition ∧ (∃ style, e.subject = .functionDef style) ∧
    (e.title = qualified ++ "()" ∨ e.title = "@Property " ++ qualified ++ "()"))

theorem Gives.isTitle {options : OutlineOptions} {links : Links} {d : NumberedTree} {e : Entry}
    {qualified : Text} (h : Gives options links d e) (hd : isDefinition d.kind = true)
    (hname : links.qualifiedName? d = some qualified) :
    IsTitle d qualified e ∧ e.level = links.levelOf d := by
  obtain ⟨decorators, own, hown, he⟩ := h
  have hkind : d.kind = .classDefinition ∨ d.kind = .functionDefinition := by
    simpa [isDefinition] using hd
  unfold ownEntries at hown
  rcases hkind with hk | hk
  · simp only [hk] at hown
    cases hown
    cases he
    exact ⟨Or.inl ⟨hk, rfl, rfl⟩, rfl⟩
  · simp only [hk, hname] at hown
    split at hown
    · cases hown
      cases he
    · cases hown
      cases he
      refine ⟨Or.inr ⟨hk, ⟨_, rfl⟩, ?_⟩, rfl⟩
      change functionTitle qualified _ = _ ∨ functionTitle qualified _ = _
      rw [functionTitle_eq]
      split
      · exact Or.inr rfl
      · exact Or.inl rfl

/-! ## The outline -/

/-- Definitions inside a tree with their entries, in the order in which they are shown, as a proper
outline of the tree. -/
structure IsOutline (options : OutlineOptions) (t : NumberedTree)
    (shown : List (NumberedTree × Entry)) : Prop where
  given : ∀ p ∈ shown, Gives options (linksOf t) p.1 p.2
  levels : IsStaircase 1 (shown.map fun p => p.2.level)
  depths : IsStaircase 3 (shown.map fun p => p.2.headingDepth)
  topmost : ∀ p ∈ shown, p.2.level = 1 ↔ ∀ outer, IsInside outer t → ¬IsInside p.1 outer
  /-- The nearest entry one level up is that of the definition directly around. -/
  owner : ∀ before d e after, shown = before ++ (d, e) :: after → 1 < e.level →
    ∃ earlier outer above between, before = earlier ++ (outer, above) :: between ∧
      IsDirectlyAround t outer d ∧ above.level + 1 = e.level ∧
      (∀ p ∈ between, p.2.level ≠ above.level) ∧
      ∃ q, (linksOf t).qualifiedName? outer = some q ∧
        (linksOf t).qualifiedName? d = some (q ++ "." ++ nameOf d.tree)
  /-- A topmost name has nothing in front of it in a file, and elsewhere the name of the root. -/
  topmost_name : ∀ p ∈ shown, p.2.level = 1 →
    (linksOf t).qualifiedName? p.1 = some (Text.join "." (rootNames t ++ [nameOf p.1.tree]))
  /-- Besides the names above all definitions, a qualified name has as many parts as the level says,
  dots apart. -/
  name : ∀ p ∈ shown, ∃ parts q, (linksOf t).climbFrom p.1 = some (parts, climbEnd t) ∧
    parts.length = (rootNames t).length + p.2.level ∧
    (linksOf t).qualifiedName? p.1 = some q ∧ IsTitle p.1 q p.2 ∧
    ((∀ d ∈ t :: definitionsAll t.children, '.' ∉ nameOf d.tree) →
      (Text.pieces '.' q).length = (rootNames t).length + p.2.level)

/-- A qualified name has as many parts as the level of its entry says. -/
def NameFitsLevel (t d : NumberedTree) (e : Entry) : Prop :=
  ∃ parts stop, (linksOf t).climbFrom d = some (parts, stop) ∧ parts.length = e.level

theorem Ordered.isStaircase {ns : List Nested} (h : Ordered [] ns) :
    IsStaircase 1 (ns.map fun n => n.around.length + 1) where
  topmost_le := by
    intro l hl
    obtain ⟨n, -, rfl⟩ := List.mem_map.1 hl
    omega
  start := by
    intro l hl
    rw [List.head?_map] at hl
    obtain ⟨n, hn, rfl⟩ := Option.map_eq_some_iff.1 hl
    rw [h.start n hn]
    rfl
  step := by
    rw [List.isChain_map]
    refine h.step.imp ?_
    intro n next hle
    omega

section Shown

variable {options : OutlineOptions} {t : NumberedTree} {n : Nested} {e : Entry}

/-- What a definition at its place gives. -/
structure Documents (options : OutlineOptions) (root : NumberedTree) (n : Nested) (e : Entry) :
    Prop where
  isDefinition : isDefinition n.tree.kind = true
  given : Gives options (linksOf root) n.tree e
  place : (linksOf root).Places (rootNames root) (climbEnd root) n

theorem Documents.isTitle (h : Documents options t n e) :
    IsTitle n.tree (Text.join "." (rootNames t ++ namesOf (n.tree :: n.around))) e :=
  (h.given.isTitle h.isDefinition h.place.qualifiedName?).1

theorem Documents.level (h : Documents options t n e) : e.level = n.around.length + 1 := by
  rw [(h.given.isTitle h.isDefinition h.place.qualifiedName?).2, h.place.level]

theorem qualifiedName?_inside {above : Entry} {outer : NumberedTree} {rest : List NumberedTree}
    (h : Documents options t n e) (h' : Documents options t ⟨rest, outer⟩ above)
    (haround : n.around = outer :: rest) :
    ∃ q, (linksOf t).qualifiedName? outer = some q ∧
      (linksOf t).qualifiedName? n.tree = some (q ++ "." ++ nameOf n.tree.tree) := by
  refine ⟨_, h'.place.qualifiedName?, ?_⟩
  have hne : rootNames t ++ namesOf (outer :: rest) ≠ [] := by
    rw [namesOf_cons, ← List.append_assoc]
    exact List.append_ne_nil_of_right_ne_nil _ (List.cons_ne_nil _ _)
  rw [h.place.qualifiedName?, haround, namesOf_cons n.tree, ← List.append_assoc,
    Text.join_append _ hne (List.cons_ne_nil _ _), Text.join_singleton]

theorem names_have_no_dot (hdots : ∀ d ∈ t :: definitionsAll t.children, '.' ∉ nameOf d.tree)
    (hmem : n ∈ nestedAll [] t.children) :
    ∀ name ∈ rootNames t ++ namesOf (n.tree :: n.around), '.' ∉ name := by
  intro name hname
  rcases List.mem_append.1 hname with hname | hname
  · unfold rootNames at hname
    split at hname
    · cases hname
    · rw [List.mem_singleton.1 hname]
      exact hdots t List.mem_cons_self
  · obtain ⟨d, hd, rfl⟩ := List.mem_map.1 (List.mem_reverse.1 hname)
    refine hdots d (List.mem_cons_of_mem t ?_)
    rcases List.mem_cons.1 hd with rfl | hd
    · exact isInside_of_mem_nestedAll hmem
    · exact isInside_of_mem_around_root hmem hd

theorem length_names (h : Documents options t n e) :
    (rootNames t ++ namesOf (n.tree :: n.around)).length = (rootNames t).length + e.level := by
  rw [List.length_append, length_namesOf, h.level]
  rfl

theorem exists_name (hmem : n ∈ nestedAll [] t.children) (h : Documents options t n e) :
    ∃ parts q, (linksOf t).climbFrom n.tree = some (parts, climbEnd t) ∧
      parts.length = (rootNames t).length + e.level ∧
      (linksOf t).qualifiedName? n.tree = some q ∧ IsTitle n.tree q e ∧
      ((∀ d ∈ t :: definitionsAll t.children, '.' ∉ nameOf d.tree) →
        (Text.pieces '.' q).length = (rootNames t).length + e.level) := by
  refine ⟨_, _, h.place.climb, ?_, h.place.qualifiedName?, h.isTitle, ?_⟩
  · rw [List.length_reverse, length_names h]
  · intro hdots
    have hne : rootNames t ++ namesOf (n.tree :: n.around) ≠ [] := by
      rw [namesOf_cons, ← List.append_assoc]
      exact List.append_ne_nil_of_right_ne_nil _ (List.cons_ne_nil _ _)
    rw [← length_names h]
    exact congrArg List.length (Text.pieces_join hne (names_have_no_dot hdots hmem))

theorem nameFitsLevel_iff (h : Documents options t n e) :
    NameFitsLevel t n.tree e ↔ t.kind = .sourceFile := by
  have hlength := length_names h
  constructor
  · rintro ⟨parts, stop, hclimb, hparts⟩
    rw [h.place.climb] at hclimb
    cases hclimb
    rw [List.length_reverse, hlength] at hparts
    unfold rootNames at hparts
    split at hparts
    · assumption
    · rw [List.length_singleton] at hparts
      omega
  · intro hroot
    refine ⟨_, _, h.place.climb, ?_⟩
    rw [List.length_reverse, hlength, rootNames, if_pos hroot]
    simp

variable {ps : List (Nested × Entry)} (hps : ps.map Prod.fst = nestedAll [] t.children)
  (hdoc : ∀ p ∈ ps, Documents options t p.1 p.2)

include hps hdoc

/-- In front of an entry that is not topmost, the nearest one a level up belongs to the definition
directly around. -/
theorem exists_owner (hn : t.ids.Nodup) {before after : List (Nested × Entry)} {n : Nested}
    {e : Entry} (heq : ps = before ++ (n, e) :: after) (hlevel : 1 < e.level) :
    ∃ earlier rest outer above between, before = earlier ++ (⟨rest, outer⟩, above) :: between ∧
      IsDirectlyAround t outer n.tree ∧ above.level + 1 = e.level ∧
      (∀ p ∈ between, p.2.level ≠ above.level) ∧
      ∃ q, (linksOf t).qualifiedName? outer = some q ∧
        (linksOf t).qualifiedName? n.tree = some (q ++ "." ++ nameOf n.tree.tree) := by
  have hmem : (n, e) ∈ ps := heq ▸ List.mem_append_right before List.mem_cons_self
  have hdocuments := hdoc _ hmem
  have hsplit : nestedAll [] t.children = before.map Prod.fst ++ n :: after.map Prod.fst := by
    rw [← hps, heq, List.map_append, List.map_cons]
  rcases (ordered_nestedAll (fun c _ => ordered_nested c) []).owner _ n _ hsplit with
    htop | ⟨outer, rest, earlier, between, haround, hbefore, hdeep⟩
  · have hone := hdocuments.level
    rw [htop] at hone
    exact absurd hone (by simpa using Nat.ne_of_gt hlevel)
  · obtain ⟨earlier', tail, rfl, -, htail⟩ := List.map_eq_append_iff.1 hbefore
    obtain ⟨⟨m, above⟩, between', rfl, hm, hbetween⟩ := List.map_eq_cons_iff.1 htail
    change m = _ at hm
    subst hm
    have habove : ((⟨rest, outer⟩ : Nested), above) ∈ ps := by
      rw [heq]
      simp
    have hlevels := (hdoc _ habove).level
    refine ⟨earlier', rest, outer, above, between', rfl, ?_, ?_, ?_, ?_⟩
    · refine isDirectlyAround hn ?_ haround ?_
      · rw [← hps]
        exact List.mem_map_of_mem hmem
      · rw [← hps]
        exact List.mem_map_of_mem habove
    · rw [hlevels, hdocuments.level, haround, List.length_cons]
    · intro p hp
      have hpmem : p ∈ ps := by
        rw [heq]
        simp [hp]
      have hdeeper := hdeep p.1 (hbetween ▸ List.mem_map_of_mem hp)
      rw [hlevels, (hdoc p hpmem).level]
      change p.1.around.length + 1 ≠ rest.length + 1
      omega
    · exact qualifiedName?_inside hdocuments (hdoc _ habove) haround

theorem level_eq_one_iff (hn : t.ids.Nodup) {n : Nested} {e : Entry} (hmem : (n, e) ∈ ps) :
    e.level = 1 ↔ ∀ outer, IsInside outer t → ¬IsInside n.tree outer := by
  have hnested : n ∈ nestedAll [] t.children := by
    rw [← hps]
    exact List.mem_map_of_mem hmem
  rw [(hdoc _ hmem).level]
  constructor
  · intro hone outer houter hinside
    rw [← mem_around_iff hn hnested houter] at hinside
    have hpos := List.length_pos_of_mem hinside
    change n.around.length + 1 = 1 at hone
    omega
  · intro hout
    have hnil : n.around = [] := by
      rw [List.eq_nil_iff_forall_not_mem]
      intro outer houter
      have hinside := isInside_of_mem_around_root hnested houter
      exact hout outer hinside ((mem_around_iff hn hnested hinside).1 houter)
    rw [hnil]
    rfl

theorem isOutline (hn : t.ids.Nodup) :
    IsOutline options t (ps.map fun p => (p.1.tree, p.2)) := by
  have hlevels : IsStaircase 1 (ps.map fun p => p.2.level) := by
    have hordered : Ordered [] (nestedAll [] t.children) :=
      ordered_nestedAll (fun c _ => ordered_nested c) []
    have hstairs := hordered.isStaircase
    rw [← hps, List.map_map] at hstairs
    convert hstairs using 1
    exact List.map_congr_left fun p hp => (hdoc p hp).level
  refine ⟨?_, ?_, ?_, ?_, ?_, ?_, ?_⟩
  · intro p hp
    obtain ⟨q, hq, rfl⟩ := List.mem_map.1 hp
    exact (hdoc q hq).given
  · rwa [List.map_map]
  · have hdepths := hlevels.map_add 2
    rw [List.map_map] at hdepths ⊢
    convert hdepths using 1
    exact List.map_congr_left fun p _ => p.2.headingDepth_eq
  · intro p hp
    obtain ⟨⟨n, e⟩, hq, rfl⟩ := List.mem_map.1 hp
    exact level_eq_one_iff hps hdoc hn hq
  · intro before d e after heq hlevel
    obtain ⟨before', tail, hsplit, rfl, htail⟩ := List.map_eq_append_iff.1 heq
    obtain ⟨⟨n, e'⟩, after', rfl, hne, -⟩ := List.map_eq_cons_iff.1 htail
    cases hne
    obtain ⟨earlier, rest, outer, above, between, rfl, haround, habove, hbetween, hname⟩ :=
      exists_owner hps hdoc hn hsplit hlevel
    refine ⟨earlier.map fun p => (p.1.tree, p.2), outer, above,
      between.map fun p => (p.1.tree, p.2), by simp, haround, habove, ?_, hname⟩
    intro p hp
    obtain ⟨q, hq, rfl⟩ := List.mem_map.1 hp
    exact hbetween q hq
  · intro p hp hone
    obtain ⟨⟨n, e⟩, hq, rfl⟩ := List.mem_map.1 hp
    have hlevel := (hdoc _ hq).level
    have hnil : n.around = [] := by
      rw [← List.length_eq_zero_iff]
      change e.level = 1 at hone
      change e.level = n.around.length + 1 at hlevel
      omega
    have hname := (hdoc _ hq).place.qualifiedName?
    rw [hnil] at hname
    exact hname
  · intro p hp
    obtain ⟨⟨n, e⟩, hq, rfl⟩ := List.mem_map.1 hp
    refine exists_name ?_ (hdoc _ hq)
    rw [← hps]
    exact List.mem_map_of_mem hq

end Shown

/-- The definitions inside a tree, each with its entry, behind what the root gives by itself. -/
theorem exists_documents (style : DocStyle) {t : NumberedTree} (hn : t.ids.Nodup) :
    ∃ noted, ofNumbered? ⟨false, true, style⟩ t = some noted ∧
      ∃ ps : List (Nested × Entry), ps.map Prod.fst = nestedAll [] t.children ∧
        noted.value = (entriesAt ⟨false, true, style⟩ (linksOf t) ⟨[], t⟩).value ++
          ps.map Prod.snd ∧
        ∀ p ∈ ps, Documents ⟨false, true, style⟩ t p.1 p.2 := by
  refine ⟨_, ofNumbered?_eq_collect _ hn, ?_⟩
  have hnames := names_walk hn
  rw [walk_eq] at hnames ⊢
  have hgives := forall₂_gives ⟨false, true, style⟩ rfl rfl
    fun v hv => hnames v (List.mem_cons_of_mem _ hv)
  rw [definitions_walkAll, ← map_tree_nestedAll (fun c _ => map_tree_nested c) [],
    List.forall₂_map_left_iff] at hgives
  obtain ⟨ps, hps, hentries, hgives⟩ := exists_pairs hgives
  refine ⟨ps, hps, ?_, ?_⟩
  · rw [hentries, Noted.value_collectAll, List.flatMap_cons]
  · intro p hp
    have hmem : p.1 ∈ nestedAll [] t.children := by
      rw [← hps]
      exact List.mem_map_of_mem hp
    obtain ⟨c, -, -, hc⟩ := mem_nestedAll.1 hmem
    exact ⟨isDefinition_of_mem (tree_mem_definitions hc), hgives p hp,
      places_below_root hn p.1 hmem⟩

/-- What a root gives by itself: nothing, or an entry at level zero if it is a definition. -/
theorem value_entriesAt_root (style : DocStyle) {t : NumberedTree} (hn : t.ids.Nodup) :
    (isDefinition t.kind = false →
      (entriesAt ⟨false, true, style⟩ (linksOf t) ⟨[], t⟩).value = []) ∧
    (isDefinition t.kind = true →
      ∃ e, (entriesAt ⟨false, true, style⟩ (linksOf t) ⟨[], t⟩).value = [e] ∧ e.level = 0) := by
  refine ⟨fun hd => value_entriesAt_other rfl hd, fun hd => ?_⟩
  obtain ⟨q, hq⟩ := exists_qualifiedName? hn (mem_definitions_iff.2 (Or.inl ⟨hd, rfl⟩))
  obtain ⟨e, he, hgives⟩ : ∃ e, (entriesAt ⟨false, true, style⟩ (linksOf t) ⟨[], t⟩).value = [e] ∧
      Gives ⟨false, true, style⟩ (linksOf t) t e := exists_gives rfl hd fun _ => ⟨q, hq⟩
  refine ⟨e, he, ?_⟩
  rw [(hgives.isTitle hd hq).2]
  exact Links.levelOf_of_link? (link?_root hn)

/-- With private members and without the docstring of the module, every definition inside a tree has
one entry, and their levels form a proper outline of the tree. Only below a file do qualified names
have as many parts as the levels say: the name of any other root is put in front. The root of a
source is no definition; one that is has an entry at level zero in front of the others. -/
theorem levels_form_outline (style : DocStyle) (t : NumberedTree) (hn : t.ids.Nodup) :
    ∃ noted own shown, ofNumbered? ⟨false, true, style⟩ t = some noted ∧
      noted.value = own ++ shown.map Prod.snd ∧ shown.map Prod.fst = definitionsAll t.children ∧
      IsOutline ⟨false, true, style⟩ t shown ∧
      (∀ p ∈ shown, NameFitsLevel t p.1 p.2 ↔ t.kind = .sourceFile) ∧
      (isDefinition t.kind = false → own = []) ∧
      (isDefinition t.kind = true → ∃ e, own = [e] ∧ e.level = 0) := by
  obtain ⟨noted, hnoted, ps, hps, hentries, hdoc⟩ := exists_documents style hn
  refine ⟨noted, _, ps.map fun p => (p.1.tree, p.2), hnoted, ?_, ?_, isOutline hps hdoc hn, ?_,
    value_entriesAt_root style hn⟩
  · rw [List.map_map]
    exact hentries
  · rw [List.map_map, ← map_tree_nestedAll (fun c _ => map_tree_nested c) [], ← hps, List.map_map]
    rfl
  · intro p hp
    obtain ⟨q, hq, rfl⟩ := List.mem_map.1 hp
    exact nameFitsLevel_iff (hdoc q hq)

/-- Functions and classes in turn, some of them below other statements, and a source that breaks
off. -/
theorem levels_form_outline_turns :
    let source : Text :=
      "class A:\n def f(s):\n  class __G: pass\n if x:\n  @property\n  def h(s): pass\ndef k(): pass\n"
    let t := (parse source).numbered
    let t' := (parse ("def f():\n def g(): pass\n" ++ List.replicate 25 '(')).numbered
    let titles : NumberedTree → Option (List (Text × Nat)) := fun t =>
      (ofNumbered? ⟨false, true, .pre⟩ t).map fun x => x.value.map fun e => (e.title, e.level)
    (t.ids.Nodup ∧ t.kind = .sourceFile) ∧ (t'.ids.Nodup ∧ t'.kind = .error) ∧
      titles t = some [("A()".toList, 1), ("A.f()".toList, 2), ("__G()".toList, 3),
        ("@Property A.h()".toList, 2), ("k()".toList, 1)] ∧
      titles t' = some [(".f()".toList, 1), (".f.g()".toList, 2)] ∧
      (∃ shown, shown.map Prod.fst = definitionsAll t.children ∧
        IsOutline ⟨false, true, .pre⟩ t shown ∧
        ∀ p ∈ shown, NameFitsLevel t p.1 p.2 ↔ t.kind = .sourceFile) ∧
      ∃ shown, shown.map Prod.fst = definitionsAll t'.children ∧
        IsOutline ⟨false, true, .pre⟩ t' shown ∧
        ∀ p ∈ shown, NameFitsLevel t' p.1 p.2 ↔ t'.kind = .sourceFile := by
  intro source t t' titles
  have hn : t.ids.Nodup := SyntaxTree.nodup_ids_numbered _
  have hn' : t'.ids.Nodup := SyntaxTree.nodup_ids_numbered _
  have hroot : t.kind = .sourceFile := by decide +kernel
  have hroot' : t'.kind = .error := by decide +kernel
  obtain ⟨-, -, shown, -, -, hshown, houtline, hfits, -⟩ := levels_form_outline .pre t hn
  obtain ⟨-, -, shown', -, -, hshown', houtline', hfits', -⟩ := levels_form_outline .pre t' hn'
  exact ⟨⟨hn, hroot⟩, ⟨hn', hroot'⟩, by decide +kernel, by decide +kernel,
    ⟨shown, hshown, houtline, hfits⟩, ⟨shown', hshown', houtline', hfits'⟩⟩

end Outline

end DocOutline
