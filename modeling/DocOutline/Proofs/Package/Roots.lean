import DocOutline.Package.Finder
import DocOutline.Proofs.Path
import Mathlib.Data.List.Basic

/-!
# Search roots

A target is read in up to three ways, and each reading is tried under all roots before the next one.
So a directory under a further root can take the place of what the current directory holds, if it
answers to an earlier reading; otherwise further roots change nothing (`resolve_more_roots_iff`).
-/

namespace DocOutline

/-! ## Dotted names -/

theorem Text.not_mem_of_mem_pieces {sep : Char} {t p : Text} (h : p ∈ t.pieces sep) : sep ∉ p := by
  induction t generalizing p with
  | nil =>
    rw [Text.pieces, List.mem_singleton] at h
    rw [h]
    exact List.not_mem_nil
  | cons c t ih =>
    by_cases hc : c = sep
    · rw [hc, Text.pieces_cons_self] at h
      rcases List.mem_cons.1 h with rfl | h
      · exact List.not_mem_nil
      · exact ih h
    · obtain ⟨q, qs, hqs⟩ := List.exists_cons_of_ne_nil (Text.pieces_ne_nil sep t)
      rw [Text.pieces_cons_of_ne hc hqs] at h
      rw [hqs] at ih
      rcases List.mem_cons.1 h with rfl | h
      · have hq := ih List.mem_cons_self
        rw [List.mem_cons, not_or]
        exact ⟨Ne.symm hc, hq⟩
      · exact ih (List.mem_cons_of_mem q h)

namespace Path

theorem join_of_isAbsolute {p : Path} (hp : p.isAbsolute = true) (base : Path) :
    base.join p = p := by
  unfold join
  rw [if_pos hp]

theorem join_of_relative {p : Path} (hp : p.isAbsolute = false) (base : Path) :
    ∃ start, (base.join p).text = start ++ p.text := by
  unfold join
  rw [if_neg (by rw [hp]; exact Bool.false_ne_true)]
  split
  · exact ⟨base.text, rfl⟩
  · exact ⟨base.text ++ [slash], by simp⟩

theorem dot_not_mem_child {p : Path} {n : Text} (hp : '.' ∉ p.text) (hn : '.' ∉ n) :
    '.' ∉ (p.child n).text := by
  unfold child join
  split
  · exact hn
  · split
    · rw [List.mem_append, not_or]
      exact ⟨hp, hn⟩
    · rw [List.mem_append, List.mem_cons, not_or, not_or]
      exact ⟨hp, by decide, hn⟩

theorem dot_not_mem_ofDotted (t : Text) : '.' ∉ (ofDotted t).text := by
  have hfold : ∀ (ns : List Text) (p : Path), '.' ∉ p.text → (∀ n ∈ ns, '.' ∉ n) →
      '.' ∉ (ns.foldl (fun p n => p.child n) p).text := by
    intro ns
    induction ns with
    | nil => exact fun p hp _ => hp
    | cons n ns ih =>
      intro p hp hns
      exact ih (p.child n) (dot_not_mem_child hp (hns n List.mem_cons_self))
        fun m hm => hns m (List.mem_cons_of_mem n hm)
  exact hfold _ ⟨[]⟩ List.not_mem_nil fun n hn => Text.not_mem_of_mem_pieces hn

theorem ofDotted_of_not_mem {t : Text} (ht : '.' ∉ t) : ofDotted t = ⟨t⟩ := by
  unfold ofDotted
  rw [Text.pieces_of_not_mem ht, List.foldl_cons, List.foldl_nil]
  unfold child join
  split
  · rfl
  · rfl

theorem ofDotted_here_slash {t : Text} (ht : '.' ∉ t) :
    ofDotted ('.' :: slash :: t) = ⟨slash :: t⟩ := by
  have hslash : '.' ∉ slash :: t := by
    rw [List.mem_cons, not_or]
    exact ⟨by decide, ht⟩
  unfold ofDotted
  rw [Text.pieces_cons_self, Text.pieces_of_not_mem hslash]
  rfl

/-- The directory that a name with dots in it stands for is no path that ends with the name. -/
theorem join_ne_join_ofDotted {t : Text} (hrelative : isAbsolute ⟨t⟩ = false)
    (hdotted : ofDotted t ≠ ⟨t⟩) (root : Path) :
    root.join ⟨t⟩ ≠ join ⟨"."⟩ (ofDotted t) := by
  intro heq
  have hdot : '.' ∈ t := Decidable.byContradiction fun h => hdotted (ofDotted_of_not_mem h)
  have hfree := dot_not_mem_ofDotted t
  obtain ⟨start, hstart⟩ := join_of_relative hrelative root
  have hsuffix : t <:+ (join ⟨"."⟩ (ofDotted t)).text := ⟨start, by rw [← heq, hstart]⟩
  cases habsolute : (ofDotted t).isAbsolute with
  | true =>
    rw [join_of_isAbsolute habsolute] at hsuffix
    exact hfree (hsuffix.mem hdot)
  | false =>
    have htext : (join ⟨"."⟩ (ofDotted t)).text = '.' :: slash :: (ofDotted t).text := by
      unfold join
      rw [if_neg (by rw [habsolute]; exact Bool.false_ne_true)]
      rfl
    rw [htext, List.suffix_cons_iff, List.suffix_cons_iff] at hsuffix
    rcases hsuffix with hwhole | hwhole | hsuffix
    · -- Then the name starts at the current directory and is read as an absolute path.
      rw [hwhole, ofDotted_here_slash hfree] at habsolute
      cases habsolute
    · rw [hwhole, List.mem_cons] at hdot
      rcases hdot with hdot | hdot
      · exact absurd hdot (by decide)
      · exact hfree hdot
    · exact hfree (hsuffix.mem hdot)

end Path

namespace Finder

variable {fs : FileSystem} {f f₀ : Finder} {paths : List Path} {target : Text} {t : Target}
  {p : Path} {test : Path → Bool}

/-! ## What does not depend on the roots -/

theorem filesBelow_roots (h : f.exclude = f₀.exclude) (fuel : Nat) (dir : Path)
    (below : List Text) : f.filesBelow fs fuel dir below = f₀.filesBelow fs fuel dir below := by
  have hexcluded : f.isExcluded = f₀.isExcluded := by
    funext names
    unfold isExcluded
    rw [h]
  induction fuel generalizing dir below with
  | zero => rfl
  | succ fuel ih => simp only [filesBelow, hexcluded, ih]

theorem package_roots (h : f.exclude = f₀.exclude) (root : Path) :
    f.package fs root = f₀.package fs root := by
  unfold package packageFiles
  rw [filesBelow_roots h]

theorem package_eq_ok {root : Path} (h : f.package fs root = .ok t) :
    ∃ files, f.packageFiles fs root = .ok files ∧ t = .package ⟨root,
      if fs.isFile (root.child mainName) then some (root.child mainName) else none, files⟩ := by
  unfold package at h
  dsimp only at h
  split at h
  · cases h
  · next files hfiles =>
    cases h
    exact ⟨files, hfiles, rfl⟩

theorem package_eq_error {root : Path} {e : Error} (h : f.package fs root = .error e) :
    ∃ cause, e = .unlistable cause ∧ f.packageFiles fs root = .error (.unlistable cause) := by
  unfold package at h
  dsimp only at h
  split at h
  · next hfiles =>
    cases h
    have hcause := hfiles
    unfold packageFiles at hcause
    split at hcause
    · cases hcause
      exact ⟨_, rfl, hfiles⟩
    · cases hcause
  · cases h

theorem root_of_package {root : Path} (h : f.package fs root = .ok t) :
    ∃ p, t = .package p ∧ p.root = root := by
  obtain ⟨files, -, rfl⟩ := package_eq_ok h
  exact ⟨_, rfl, rfl⟩

/-! ## Searching -/

theorem test_of_locate? {q : Path} (h : f.locate? p test = some q) : test q = true := by
  unfold locate? at h
  split at h
  · split at h
    · next htest =>
      cases h
      exact htest
    · cases h
  · exact List.find?_some h

/-- A target that was found is a source file or the package in a directory. -/
theorem resolve_cases (h : f.resolve fs target = .ok t) :
    (∃ q, t = .sourceFile q ∧ fs.isFile q = true) ∨
      ∃ dir, fs.isDirectory dir = true ∧ f.package fs dir = .ok t := by
  unfold resolve at h
  dsimp only at h
  split at h
  · split at h
    · next q hq =>
      cases h
      exact Or.inl ⟨q, rfl, test_of_locate? hq⟩
    · cases h
  · split at h
    · next dir hdir => exact Or.inr ⟨dir, test_of_locate? hdir, h⟩
    · split at h
      · next dir hdir => exact Or.inr ⟨dir, test_of_locate? hdir, h⟩
      · split at h
        · next q hq =>
          cases h
          exact Or.inl ⟨q, rfl, test_of_locate? hq⟩
        · cases h

/-- A relative path leads to a directory under one of the roots. -/
def IsUnder (fs : FileSystem) (roots : List Path) (p : Path) : Prop :=
  p.isAbsolute = false ∧ ∃ root ∈ roots, fs.isDirectory (root.join p) = true

instance (fs : FileSystem) (roots : List Path) (p : Path) : Decidable (IsUnder fs roots p) :=
  inferInstanceAs (Decidable (_ ∧ _))

theorem make_eq_ok {patterns : List Text} (h : make paths patterns = .ok f) :
    f.roots = ⟨"."⟩ :: paths ∧ parsePatterns patterns = .ok f.exclude := by
  unfold make at h
  split at h
  · cases h
  · next hpatterns =>
    cases h
    exact ⟨rfl, hpatterns⟩

section Locate

variable (hroots : f.roots = ⟨"."⟩ :: paths)

include hroots

theorem locate?_of_here (h : test (Path.join ⟨"."⟩ p) = true) :
    f.locate? p test = some (Path.join ⟨"."⟩ p) := by
  unfold locate?
  cases habsolute : p.isAbsolute with
  | true =>
    rw [Path.join_of_isAbsolute habsolute] at h ⊢
    rw [if_pos rfl, if_pos h]
  | false =>
    rw [if_neg Bool.false_ne_true, hroots, List.map_cons, List.find?_cons_of_pos h]

theorem locate?_of_not_here (h : test (Path.join ⟨"."⟩ p) = false) :
    f.locate? p test =
      if p.isAbsolute then none else (paths.map (·.join p)).find? test := by
  unfold locate?
  cases habsolute : p.isAbsolute with
  | true =>
    rw [Path.join_of_isAbsolute habsolute] at h
    rw [if_pos rfl, if_pos rfl, if_neg (by rw [h]; exact Bool.false_ne_true)]
  | false =>
    rw [if_neg Bool.false_ne_true, if_neg Bool.false_ne_true, hroots, List.map_cons,
      List.find?_cons_of_neg (by rw [h]; exact Bool.false_ne_true)]

theorem locate?_of_isUnder (h : fs.isDirectory (Path.join ⟨"."⟩ p) = false)
    (hunder : IsUnder fs paths p) :
    ∃ root ∈ paths, f.locate? p fs.isDirectory = some (root.join p) := by
  obtain ⟨habsolute, root, hroot, hdirectory⟩ := hunder
  rw [locate?_of_not_here hroots h, if_neg (by rw [habsolute]; exact Bool.false_ne_true)]
  cases hfind : (paths.map (·.join p)).find? fs.isDirectory with
  | none =>
    rw [List.find?_eq_none] at hfind
    exact absurd hdirectory (hfind _ (List.mem_map_of_mem hroot))
  | some dir =>
    obtain ⟨root', hroot', rfl⟩ := List.mem_map.1 (List.mem_of_find?_eq_some hfind)
    exact ⟨root', hroot', rfl⟩

theorem locate?_of_not_isUnder (h : fs.isDirectory (Path.join ⟨"."⟩ p) = false)
    (hunder : ¬IsUnder fs paths p) : f.locate? p fs.isDirectory = none := by
  rw [locate?_of_not_here hroots h]
  split
  · rfl
  · next habsolute =>
    rw [List.find?_eq_none]
    intro dir hdir hdirectory
    obtain ⟨root, hroot, rfl⟩ := List.mem_map.1 hdir
    exact hunder ⟨by simpa using habsolute, root, hroot, hdirectory⟩

end Locate

/-! ## Readings of a target -/

section Readings

variable (htarget : ¬(".py" : Text).isSuffixOf target = true)

include htarget

theorem resolve_direct {dir : Path} (h : f.locate? ⟨target⟩ fs.isDirectory = some dir) :
    f.resolve fs target = f.package fs dir := by
  unfold resolve
  rw [if_neg htarget, h]

theorem resolve_dotted {dir : Path} (hdirect : f.locate? ⟨target⟩ fs.isDirectory = none)
    (h : f.locate? (Path.ofDotted target) fs.isDirectory = some dir) :
    f.resolve fs target = f.package fs dir := by
  unfold resolve
  rw [if_neg htarget, hdirect]
  dsimp only
  rw [h]

theorem resolve_file (hdirect : f.locate? ⟨target⟩ fs.isDirectory = none)
    (hdotted : f.locate? (Path.ofDotted target) fs.isDirectory = none) :
    f.resolve fs target =
      ((f.locate? ((Path.ofDotted target).withExtension "py") fs.isFile).map fun p =>
        Target.sourceFile p).elim (.error (.moduleNotFound target)) .ok := by
  unfold resolve
  rw [if_neg htarget, hdirect]
  dsimp only
  rw [hdotted]
  cases f.locate? ((Path.ofDotted target).withExtension "py") fs.isFile with
  | none => rfl
  | some p => rfl

end Readings

/-- A directory under one of the further roots answers to an earlier reading of the target than
anything in the current directory. -/
def IsShadowed (fs : FileSystem) (paths : List Path) (target : Text) : Prop :=
  ¬(".py" : Text).isSuffixOf target = true ∧
  fs.isDirectory (Path.join ⟨"."⟩ ⟨target⟩) = false ∧
  (IsUnder fs paths ⟨target⟩ ∨
    fs.isDirectory (Path.join ⟨"."⟩ (Path.ofDotted target)) = false ∧
      IsUnder fs paths (Path.ofDotted target))

instance (fs : FileSystem) (paths : List Path) (target : Text) :
    Decidable (IsShadowed fs paths target) :=
  inferInstanceAs (Decidable (_ ∧ _ ∧ (_ ∨ _ ∧ _)))

section MoreRoots

variable (hroots₀ : f₀.roots = [⟨"."⟩]) (hroots : f.roots = ⟨"."⟩ :: paths)

include hroots₀

theorem locate?_alone (p : Path) (test : Path → Bool) :
    f₀.locate? p test =
      if test (Path.join ⟨"."⟩ p) then some (Path.join ⟨"."⟩ p) else none := by
  cases h : test (Path.join ⟨"."⟩ p) with
  | true => exact locate?_of_here hroots₀ h
  | false =>
    rw [locate?_of_not_here hroots₀ h, List.map_nil, List.find?_nil]
    exact ite_self none

theorem locate?_alone_eq_none (h : test (Path.join ⟨"."⟩ p) = false) :
    f₀.locate? p test = none := by
  rw [locate?_alone hroots₀, h]
  rfl

/-- What alone answers to a target in the current directory, if no directory answers to it
directly. -/
theorem alone_cases (htarget : ¬(".py" : Text).isSuffixOf target = true)
    (hdirect : fs.isDirectory (Path.join ⟨"."⟩ ⟨target⟩) = false)
    (ht : f₀.resolve fs target = .ok t) :
    (∃ q, t = .package q ∧ q.root = Path.join ⟨"."⟩ (Path.ofDotted target) ∧
      fs.isDirectory (Path.join ⟨"."⟩ (Path.ofDotted target)) = true) ∨
    ∃ q, t = .sourceFile q := by
  have hnone := locate?_alone_eq_none hroots₀ hdirect
  cases hdotted : fs.isDirectory (Path.join ⟨"."⟩ (Path.ofDotted target)) with
  | true =>
    rw [resolve_dotted htarget hnone (locate?_of_here hroots₀ hdotted)] at ht
    obtain ⟨q, hq, hroot⟩ := root_of_package ht
    exact Or.inl ⟨q, hq, hroot, rfl⟩
  | false =>
    rw [resolve_file htarget hnone (locate?_alone_eq_none hroots₀ hdotted)] at ht
    cases hfile : f₀.locate? ((Path.ofDotted target).withExtension "py") fs.isFile with
    | none =>
      rw [hfile] at ht
      cases ht
    | some q =>
      rw [hfile] at ht
      cases ht
      exact Or.inr ⟨q, rfl⟩

include hroots

theorem locate?_more {q : Path} (h : f₀.locate? p test = some q) : f.locate? p test = some q := by
  rw [locate?_alone hroots₀] at h
  split at h
  · next hhere =>
    cases h
    exact locate?_of_here hroots hhere
  · cases h

/-- Without a directory elsewhere in its way, the target stays what it is. -/
theorem resolve_of_not_isShadowed (hexclude : f.exclude = f₀.exclude)
    (hshadow : ¬IsShadowed fs paths target) (ht : f₀.resolve fs target = .ok t) :
    f.resolve fs target = .ok t := by
  by_cases htarget : (".py" : Text).isSuffixOf target = true
  · unfold resolve at ht ⊢
    rw [if_pos htarget] at ht ⊢
    split at ht
    · next hfile =>
      rw [locate?_more hroots₀ hroots hfile]
      exact ht
    · cases ht
  cases hdirect : fs.isDirectory (Path.join ⟨"."⟩ ⟨target⟩) with
  | true =>
    rw [resolve_direct htarget (locate?_of_here hroots₀ hdirect)] at ht
    rw [resolve_direct htarget (locate?_of_here hroots hdirect), package_roots hexclude, ht]
  | false =>
    have hunder : ¬IsUnder fs paths ⟨target⟩ := fun h => hshadow ⟨htarget, hdirect, Or.inl h⟩
    have hnone := locate?_of_not_isUnder hroots hdirect hunder
    have hnone₀ := locate?_alone_eq_none hroots₀ hdirect
    cases hdotted : fs.isDirectory (Path.join ⟨"."⟩ (Path.ofDotted target)) with
    | true =>
      rw [resolve_dotted htarget hnone₀ (locate?_of_here hroots₀ hdotted)] at ht
      rw [resolve_dotted htarget hnone (locate?_of_here hroots hdotted), package_roots hexclude, ht]
    | false =>
      have hunder' : ¬IsUnder fs paths (Path.ofDotted target) :=
        fun h => hshadow ⟨htarget, hdirect, Or.inr ⟨hdotted, h⟩⟩
      rw [resolve_file htarget hnone₀ (locate?_alone_eq_none hroots₀ hdotted)] at ht
      rw [resolve_file htarget hnone (locate?_of_not_isUnder hroots hdotted hunder')]
      cases hfile : f₀.locate? ((Path.ofDotted target).withExtension "py") fs.isFile with
      | none =>
        rw [hfile] at ht
        cases ht
      | some q =>
        rw [hfile] at ht
        rw [locate?_more hroots₀ hroots hfile]
        exact ht

end MoreRoots

/-- A directory elsewhere that is in its way is what the target becomes. -/
theorem exists_resolve_eq_package (hroots : f.roots = ⟨"."⟩ :: paths)
    (hshadow : IsShadowed fs paths target) :
    ∃ root ∈ paths, ∃ p, f.resolve fs target = f.package fs (root.join p) ∧
      (p = ⟨target⟩ ∧ p.isAbsolute = false ∨
        fs.isDirectory (Path.join ⟨"."⟩ (Path.ofDotted target)) = false) := by
  obtain ⟨htarget, hdirect, hunder⟩ := hshadow
  by_cases hdirectly : IsUnder fs paths ⟨target⟩
  · obtain ⟨root, hroot, hlocate⟩ := locate?_of_isUnder hroots hdirect hdirectly
    exact ⟨root, hroot, ⟨target⟩, resolve_direct htarget hlocate, Or.inl ⟨rfl, hdirectly.1⟩⟩
  · obtain ⟨hdotted, hunder⟩ := hunder.resolve_left hdirectly
    have hnone := locate?_of_not_isUnder hroots hdirect hdirectly
    obtain ⟨root, hroot, hlocate⟩ := locate?_of_isUnder hroots hdotted hunder
    exact ⟨root, hroot, Path.ofDotted target, resolve_dotted htarget hnone hlocate, Or.inr hdotted⟩

theorem resolve_ne_of_isShadowed (hroots₀ : f₀.roots = [⟨"."⟩])
    (hroots : f.roots = ⟨"."⟩ :: paths) (hshadow : IsShadowed fs paths target)
    (ht : f₀.resolve fs target = .ok t) : f.resolve fs target ≠ .ok t := by
  intro heq
  obtain ⟨root, -, p, hpackage, hp⟩ := exists_resolve_eq_package hroots hshadow
  rw [hpackage] at heq
  obtain ⟨q, rfl, hroot⟩ := root_of_package heq
  obtain ⟨htarget, hdirect, -⟩ := hshadow
  rcases alone_cases hroots₀ htarget hdirect ht with ⟨q', hq', hroot', hdotted⟩ | ⟨q', hq'⟩
  · cases hq'
    rcases hp with ⟨rfl, hrelative⟩ | hdotted'
    · have hne : Path.ofDotted target ≠ ⟨target⟩ := by
        intro hsame
        rw [hsame, hdirect] at hdotted
        cases hdotted
      exact Path.join_ne_join_ofDotted hrelative hne root (hroot.symm.trans hroot')
    · cases hdotted.symm.trans hdotted'
  · cases hq'

/-- What the current directory alone makes of a target stays the same with further roots, exactly if
no directory under them answers to an earlier reading. -/
theorem resolve_more_roots_iff {patterns : List Text} (h₀ : make [] patterns = .ok f₀)
    (h : make paths patterns = .ok f) (ht : f₀.resolve fs target = .ok t) :
    f.resolve fs target = .ok t ↔ ¬IsShadowed fs paths target := by
  obtain ⟨hroots₀, hpatterns₀⟩ := make_eq_ok h₀
  obtain ⟨hroots, hpatterns⟩ := make_eq_ok h
  have hexclude : f.exclude = f₀.exclude := Except.ok.inj (hpatterns.symm.trans hpatterns₀)
  constructor
  · intro heq hshadow
    exact resolve_ne_of_isShadowed hroots₀ hroots hshadow ht heq
  · intro hshadow
    exact resolve_of_not_isShadowed hroots₀ hroots hexclude hshadow ht

/-- A module in the current directory and a directory of the same name under a further root. -/
theorem resolve_more_roots_shadowed_module :
    let fs : FileSystem := ⟨[(["mod.py".toList], .file (.text "")), (["lib".toList], .directory),
      (["lib".toList, "mod".toList], .directory)], [], by decide⟩
    let f₀ : Finder := ⟨[⟨"."⟩], []⟩
    let f : Finder := ⟨[⟨"."⟩, ⟨"lib"⟩], []⟩
    make [] [] = .ok f₀ ∧ make [⟨"lib"⟩] [] = .ok f ∧
    f₀.resolve fs "mod" = .ok (.sourceFile ⟨"./mod.py"⟩) ∧
    (f.resolve fs "mod" = .ok (.sourceFile ⟨"./mod.py"⟩) ↔ ¬IsShadowed fs [⟨"lib"⟩] "mod") ∧
    f.resolve fs "mod" = .ok (.package ⟨⟨"lib/mod"⟩, none, []⟩) ∧
    IsShadowed fs [⟨"lib"⟩] "mod" ∧ ¬IsShadowed fs [⟨"lib"⟩] "mod.py" := by
  intro fs f₀ f
  have h₀ : make [] [] = .ok f₀ := rfl
  have h : make [⟨"lib"⟩] [] = .ok f := rfl
  have ht : f₀.resolve fs "mod" = .ok (.sourceFile ⟨"./mod.py"⟩) := by decide +kernel
  exact ⟨h₀, h, ht, resolve_more_roots_iff h₀ h ht, by decide +kernel, by decide +kernel,
    by decide +kernel⟩

end Finder

end DocOutline
