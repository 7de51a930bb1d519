import DocOutline.Package.Reader
import DocOutline.Proofs.Outline.Options
import DocOutline.Proofs.Package.Gathering
import DocOutline.Proofs.Reading

/-!
# Packages and single files

Reading a package is reading its files one by one and leaving the entries of the modules out. It
does not matter in which order the files are done.
-/

namespace DocOutline

/-! ## Modules in an outline -/

/-- The entry of the module that a source is. A source that breaks off is none. -/
def moduleOf? (source : Text) : Option Entry :=
  let t := Syntax.parse source.unifyNewlines
  if t.kind = .sourceFile then
    some
      { subject := .moduleDoc
        title := []
        definition := []
        docstring := (docstring? t).getD "Docstring empty"
        level := 0 }
  else none

theorem isModule_of_moduleOf? {source : Text} :
    ∀ e, moduleOf? source = some e → e.isModule = true := by
  intro e he
  unfold moduleOf? at he
  dsimp only at he
  split at he
  · cases he
    rfl
  · cases he

/-- The entries without that of a module in front of them, if there is one. -/
def withoutModule : List Entry → List Entry
  | [] => []
  | e :: es => if e.isModule then es else e :: es

theorem withoutModule_append {m : Option Entry} {es : List Entry}
    (hm : ∀ e, m = some e → e.isModule = true) (hes : ∀ e ∈ es, e.isModule = false) :
    withoutModule (m.toList ++ es) = es := by
  cases m with
  | some e => exact if_pos (hm e rfl)
  | none =>
    cases es with
    | nil => rfl
    | cons e es => exact if_neg (Bool.not_eq_true _ ▸ hes e List.mem_cons_self)

theorem value_outline (options : OutlineOptions) (source : Text) :
    (outline options source).value =
      (Outline.ofTree options (Syntax.parse source.unifyNewlines)).value := by
  unfold outline
  dsimp only
  split <;> rfl

theorem value_outline_module (options : OutlineOptions) (source : Text) :
    (outline { options with moduleDocstring := true } source).value =
      (moduleOf? source).toList ++
        (outline { options with moduleDocstring := false } source).value := by
  rw [value_outline, value_outline,
    Outline.ofTree_moduleDocstring options (Syntax.isInner_of_mem_parse _), Noted.value_map]
  unfold moduleOf?
  dsimp only
  split <;> rfl

theorem isModule_of_mem_outline {options : OutlineOptions} {source : Text} {e : Entry}
    (hoff : options.moduleDocstring = false) (h : e ∈ (outline options source).value) :
    e.isModule = false := by
  rw [value_outline] at h
  exact Outline.isModule_of_mem_ofTree hoff h

namespace Reader

/-- The entries of the target, without the notes. -/
def result (r : Reader) (fs : FileSystem) : Except Error (List Entry) := (r.read fs).run.value

/-- The same reader for a single source file. -/
def onFile (r : Reader) (q : Path) : Reader := { r with target := .sourceFile q }

/-- The same reader for a package. -/
def onPackage (r : Reader) (p : Package) : Reader := { r with target := .package p }

/-- What becomes of each file of a package. -/
def outcomes (r : Reader) (fs : FileSystem) (p : Package) : List (Except Error (List Entry)) :=
  p.files.map fun q => (r.readFile fs false q).run.value

/-- The entries of a package whose files are done in some order. -/
def resultIn (r : Reader) (fs : FileSystem) (p : Package) (order : List Nat) :
    Option (Except Error (List Entry)) :=
  (Gathering.run (r.outcomes fs p) order).result?.map (List.flatten <$> ·)

variable (r : Reader) (fs : FileSystem)

/-! ## One file -/

theorem value_readFile_of_ok {q : Path} {source : Text} (h : fs.read q = .ok source) (b : Bool) :
    (r.readFile fs b q).run.value =
      .ok (outline { r.options with moduleDocstring := b } source).value := by
  unfold readFile ofFile Reading.file
  rw [Reading.outcome_bind, Reading.outcome, h]
  change ((Reading.ofNoted _).outcome fs).run.value = _
  rw [Reading.outcome_ofNoted]
  rfl

theorem value_readFile_of_error {q : Path} {cause : FileError}
    (h : fs.read q = .error cause) (b : Bool) :
    (r.readFile fs b q).run.value = .error (.unreadable (q.text ++ ": " ++ cause.message)) := by
  unfold readFile ofFile Reading.file
  rw [Reading.outcome_bind, Reading.outcome, h]
  rfl

/-- A file that cannot be read fails in the same way with and without the entry of its module. One
that can be read has this entry in front of the others, if its source is a module. -/
theorem file_cases (q : Path) :
    ((∀ t, fs.read q ≠ .ok t) ∧ ∃ e, (r.onFile q).result fs = .error e ∧
      (r.readFile fs false q).run.value = .error e) ∨
    ∃ source rest, fs.read q = .ok source ∧ (∀ e ∈ rest, e.isModule = false) ∧
      (r.onFile q).result fs = .ok ((moduleOf? source).toList ++ rest) ∧
      (r.readFile fs false q).run.value = .ok rest := by
  have hresult : (r.onFile q).result fs = (r.readFile fs true q).run.value := rfl
  rw [hresult]
  cases hread : fs.read q with
  | error cause =>
    exact Or.inl ⟨nofun, _, r.value_readFile_of_error fs hread true,
      r.value_readFile_of_error fs hread false⟩
  | ok source =>
    have hmodule := r.value_readFile_of_ok fs hread true
    rw [value_outline_module r.options source] at hmodule
    exact Or.inr ⟨source, _, rfl, fun e => isModule_of_mem_outline rfl, hmodule,
      r.value_readFile_of_ok fs hread false⟩

theorem value_readFile_eq (q : Path) :
    (r.readFile fs false q).run.value = withoutModule <$> (r.onFile q).result fs := by
  rcases r.file_cases fs q with ⟨-, e, hfile, hpart⟩ | ⟨source, rest, -, hrest, hfile, hpart⟩
  · rw [hfile, hpart]
    rfl
  · rw [hfile, hpart]
    exact congrArg Except.ok (withoutModule_append isModule_of_moduleOf? hrest).symm

theorem result_onFile_ok_iff (q : Path) :
    (∃ es, (r.onFile q).result fs = .ok es) ↔ ∃ t, fs.read q = .ok t := by
  rcases r.file_cases fs q with ⟨hread, e, hfile, -⟩ | ⟨source, rest, hread, -, hfile, -⟩
  · rw [hfile]
    exact ⟨nofun, fun ⟨t, ht⟩ => absurd ht (hread t)⟩
  · exact ⟨fun _ => ⟨source, hread⟩, fun _ => ⟨_, hfile⟩⟩

theorem isModule_of_mem_withoutModule {q : Path} {es : List Entry}
    (h : (r.onFile q).result fs = .ok es) : ∀ e ∈ withoutModule es, e.isModule = false := by
  rcases r.file_cases fs q with ⟨-, e, hfile, -⟩ | ⟨source, rest, -, hrest, hfile, -⟩
  · cases hfile.symm.trans h
  · cases hfile.symm.trans h
    rw [withoutModule_append isModule_of_moduleOf? hrest]
    exact hrest

/-! ## All files -/

/-- What the files of a package come to, one by one: their entries without those of the modules in
front of them if all of them can be read, and else an error of one that cannot. -/
structure OfFiles (p : Package) (x : Except Error (List Entry)) : Prop where
  ok_iff : (∃ es, x = .ok es) ↔ ∀ q ∈ p.files, ∃ es, (r.onFile q).result fs = .ok es
  entries : ∀ es, x = .ok es → ∃ results : List (List Entry),
    p.files.map (fun q => (r.onFile q).result fs) = results.map .ok ∧
      es = results.flatMap withoutModule
  error : ∀ e, x = .error e → ∃ q ∈ p.files, (r.onFile q).result fs = .error e

variable {r fs} {p : Package}

theorem outcomes_eq_ok {ess : List (List Entry)} : r.outcomes fs p = ess.map .ok ↔
    ∃ results : List (List Entry), p.files.map (fun q => (r.onFile q).result fs) =
      results.map .ok ∧ ess = results.map withoutModule := by
  have houtcomes : r.outcomes fs p =
      (p.files.map fun q => (r.onFile q).result fs).map (withoutModule <$> ·) := by
    rw [List.map_map]
    exact List.map_congr_left fun q _ => r.value_readFile_eq fs q
  have hrests : ∀ results : List (List Entry),
      (results.map Except.ok).map (withoutModule <$> ·) =
        (results.map withoutModule).map (Except.ok (ε := Error)) := by
    intro results
    rw [List.map_map, List.map_map]
    rfl
  rw [houtcomes]
  constructor
  · intro h
    rcases mapM_cases (p.files.map fun q => (r.onFile q).result fs) with
      ⟨results, hresults, -⟩ | ⟨e, he, -⟩
    · rw [hresults, hrests] at h
      exact ⟨results, hresults, (map_ok_inj h).symm⟩
    · have hmem := List.mem_map_of_mem (f := (withoutModule <$> ·)) he
      rw [h] at hmem
      exact absurd hmem error_not_mem_map_ok
  · rintro ⟨results, hresults, rfl⟩
    rw [hresults, hrests]

theorem error_mem_outcomes {e : Error} (h : .error e ∈ r.outcomes fs p) :
    ∃ q ∈ p.files, (r.onFile q).result fs = .error e := by
  obtain ⟨q, hq, hpart⟩ := List.mem_map.1 h
  refine ⟨q, hq, ?_⟩
  rcases r.file_cases fs q with ⟨-, e', hfile, hpart'⟩ | ⟨source, rest, -, -, -, hpart'⟩
  · cases hpart'.symm.trans hpart
    exact hfile
  · cases hpart'.symm.trans hpart

theorem ofFiles_flatten {x : Except Error (List (List Entry))}
    (h : Gathers (r.outcomes fs p) x) : OfFiles r fs p (List.flatten <$> x) where
  ok_iff := by
    constructor
    · rintro ⟨es, hes⟩ q hq
      obtain ⟨ess, hx, -⟩ := map_eq_ok.1 hes
      obtain ⟨results, hresults, -⟩ := outcomes_eq_ok.1 ((h.ok_iff ess).1 hx)
      have hmem := List.mem_map_of_mem (f := fun q => (r.onFile q).result fs) hq
      rw [hresults] at hmem
      obtain ⟨es, -, heq⟩ := List.mem_map.1 hmem
      exact ⟨es, heq.symm⟩
    · intro hall
      cases hx : x with
      | ok ess => exact ⟨ess.flatten, rfl⟩
      | error e =>
        obtain ⟨q, hq, he⟩ := error_mem_outcomes (h.error e hx)
        obtain ⟨es, hes⟩ := hall q hq
        cases he.symm.trans hes
  entries := by
    intro es hes
    obtain ⟨ess, hx, rfl⟩ := map_eq_ok.1 hes
    obtain ⟨results, hresults, rfl⟩ := outcomes_eq_ok.1 ((h.ok_iff ess).1 hx)
    exact ⟨results, hresults, List.flatMap_def.symm⟩
  error := by
    intro e he
    cases hx : x with
    | ok ess =>
      rw [hx] at he
      cases he
    | error e' =>
      rw [hx] at he
      cases he
      exact error_mem_outcomes (h.error _ hx)

theorem result_onPackage (r : Reader) (fs : FileSystem) (p : Package) :
    (r.onPackage p).result fs = List.flatten <$> (r.outcomes fs p).mapM id := by
  have hvalue : (r.onPackage p).result fs =
      ((Reading.collect (r.ofFile false) p.files).outcome fs).run.value >>= fun ess =>
        .ok ess.flatten := Reading.value_outcome_bind fs _ _
  rw [hvalue, Reading.value_outcome_collect]
  rfl

/-- Reading a package agrees with reading its files one by one and leaving out the module in front
of each of them. It does not matter in which order they are done. -/
theorem read_package_eq_files (r : Reader) (fs : FileSystem) (p : Package) :
    (∀ q ∈ p.files, ((∃ es, (r.onFile q).result fs = .ok es) ↔ ∃ t, fs.read q = .ok t) ∧
      ∀ es, (r.onFile q).result fs = .ok es → ∀ e ∈ withoutModule es, e.isModule = false) ∧
    OfFiles r fs p ((r.onPackage p).result fs) ∧
    ∀ order, Gathering.IsSettled (r.outcomes fs p) order →
      ∃ x, r.resultIn fs p order = some x ∧ OfFiles r fs p x ∧
        ∀ es, x = .ok es ↔ (r.onPackage p).result fs = .ok es := by
  have hsequence := gathers_mapM (r.outcomes fs p)
  refine ⟨?_, ?_, ?_⟩
  · intro q _
    exact ⟨r.result_onFile_ok_iff fs q, fun es h => r.isModule_of_mem_withoutModule fs h⟩
  · rw [result_onPackage]
    exact ofFiles_flatten hsequence
  · intro order hsettled
    obtain ⟨x, hx, hgathers⟩ := Gathering.exists_gathered hsettled
    refine ⟨List.flatten <$> x, ?_, ofFiles_flatten hgathers, ?_⟩
    · unfold resultIn
      rw [hx]
      rfl
    · intro es
      rw [result_onPackage, map_eq_ok, map_eq_ok]
      refine exists_congr fun ess => and_congr_left fun _ => ?_
      rw [hgathers.ok_iff, hsequence.ok_iff]

/-- The second file breaks off and is done first. With a file that is missing the first one need not
be done. -/
theorem read_package_eq_files_reversed :
    let fs : FileSystem := ⟨[(["a".toList], .file (.text "'m'\ndef f(): 'd'\n")),
      (["b".toList], .file (.text ("class B: pass\n" ++ List.replicate 25 '(')))], [], by decide⟩
    let r : Reader := ⟨"p", .sourceFile ⟨"a"⟩, ⟨true, true, .pre⟩⟩
    let p : Package := ⟨⟨"."⟩, none, [⟨"a"⟩, ⟨"b"⟩]⟩
    let broken : Package := ⟨⟨"."⟩, none, [⟨"a"⟩, ⟨"c"⟩, ⟨"b"⟩]⟩
    (Gathering.IsSettled (r.outcomes fs p) [1, 0] ∧
      ∃ es, (r.onPackage p).result fs = .ok es ∧ r.resultIn fs p [1, 0] = some (.ok es) ∧
        es.map (·.title) = ["f()".toList, "B()".toList]) ∧
    Gathering.IsSettled (r.outcomes fs broken) [2, 1] ∧
      ∃ x, r.resultIn fs broken [2, 1] = some x ∧ OfFiles r fs broken x := by
  intro fs r p broken
  have hp : Gathering.IsSettled (r.outcomes fs p) [1, 0] := Or.inl (by decide)
  have hmissing : fs.read ⟨"c"⟩ = .error .notFound := by decide +kernel
  have hbroken : Gathering.IsSettled (r.outcomes fs broken) [2, 1] :=
    Or.inr ⟨1, by decide, _, congrArg some (r.value_readFile_of_error fs hmissing false)⟩
  obtain ⟨es, hes, htitles⟩ : ∃ es, (r.onPackage p).result fs = .ok es ∧
      es.map (·.title) = ["f()".toList, "B()".toList] := map_eq_ok.1 (by decide +kernel)
  obtain ⟨x, hx, -, hok⟩ := (read_package_eq_files r fs p).2.2 [1, 0] hp
  obtain ⟨y, hy, hfiles, -⟩ := (read_package_eq_files r fs broken).2.2 [2, 1] hbroken
  rw [(hok es).2 hes] at hx
  exact ⟨⟨hp, es, hes, hx, htitles⟩, hbroken, y, hy, hfiles⟩

end Reader

end DocOutline
