import DocOutline.Proofs.FileSystem.Writing
import DocOutline.Proofs.Run.Errors

/-!
# What a run does to files

A run writes to its log file and to its output file. A run that fails writes to the log file alone,
and one that fails for its settings writes to no file (`execute_error_files`). A run that gets to
its document prints it, or leaves it in the output file (`execute_delivers`).

The log is written while files are read. This does not show in the document unless one of these
files changes as the log grows (`Reading.Stays.carryOut_eq`).
-/

namespace DocOutline

/-! ## The log -/

namespace Logger

variable {fs opened : FileSystem} {l : Logger} {s : LogSettings} {environment : Option Text}

theorem write_rewritten (hopen : ∀ loc ∈ l.file, fs.TakesFile loc) (notes : List Note) :
    fs.Rewritten l.file.toList (l.write fs notes) := by
  unfold write
  cases hfile : l.file with
  | none => exact .nil fs
  | some loc =>
    have htakes := hopen loc hfile
    dsimp only [Option.toList]
    cases happend : fs.append loc ((l.level.filter notes).flatMap lineOf) with
    | error cause => exact .singleton htakes
    | ok written => exact FileSystem.append_rewritten htakes happend

theorem start_ok (h : start fs environment s = .ok (opened, l)) :
    l.file = s.file.bind fs.fileFor? ∧ fs.Rewritten l.file.toList opened := by
  unfold start at h
  cases hpath : s.file with
  | none =>
    rw [hpath] at h
    cases h
    exact ⟨rfl, .nil fs⟩
  | some p =>
    rw [hpath] at h
    dsimp only at h
    rcases fs.openForWriting_of_fileFor? false p with
      ⟨-, cause, hcause⟩ | ⟨opened', loc, hfile, hopen, hopens⟩
    · rw [hcause] at h
      cases h
    · rw [hopen] at h
      cases h
      exact ⟨hfile.symm, hopens.rewritten⟩

theorem start_error {e : Error} (h : start fs environment s = .error e) :
    s.file.bind fs.fileFor? = none := by
  unfold start at h
  cases hpath : s.file with
  | none => rfl
  | some p =>
    rw [hpath] at h
    dsimp only at h
    rcases fs.openForWriting_of_fileFor? false p with ⟨hnone, -⟩ | ⟨opened', loc, -, hopen, -⟩
    · exact hnone
    · rw [hopen] at h
      cases h

/-- The file system after notes were written to the log one by one. -/
def written (l : Logger) (fs : FileSystem) (notes : List Note) : FileSystem :=
  notes.foldl (fun fs n => l.write fs [n]) fs

theorem written_rewritten (hopen : ∀ loc ∈ l.file, fs.TakesFile loc) (notes : List Note) :
    fs.Rewritten l.file.toList (l.written fs notes) := by
  induction notes generalizing fs with
  | nil => exact (FileSystem.Rewritten.nil fs).mono nofun (by simpa using hopen)
  | cons n notes ih =>
    have hwrite := write_rewritten hopen [n]
    exact hwrite.trans (ih fun loc hloc => hwrite.takesFile (hopen loc hloc))

/-- A file reads the same however the log grows. -/
def LeavesAlone (l : Logger) (fs : FileSystem) (p : Path) : Prop :=
  ∀ notes, (l.written fs notes).read p = fs.read p

theorem LeavesAlone.write {p : Path} (h : l.LeavesAlone fs p) (n : Note) :
    l.LeavesAlone (l.write fs [n]) p := by
  intro notes
  exact (h (n :: notes)).trans (h [n]).symm

theorem leavesAlone_of_none (h : l.file = none) (p : Path) : l.LeavesAlone fs p := by
  have hwrite : ∀ n, l.write fs [n] = fs := by
    intro n
    unfold write
    rw [h]
  have hwritten : ∀ notes, l.written fs notes = fs := by
    intro notes
    induction notes with
    | nil => rfl
    | cons n notes ih =>
      change l.written (l.write fs [n]) notes = fs
      rw [hwrite, ih]
  intro notes
  rw [hwritten]

theorem leavesAlone_of_find {p : Path} {loc : Location} {c : Content}
    (hopen : ∀ loc ∈ l.file, fs.TakesFile loc)
    (hfind : fs.find .target p = .ok ⟨loc, some (.file c)⟩) (hloc : l.file ≠ some loc) :
    l.LeavesAlone fs p := by
  intro notes
  refine (written_rewritten hopen notes).read_eq hfind ?_
  intro hmem
  exact hloc (Option.mem_toList.1 hmem)

theorem carryOut_files {α : Type} (x : Reading α) :
    (l.carryOut x fs).1 = l.written fs (l.carryOut x fs).2.notes := by
  induction x generalizing fs with
  | done r => rfl
  | note n rest ih => exact ih
  | read p rest ih => exact ih (fs.read p)

end Logger

namespace Reading.Stays

variable {α : Type} {files : Path → Prop} {errors : Error → Prop} {x : Reading α} {l : Logger}
  {fs : FileSystem}

theorem carryOut_error (h : x.Stays files errors) :
    ∀ e, (l.carryOut x fs).2.value = .error e → errors e := by
  induction x generalizing fs with
  | done r => exact h
  | note n rest ih => exact ih h
  | read p rest ih => exact ih _ (h.2 _)

/-- If the files that are read do not change as the log grows, it does not matter that it does. -/
theorem carryOut_eq (h : x.Stays files errors) (hfiles : ∀ p, files p → l.LeavesAlone fs p) :
    (l.carryOut x fs).2 = (x.outcome fs).run := by
  induction x generalizing fs with
  | done r => rfl
  | note n rest ih =>
    -- The files that the rest reads are as they were before the note.
    have hsame : rest.outcome (l.write fs [n]) = rest.outcome fs :=
      outcome_congr h fun p hp => hfiles p hp [n]
    have hrest := ih h fun p hp => (hfiles p hp).write n
    rw [hsame] at hrest
    change Noted.mk (l.carryOut rest (l.write fs [n])).2.value
      (n :: (l.carryOut rest (l.write fs [n])).2.notes) = _
    rw [hrest]
    rfl
  | read p rest ih => exact ih _ (h.2 _) hfiles

end Reading.Stays

namespace Run

variable {fs : FileSystem} {environment : Option Text} {args : CommandLine.Arguments}
  {s : Settings} {l : Logger} {target text : Text}

/-! ## Stages -/

/-- The log file of a run, if its settings are good and the file can be opened. -/
def logFile? (fs : FileSystem) (args : CommandLine.Arguments) : Option Location :=
  (settings fs args).toOption.bind fun s => s.log.file.bind fs.fileFor?

/-- The output file of a run, if its settings are good and the file can be opened. -/
def outputFile? (fs : FileSystem) (args : CommandLine.Arguments) : Option Location :=
  (settings fs args).toOption.bind fun s => s.document.output.bind fs.fileFor?

theorem validate_of_settings (h : settings fs args = .ok s) : s.validate = .ok () := by
  have hmerged : ∃ loaded : Settings, ((loaded.override args.overrides).validate >>= fun _ =>
      Except.ok (loaded.override args.overrides)) = .ok s := by
    unfold settings at h
    split at h
    · obtain ⟨loaded, -, hloaded⟩ := bind_eq_ok.1 h
      exact ⟨loaded, hloaded⟩
    · obtain ⟨loaded, -, hloaded⟩ := bind_eq_ok.1 h
      exact ⟨loaded, hloaded⟩
  obtain ⟨loaded, hloaded⟩ := hmerged
  obtain ⟨_, hvalid, hs⟩ := bind_eq_ok.1 hloaded
  cases hs
  exact hvalid

theorem logFile?_eq (h : settings fs args = .ok s) :
    logFile? fs args = s.log.file.bind fs.fileFor? := by
  unfold logFile?
  rw [h]
  rfl

theorem outputFile?_eq (h : settings fs args = .ok s) :
    outputFile? fs args = s.document.output.bind fs.fileFor? := by
  unfold outputFile?
  rw [h]
  rfl

/-- A run with its log set up, where it either failed or is about to deliver the document. -/
structure Logged (fs : FileSystem) (args : CommandLine.Arguments) (l : Logger) (x : Execution) :
    Prop where
  file : l.file = logFile? fs args
  printed : x.printed = []
  logger : x.logger = some l
  files : fs.Rewritten (logFile? fs args).toList x.files

section Logged

variable {opened : FileSystem} {x : Execution}

theorem Logged.takesFile (h : Logged fs args l x) : ∀ loc ∈ l.file, x.files.TakesFile loc := by
  intro loc hloc
  apply h.files.after
  rw [← h.file]
  exact Option.mem_toList.2 hloc

theorem Logged.write (h : Logged fs args l x) (notes : List Note) :
    fs.Rewritten (logFile? fs args).toList (l.write x.files notes) := by
  refine h.files.trans ?_
  rw [← h.file]
  exact Logger.write_rewritten h.takesFile notes

theorem logged_of_start (hsettings : Run.settings fs args = .ok s)
    (hstart : Logger.start fs environment s.log = .ok (opened, l)) :
    Logged fs args l ⟨opened, [], [], some l, .ok .success⟩ := by
  obtain ⟨hfile, hopened⟩ := Logger.start_ok hstart
  rw [← logFile?_eq hsettings] at hfile
  rw [hfile] at hopened
  exact ⟨hfile, rfl, rfl, hopened⟩

/-- A run that has done all that it does to make its document. -/
def worked (l : Logger) (opened : FileSystem) (task : Reading Text) : Execution :=
  let (files, made) := l.carryOut task opened
  ⟨files, [], l.level.filter made.notes, some l, .ok .success⟩

theorem logged_worked (hsettings : Run.settings fs args = .ok s)
    (hstart : Logger.start fs environment s.log = .ok (opened, l)) (task : Reading Text) :
    Logged fs args l (worked l opened task) := by
  have hlogged := logged_of_start hsettings hstart
  refine ⟨hlogged.file, rfl, rfl, hlogged.files.trans ?_⟩
  change opened.Rewritten _ (l.carryOut task opened).1
  rw [Logger.carryOut_files, ← hlogged.file]
  exact Logger.written_rewritten hlogged.takesFile _

end Logged

theorem withLogger_error {opened : FileSystem} {plan : DocumentPlan} {reader : Reader} {e : Error}
    (hprepare : prepare opened s target = .ok (plan, reader))
    (hvalue : (l.carryOut (plan.making reader) opened).2.value = .error e) :
    withLogger opened l s target =
      { worked l opened (plan.making reader) with result := .error e } := by
  unfold withLogger
  simp only [hprepare, hvalue]
  rfl

theorem withLogger_ok {opened : FileSystem} {plan : DocumentPlan} {reader : Reader}
    (hprepare : prepare opened s target = .ok (plan, reader))
    (hvalue : (l.carryOut (plan.making reader) opened).2.value = .ok text) :
    withLogger opened l s target = deliver (worked l opened (plan.making reader)) l plan text := by
  unfold withLogger
  simp only [hprepare, hvalue]
  rfl

theorem execute_eq_withLogger {opened : FileSystem} (hsettings : settings fs args = .ok s)
    (hstart : Logger.start fs environment s.log = .ok (opened, l)) :
    execute fs environment args = withLogger opened l s args.package := by
  unfold execute
  simp only [hsettings, hstart]

/-- A run gets to its document, with these settings. -/
structure MakesDocument (fs : FileSystem) (environment : Option Text)
    (args : CommandLine.Arguments) (s : Settings) (doc : Text) : Prop where
  settings : settings fs args = .ok s
  document : ∃ opened l finder reader, Logger.start fs environment s.log = .ok (opened, l) ∧
    s.finder = .ok finder ∧
    Reader.make opened finder args.package s.outlineOptions = .ok reader ∧
    (l.carryOut ((s.documentPlan opened).making reader) opened).2.value = .ok doc

/-- With its log set up, a run cannot find its target or read a file, or it delivers a document. -/
theorem withLogger_cases {opened : FileSystem} (hsettings : settings fs args = .ok s)
    (hstart : Logger.start fs environment s.log = .ok (opened, l)) :
    ∃ x, Logged fs args l x ∧
      ((∃ e, (e.status = .notFound ∨ e.status = .ioFailure) ∧
        withLogger opened l s args.package = { x with result := .error e }) ∨
      ∃ doc, MakesDocument fs environment args s doc ∧
        withLogger opened l s args.package = deliver x l (s.documentPlan opened) doc) := by
  cases hprepare : prepare opened s args.package with
  | error e =>
    have hstatus := status_of_prepare_error (validate_of_settings hsettings) hprepare
    refine ⟨_, logged_of_start hsettings hstart, Or.inl ⟨e, hstatus, ?_⟩⟩
    unfold withLogger
    rw [hprepare]
  | ok prepared =>
    obtain ⟨plan, reader⟩ := prepared
    obtain ⟨rfl, finder, hfinder, hreader⟩ := prepare_eq_ok.1 hprepare
    refine ⟨_, logged_worked hsettings hstart ((s.documentPlan opened).making reader), ?_⟩
    cases hvalue : (l.carryOut ((s.documentPlan opened).making reader) opened).2.value with
    | error e =>
      have hstatus := (DocumentPlan.stays_making _ reader).carryOut_error e hvalue
      exact Or.inl ⟨e, Or.inr hstatus, withLogger_error hprepare hvalue⟩
    | ok doc =>
      exact Or.inr ⟨doc, ⟨hsettings, opened, l, finder, reader, hstart, hfinder, hreader, hvalue⟩,
        withLogger_ok hprepare hvalue⟩

/-- A run ends before its log is set up and changes no file, or it goes on with the log. -/
theorem execute_cases (fs : FileSystem) (environment : Option Text)
    (args : CommandLine.Arguments) :
    (∃ e, execute fs environment args = .early fs e ∧ logFile? fs args = none) ∨
    ∃ s opened l x, Logged fs args l x ∧
      ((∃ e, (e.status = .notFound ∨ e.status = .ioFailure) ∧
        execute fs environment args = { x with result := .error e }) ∨
      ∃ doc, MakesDocument fs environment args s doc ∧
        execute fs environment args = deliver x l (s.documentPlan opened) doc) := by
  cases hsettings : settings fs args with
  | error e =>
    refine Or.inl ⟨e, ?_, ?_⟩
    · unfold execute
      rw [hsettings]
    · unfold logFile?
      rw [hsettings]
      rfl
  | ok s =>
    cases hstart : Logger.start fs environment s.log with
    | error e =>
      refine Or.inl ⟨e, ?_, ?_⟩
      · unfold execute
        simp only [hsettings, hstart]
      · rw [logFile?_eq hsettings]
        exact Logger.start_error hstart
    | ok started =>
      obtain ⟨opened, l⟩ := started
      rw [execute_eq_withLogger hsettings hstart]
      exact Or.inr ⟨s, opened, l, withLogger_cases hsettings hstart⟩

/-! ## Delivery -/

section Delivery

variable {x : Execution} {plan : DocumentPlan}

theorem deliver_printed (hpath : plan.output.path? = none) :
    deliver x l plan text =
      { x with printed := x.printed ++ text ++ "\n", result := .ok .success } := by
  unfold deliver
  rw [hpath]

theorem exists_deliver_result (x : Execution) (l : Logger) (plan : DocumentPlan) (text : Text) :
    ∃ status, (deliver x l plan text).result = .ok status := by
  unfold deliver
  split
  · exact ⟨_, rfl⟩
  · exact ⟨_, rfl⟩

/-- A document with an output path is written there and nothing is printed. The log may be told of a
failure afterwards. -/
theorem deliver_written {p : Path} (hpath : plan.output.path? = some p)
    (hopen : ∀ loc ∈ l.file, x.files.TakesFile loc) (text : Text) :
    (deliver x l plan text).printed = x.printed ∧
    (x.files.fileFor? p = none → (deliver x l plan text).result = .ok .cannotCreate ∧
      x.files.Rewritten l.file.toList (deliver x l plan text).files) ∧
    ∀ loc, x.files.fileFor? p = some loc →
      x.files.Rewritten (loc :: l.file.toList) (deliver x l plan text).files ∧
      (x.files.IsRegularOrNew loc → (deliver x l plan text).result = .ok .success ∧
        (loc ∉ l.file.toList →
          FileSystem.entry? (deliver x l plan text).files loc = some (.file (.text text)))) := by
  have hdeliver : deliver x l plan text =
      Execution.noting { x with
        files := (plan.output.deliver x.files text).1
        result := .ok (plan.output.deliver x.files text).2.value } l
        (plan.output.deliver x.files text).2.notes := by
    unfold deliver
    rw [hpath]
  rw [hdeliver]
  unfold Execution.noting
  dsimp only
  refine ⟨rfl, ?_⟩
  rcases FileRef.deliver_cases hpath x.files text with
    ⟨hnone, hfiles, hstatus⟩ | ⟨loc, hfile, hrewritten, hregular⟩
  · refine ⟨fun _ => ⟨congrArg Except.ok hstatus, ?_⟩, ?_⟩
    · rw [hfiles]
      exact Logger.write_rewritten hopen _
    · intro loc hfile
      cases hnone.symm.trans hfile
  · refine ⟨fun hnone => ?_, ?_⟩
    · cases hnone.symm.trans hfile
    · intro l' hfile'
      cases hfile.symm.trans hfile'
      have hlog := Logger.write_rewritten (fun loc hloc => hrewritten.takesFile (hopen loc hloc))
        (plan.output.deliver x.files text).2.notes
      refine ⟨hrewritten.append hlog, fun hnew => ?_⟩
      obtain ⟨hsuccess, hentry⟩ := hregular hnew
      refine ⟨congrArg Except.ok hsuccess, fun hloc => ?_⟩
      rw [hlog.elsewhere loc hloc, hentry]

end Delivery

theorem report_files {x : Execution} (hlogger : x.logger = some l) (e : Error) :
    (report { x with result := .error e }).files = l.write x.files [.failed e.message] := by
  unfold report
  dsimp only
  rw [hlogger]
  rfl

/-! ## Runs that fail -/

/-- A run that fails leaves all files alone but its log file. If the settings are at fault, this one
too is as it was, and it is not created. -/
theorem execute_error_files (fs : FileSystem) (environment : Option Text)
    (args : CommandLine.Arguments) (e : Error)
    (h : (execute fs environment args).result = .error e) :
    fs.Rewritten (logFile? fs args).toList (execute fs environment args).files ∧
    fs.Rewritten (logFile? fs args).toList (report (execute fs environment args)).files ∧
    (e.status = .badSettings → (execute fs environment args).files = fs ∧
      (report (execute fs environment args)).files = fs) := by
  rcases execute_cases fs environment args with
    ⟨cause, hearly, hnone⟩ |
    ⟨s, opened, l, x, hlogged, ⟨cause, hcause, hx⟩ | ⟨doc, -, hx⟩⟩
  · rw [hearly, hnone]
    exact ⟨.nil fs, .nil fs, fun _ => ⟨rfl, rfl⟩⟩
  · rw [hx] at h ⊢
    cases h
    refine ⟨hlogged.files, ?_, fun hbad => ?_⟩
    · rw [report_files hlogged.logger]
      exact hlogged.write _
    · -- The settings were checked before the log was set up.
      rcases hcause with hstatus | hstatus
      · cases hbad.symm.trans hstatus
      · cases hbad.symm.trans hstatus
  · obtain ⟨status, hstatus⟩ := exists_deliver_result x l (s.documentPlan opened) doc
    rw [hx, hstatus] at h
    cases h

/-- A target that is not there changes the log file alone, and a level that is unknown not even
this one. -/
theorem execute_error_files_missing_target :
    let fs : FileSystem := ⟨[(["out".toList], .file (.text "old"))], [], by decide⟩
    let overrides : Overrides := { output := some ⟨"out"⟩, logFile := some ⟨"log"⟩ }
    let args : CommandLine.Arguments := ⟨"m", none, false, false, overrides⟩
    let loud := { args with overrides := { overrides with logLevel := some "loud" } }
    ((execute fs none args).result = .error (.moduleNotFound "m") ∧
      fs.Rewritten [["log".toList]] (report (execute fs none args)).files ∧
      (report (execute fs none args)).files ≠ fs) ∧
    ∃ e, (execute fs none loud).result = .error e ∧ e.status = .badSettings ∧
      (report (execute fs none loud)).files = fs := by
  intro fs overrides args loud
  have hmissing : (execute fs none args).result = .error (.moduleNotFound "m") := by decide +kernel
  have hloud : (execute fs none loud).result =
      .error (.settingsInvalid "unknown log level: loud") := by decide +kernel
  have hlog : logFile? fs args = some ["log".toList] := by decide +kernel
  obtain ⟨-, hreport, -⟩ := execute_error_files fs none args _ hmissing
  obtain ⟨-, -, hsettings⟩ := execute_error_files fs none loud _ hloud
  rw [hlog] at hreport
  exact ⟨⟨hmissing, hreport, by decide +kernel⟩, _, hloud, rfl, (hsettings rfl).2⟩

/-! ## Runs that deliver -/

theorem MakesDocument.execute_eq {doc : Text} (h : MakesDocument fs environment args s doc) :
    ∃ opened l x, Logged fs args l x ∧
      execute fs environment args = deliver x l (s.documentPlan opened) doc := by
  obtain ⟨opened, l, finder, reader, hstart, hfinder, hreader, hdoc⟩ := h.document
  have hprepare : prepare opened s args.package = .ok (s.documentPlan opened, reader) :=
    prepare_eq_ok.2 ⟨rfl, finder, hfinder, hreader⟩
  have hlogged := logged_worked h.settings hstart ((s.documentPlan opened).making reader)
  refine ⟨opened, l, _, hlogged, ?_⟩
  rw [execute_eq_withLogger h.settings hstart, withLogger_ok hprepare hdoc]

/-- The log does not show in a document if the files that go into it do not change as it grows. -/
theorem MakesDocument.value_document {doc : Text} (h : MakesDocument fs environment args s doc)
    {opened : FileSystem} {finder : Finder} {reader : Reader}
    (hstart : Logger.start fs environment s.log = .ok (opened, l)) (hfinder : s.finder = .ok finder)
    (hreader : Reader.make opened finder args.package s.outlineOptions = .ok reader)
    (hfiles : l.file = none ∨
      ∀ p ∈ reader.target.paths ++ (s.documentPlan opened).paths, l.LeavesAlone opened p) :
    ((s.documentPlan opened).document opened reader).run.value = .ok doc := by
  obtain ⟨opened', l', finder', reader', hstart', hfinder', hreader', hdoc⟩ := h.document
  cases hstart.symm.trans hstart'
  cases hfinder.symm.trans hfinder'
  cases hreader.symm.trans hreader'
  have halone : ∀ p ∈ reader.target.paths ++ (s.documentPlan opened).paths,
      l.LeavesAlone opened p := by
    rcases hfiles with hnone | hfiles
    · exact fun p _ => Logger.leavesAlone_of_none hnone p
    · exact hfiles
  rw [(DocumentPlan.stays_making _ reader).carryOut_eq halone] at hdoc
  exact hdoc

theorem makesDocument_of_ok {status : ExitStatus}
    (h : (execute fs environment args).result = .ok status) :
    ∃ s doc, MakesDocument fs environment args s doc := by
  rcases execute_cases fs environment args with
    ⟨cause, hearly, -⟩ | ⟨s, opened, l, x, -, ⟨cause, -, hx⟩ | ⟨doc, hmakes, -⟩⟩
  · rw [hearly] at h
    cases h
  · rw [hx] at h
    cases h
  · exact ⟨s, doc, hmakes⟩

/-- A run that gets to its document prints it, or leaves exactly this text in the output file. Other
files stay as they are, except the log file. If the output file cannot be created, the status tells
so. -/
theorem execute_delivers (fs : FileSystem) (environment : Option Text)
    (args : CommandLine.Arguments)
    (hlog : ∀ loc, logFile? fs args = some loc → outputFile? fs args ≠ some loc) :
    (∀ status, (execute fs environment args).result = .ok status →
      ∃ s doc, MakesDocument fs environment args s doc) ∧
    ∀ s doc, MakesDocument fs environment args s doc →
      (∀ opened l finder reader, Logger.start fs environment s.log = .ok (opened, l) →
        s.finder = .ok finder →
        Reader.make opened finder args.package s.outlineOptions = .ok reader →
        (l.file = none ∨
          ∀ p ∈ reader.target.paths ++ (s.documentPlan opened).paths, l.LeavesAlone opened p) →
        ((s.documentPlan opened).document opened reader).run.value = .ok doc) ∧
      (s.document.output = none →
        (execute fs environment args).result = .ok .success ∧
        (execute fs environment args).printed = doc ++ "\n" ∧
        fs.Rewritten (logFile? fs args).toList (execute fs environment args).files) ∧
      ∀ p, s.document.output = some p →
        (execute fs environment args).printed = [] ∧
        (fs.fileFor? p = none →
          (execute fs environment args).result = .ok .cannotCreate ∧
          fs.Rewritten (logFile? fs args).toList (execute fs environment args).files) ∧
        ∀ loc, fs.fileFor? p = some loc →
          fs.Rewritten (loc :: (logFile? fs args).toList) (execute fs environment args).files ∧
          (fs.IsRegularOrNew loc →
            (execute fs environment args).result = .ok .success ∧
            (execute fs environment args).files.read p = .ok doc) := by
  refine ⟨fun status h => makesDocument_of_ok h, ?_⟩
  intro s doc hmakes
  obtain ⟨opened, l, x, hlogged, hx⟩ := hmakes.execute_eq
  rw [hx]
  refine ⟨fun _ _ _ _ => hmakes.value_document, fun hnone => ?_, fun p hp => ?_⟩
  · rw [deliver_printed hnone]
    dsimp only
    rw [hlogged.printed]
    exact ⟨rfl, rfl, hlogged.files⟩
  · have hpath : (s.documentPlan opened).output.path? = some p := hp
    obtain ⟨hprinted, hfailed, hwritten⟩ := deliver_written hpath hlogged.takesFile doc
    rw [hlogged.files.fileFor?_eq, hlogged.file] at hfailed
    rw [hlogged.printed] at hprinted
    refine ⟨hprinted, fun hnone => ?_, fun loc hloc => ?_⟩
    · obtain ⟨hresult, hfiles⟩ := hfailed hnone
      exact ⟨hresult, hlogged.files.trans hfiles⟩
    · obtain ⟨hfiles, hdelivered⟩ := hwritten loc (by rw [hlogged.files.fileFor?_eq, hloc])
      rw [hlogged.file] at hfiles hdelivered
      have hall : fs.Rewritten (loc :: (logFile? fs args).toList)
          (deliver x l (s.documentPlan opened) doc).files := by
        refine (hlogged.files.mono (fun _ => List.mem_cons_of_mem loc) ?_).trans hfiles
        intro other hother
        rcases List.mem_cons.1 hother with rfl | hother
        · exact (FileSystem.fileFor?_eq_some_iff.1 hloc).2
        · exact hlogged.files.before other hother
      refine ⟨hall, fun hregular => ?_⟩
      have hne : loc ∉ (logFile? fs args).toList := by
        intro hmem
        refine hlog loc (Option.mem_toList.1 hmem) ?_
        rw [outputFile?_eq hmakes.settings, hp]
        exact hloc
      have hkept : x.files.entry? loc = fs.entry? loc := hlogged.files.elsewhere loc hne
      obtain ⟨hresult, hentry⟩ := hdelivered (hregular.congr hkept)
      refine ⟨hresult, FileSystem.read_of_fileFor? ?_ (hentry hne)⟩
      rw [hall.fileFor?_eq, hloc]

/-- The output file can be one that the document includes. The log file is not read, so the document
is the one that the files hold at first. -/
theorem execute_delivers_over_included_file :
    let fs : FileSystem :=
      ⟨[(["out".toList], .file (.text "old")), (["pkg".toList], .directory)], [], by decide⟩
    let args : CommandLine.Arguments := ⟨"pkg", none, false, false,
      { output := some ⟨"out"⟩, todoFile := some ⟨"./out"⟩, logFile := some ⟨"log"⟩ }⟩
    (∀ loc, logFile? fs args = some loc → outputFile? fs args ≠ some loc) ∧
    ∃ s doc, MakesDocument fs none args s doc ∧ ("old\n# Dev notes" : Text).isPrefixOf doc ∧
      (execute fs none args).result = .ok .success ∧
      (execute fs none args).files.read ⟨"out"⟩ = .ok doc ∧
      ∃ opened l reader, Logger.start fs none s.log = .ok (opened, l) ∧ l.file.isSome ∧
        ((s.documentPlan opened).document opened reader).run.value = .ok doc := by
  intro fs args
  have hfiles : ∀ loc, logFile? fs args = some loc → outputFile? fs args ≠ some loc := by
    have hlog : logFile? fs args = some ["log".toList] := by decide +kernel
    have houtput : outputFile? fs args = some ["out".toList] := by decide +kernel
    rw [hlog, houtput]
    rintro loc hloc
    cases hloc
    decide
  have hresult : (execute fs none args).result = .ok .success := by decide +kernel
  obtain ⟨hmade, hdelivers⟩ := execute_delivers fs none args hfiles
  obtain ⟨s, doc, hmakes⟩ := hmade _ hresult
  have hsettings := hmakes.settings
  cases hsettings
  obtain ⟨hdocument, -, houtput⟩ := hdelivers _ doc hmakes
  obtain ⟨-, -, hwritten⟩ := houtput _ rfl
  obtain ⟨-, hregular⟩ := hwritten ["out".toList] (by decide +kernel)
  obtain ⟨-, hread⟩ := hregular (Or.inr ⟨_, rfl⟩)
  refine ⟨hfiles, _, doc, hmakes, ?_, hresult, hread, ?_⟩
  · have hdoc : (execute fs none args).files.read ⟨"out"⟩ =
        .ok "old\n# Dev notes\n## Objects:\n" := by decide +kernel
    cases hread.symm.trans hdoc
    decide
  · obtain ⟨opened, l, finder, reader, hstart, hfinder, hreader, -⟩ := hmakes.document
    have hlogger : l.file = some ["log".toList] ∧ opened.TakesFile ["log".toList] ∧
        opened.find .target ⟨"./out"⟩ = .ok ⟨["out".toList], some (.file (.text "old"))⟩ := by
      cases hstart
      exact ⟨by decide +kernel, ⟨by decide +kernel, nofun⟩, by decide +kernel⟩
    have hplan : ((Settings.override {} args.overrides).documentPlan opened).paths =
        [⟨"./out"⟩] := by
      cases hstart
      decide +kernel
    have htarget : (fun r : Reader => r.target.paths) <$>
        ((Settings.override {} args.overrides).finder >>= fun finder => Reader.make opened finder
          args.package (Settings.override {} args.overrides).outlineOptions) = .ok [] := by
      cases hstart
      decide +kernel
    obtain ⟨reader', hmake, hpaths⟩ := map_eq_ok.1 htarget
    obtain ⟨finder', hfinder', hreader'⟩ := bind_eq_ok.1 hmake
    cases hfinder.symm.trans hfinder'
    cases hreader.symm.trans hreader'
    refine ⟨opened, l, reader, hstart, ?_, hdocument opened l finder reader hstart hfinder hreader
      (Or.inr ?_)⟩
    · rw [hlogger.1]
      rfl
    · rw [hpaths, hplan]
      intro p hp
      rw [List.mem_singleton.1 hp]
      refine Logger.leavesAlone_of_find ?_ hlogger.2.2 ?_
      · rw [hlogger.1]
        rintro loc ⟨⟩
        exact hlogger.2.1
      · rw [hlogger.1]
        decide

end Run

end DocOutline
