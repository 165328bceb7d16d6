import AnchorLayout.Proofs.CommandLine.Files
import AnchorLayout.Proofs.CommandLine.PassLog
import AnchorLayout.Proofs.Document.Outcomes

/-!
# The stages of a run

A run reads its document, parses it, builds a layout, opens the log file if one is asked for,
resolves, and writes the log. Each stage can fail, and only the first that does is told. How far a
run gets decides what it leaves behind; `Ends` has one case for each way to end.
-/

namespace AnchorLayout.CommandLine
open FileSystem
variable {o : Options} {fs fs' : FileSystem} {out : Outcome} {time : Nat}

/-! ## Stages -/

/-- The file at a path is read, is a document, and gives a layout. -/
def Loads (fs : FileSystem) (path : String) (l : Layout Coord) : Prop :=
  ∃ bytes d, fs.read path = .ok bytes ∧ Document.ofBytes bytes = .ok d ∧ d.toLayout = .ok l

/-- A log file is asked for and opened; `full` is its full path. -/
structure OpensLog (o : Options) (fs : FileSystem) (log : String) (fs₁ : FileSystem)
    (full : String) : Prop where
  asked : o.logFile = some log
  opened : fs.openAppend log = .ok (fs₁, full)

/-- The log file, if one is asked for, is opened and does not refuse what is written. -/
def LogTakes (o : Options) (fs : FileSystem) : Prop :=
  ∀ log, o.logFile = some log → ∃ fs₁ full, OpensLog o fs log fs₁ full ∧
    ∀ d, fs.file? full = some (.device d) → d.writeFault? = none

/-- All stages succeed. -/
def Succeeds (o : Options) (fs : FileSystem) : Prop :=
  ∃ l r, Loads fs o.document l ∧ LogTakes o fs ∧ l.resolve = .ok r

/-- The error of the first stage that fails. -/
inductive Fails (o : Options) (fs : FileSystem) : RunError → Prop
  | reading {fault : FileFault} (h : fs.read o.document = .error fault) :
    Fails o fs (.layout (.file fault))
  | parsing {bytes : ByteArray} {e : LayoutError} (hread : fs.read o.document = .ok bytes)
    (h : Document.ofBytes bytes = .error e) : Fails o fs (.layout e)
  | building {bytes : ByteArray} {d : Document} {e : LayoutError}
    (hread : fs.read o.document = .ok bytes) (hparse : Document.ofBytes bytes = .ok d)
    (h : d.toLayout = .error e) : Fails o fs (.layout e)
  | opening {l : Layout Coord} {log : String} {fault : FileFault}
    (hload : Loads fs o.document l) (hlog : o.logFile = some log)
    (h : fs.openAppend log = .error fault) : Fails o fs (.logging ⟨fault⟩)
  | writing {l : Layout Coord} {log full : String} {fs₁ : FileSystem} {d : Device}
    {fault : FileFault} (hload : Loads fs o.document l) (hopen : OpensLog o fs log fs₁ full)
    (hd : fs.file? full = some (.device d)) (h : d.writeFault? = some fault) :
    Fails o fs (.logging ⟨fault⟩)
  | resolving {l : Layout Coord} {e : LayoutError} (hload : Loads fs o.document l)
    (htakes : LogTakes o fs) (h : l.resolve = .error e) : Fails o fs (.layout e)

theorem load_eq_ok_iff {path : String} {l : Layout Coord} :
    load (fs.read path) = .ok l ↔ Loads fs path l := by
  rw [load, bind_eq_ok_iff]
  cases hread : fs.read path with
  | error fault => simp [Loads, hread, Except.mapError]
  | ok bytes => simp [Loads, hread, Except.mapError, bind_eq_ok_iff]

theorem Loads.unique {path : String} {l l' : Layout Coord} (h : Loads fs path l)
    (h' : Loads fs path l') : l = l' := by
  rw [← load_eq_ok_iff] at h h'
  exact Except.ok.inj (h.symm.trans h')

theorem OpensLog.unique {log log' full full' : String} {fs₁ fs₁' : FileSystem}
    (h : OpensLog o fs log fs₁ full) (h' : OpensLog o fs log' fs₁' full') :
    log = log' ∧ fs₁ = fs₁' ∧ full = full' := by
  cases h.asked.symm.trans h'.asked
  cases h.opened.symm.trans h'.opened
  exact ⟨rfl, rfl, rfl⟩

theorem OpensLog.logTakes {log full : String} {fs₁ : FileSystem} (h : OpensLog o fs log fs₁ full)
    (hfault : ∀ d, fs.file? full = some (.device d) → d.writeFault? = none) : LogTakes o fs := by
  intro log' hlog'
  cases h.asked.symm.trans hlog'
  exact ⟨fs₁, full, h, hfault⟩

/-- A document that gives no layout ends the run at one of the first three stages. -/
theorem fails_of_load {e : LayoutError} (h : load (fs.read o.document) = .error e) :
    Fails o fs (.layout e) := by
  cases hread : fs.read o.document with
  | error fault =>
    rw [hread] at h
    cases h
    exact .reading hread
  | ok bytes =>
    rw [hread] at h
    change (Document.ofBytes bytes >>= Document.toLayout) = .error e at h
    rcases bind_eq_error_iff.1 h with hparse | ⟨d, hparse, hbuild⟩
    · exact .parsing hread hparse
    · exact .building hread hparse hbuild

theorem Fails.not_succeeds {e : RunError} (h : Fails o fs e) : ¬ Succeeds o fs := by
  intro ⟨l, r, hload, htakes, hresolve⟩
  have ⟨bytes, d, hread, hparse, hbuild⟩ := hload
  cases h with
  | reading h => cases h.symm.trans hread
  | parsing hread' h =>
    cases hread.symm.trans hread'
    cases h.symm.trans hparse
  | building hread' hparse' h =>
    cases hread.symm.trans hread'
    cases hparse.symm.trans hparse'
    cases h.symm.trans hbuild
  | opening _ hlog h =>
    have ⟨fs₁, full, hopen, _⟩ := htakes _ hlog
    cases h.symm.trans hopen.opened
  | writing _ hopen hd h =>
    have ⟨fs₁, full, hopen', hnone⟩ := htakes _ hopen.asked
    obtain ⟨-, -, rfl⟩ := hopen.unique hopen'
    cases (hnone _ hd).symm.trans h
  | resolving hload' _ h =>
    cases hload.unique hload'
    cases h.symm.trans hresolve

/-! ## Runs -/

/-- What is left behind by a run, by how far it gets. -/
inductive Ends (o : Options) (fs : FileSystem) : Outcome → FileSystem → Prop
  | unloaded {e : LayoutError} (h : load (fs.read o.document) = .error e) :
    Ends o fs (failure "" (.layout e)) fs
  | unlogged {l : Layout Coord} {text : String} (hload : Loads fs o.document l)
    (hlog : o.logFile = none) (htext : text = "" ∨ LogsPass l.resolve.isOk text) :
    Ends o fs (finish o l text l.resolve) fs
  | unopened {l : Layout Coord} {log : String} {fault : FileFault}
    (hload : Loads fs o.document l) (hlog : o.logFile = some log)
    (h : fs.openAppend log = .error fault) : Ends o fs (failure "" (.logging ⟨fault⟩)) fs
  | refused {l : Layout Coord} {log full : String} {fs₁ : FileSystem} {d : Device}
    {fault : FileFault} (hload : Loads fs o.document l) (hopen : OpensLog o fs log fs₁ full)
    (hd : fs.file? full = some (.device d)) (h : d.writeFault? = some fault) :
    Ends o fs (failure "" (.logging ⟨fault⟩)) fs
  | dropped {l : Layout Coord} {log full text : String} {fs₁ : FileSystem} {d : Device}
    (hload : Loads fs o.document l) (hopen : OpensLog o fs log fs₁ full)
    (hd : fs.file? full = some (.device d)) (h : d.writeFault? = none)
    (htext : LogsPass l.resolve.isOk text) :
    Ends o fs ((finish o l "" l.resolve).after text d.stream?) fs
  | kept {l : Layout Coord} {log full text : String} {fs₁ : FileSystem} {before : ByteArray}
    (hload : Loads fs o.document l) (hopen : OpensLog o fs log fs₁ full)
    (hplain : ∀ d, fs.file? full ≠ some (.device d)) (hheld : fs.Held log before)
    (hread : (fs.write full (before ++ text.toUTF8)).read log = .ok (before ++ text.toUTF8))
    (htext : LogsPass l.resolve.isOk text) :
    Ends o fs (finish o l "" l.resolve) (fs.write full (before ++ text.toUTF8))

/-- The log on standard error, if the options ask for it. -/
def verboseLogger (o : Options) : Option Logger :=
  if o.verbose then some { sink := .writer "", leastLevel := .debug } else none

theorem ends_unlogged {l : Layout Coord} (hload : Loads fs o.document l)
    (hlog : o.logFile = none) : Ends o fs (runUnlogged time o l) fs := by
  have htext : sinkText (solve time l (verboseLogger o)).2.logger = "" ∨
      LogsPass l.resolve.isOk (sinkText (solve time l (verboseLogger o)).2.logger) := by
    rw [verboseLogger]
    split
    · exact .inr (logsPass_solve ⟨.writer "", Nat.le_refl _⟩)
    · exact .inl sinkText_solve_none
  exact .unlogged hload hlog htext

/-- The run once its log file is open. -/
def runOpened (time : Nat) (o : Options) (l : Layout Coord) (fs : FileSystem) (full : String) :
    Outcome × FileSystem :=
  match fs.append full (runLogged time o l).2 with
  | .error fault => (failure "" (.logging ⟨fault⟩), fs)
  | .ok fs => ((runLogged time o l).1.after (runLogged time o l).2 (fs.stream? full), fs)

theorem logsPass_runLogged (time : Nat) (o : Options) (l : Layout Coord) :
    LogsPass l.resolve.isOk (runLogged time o l).2 := by
  have hempty : ({ sink := .file "" 0 } : Logger).Keeps "" := ⟨.file "", by decide⟩
  exact logsPass_solve hempty

/-- A log on standard output stands before what is printed. -/
theorem stdout_runOpened {l : Layout Coord} {full : String}
    (hd : fs.file? full = some (.device (.stream .output))) :
    (runOpened time o l fs full).1.stdout =
      (runLogged time o l).2 ++ (runLogged time o l).1.stdout := by
  have happend : fs.append full (runLogged time o l).2 = .ok fs := by
    simp [FileSystem.append, hd, Device.writeFault?]
  simp [runOpened, happend, FileSystem.stream?, hd, Device.stream?, Outcome.after]

theorem ends_runOpened {l : Layout Coord} {log full : String} {fs₁ : FileSystem}
    (hload : Loads fs o.document l) (hopen : OpensLog o fs log fs₁ full) :
    Ends o fs (runOpened time o l fs₁ full).1 (runOpened time o l fs₁ full).2 := by
  have htext : LogsPass l.resolve.isOk (runLogged time o l).2 := logsPass_runLogged time o l
  rw [runOpened]
  -- Only a device refuses text, and only a device hands it to a stream.
  by_cases hdevice : ∃ d, fs.file? full = some (.device d)
  · obtain ⟨d, hd⟩ := hdevice
    obtain ⟨rfl, happend⟩ := append_device_eq hopen.opened hd (runLogged time o l).2
    rw [happend]
    cases hfault : d.writeFault? with
    | some fault => exact .refused hload hopen hd hfault
    | none =>
      have hstream : fs₁.stream? full = d.stream? := by rw [FileSystem.stream?, hd]
      simp only [hstream]
      exact .dropped hload hopen hd hfault htext
  · rw [not_exists] at hdevice
    obtain ⟨before, hheld, happend, hread⟩ :=
      exists_append_eq_ok hopen.opened hdevice (runLogged time o l).2
    have hstream (bytes : ByteArray) : (fs.write full bytes).stream? full = none := by
      rw [FileSystem.stream?, file?_write_self]
    simp only [happend, hstream]
    exact .kept hload hopen hdevice hheld hread htext

theorem runOptions_eq_runOpened {l : Layout Coord} {log full : String} {fs₁ : FileSystem}
    (hload : Loads fs o.document l) (hopen : OpensLog o fs log fs₁ full) :
    runOptions time o fs = runOpened time o l fs₁ full := by
  rw [← load_eq_ok_iff] at hload
  simp only [runOptions, hload, hopen.asked, hopen.opened]
  rfl

theorem ends_runOptions (time : Nat) (o : Options) (fs : FileSystem) :
    Ends o fs (runOptions time o fs).1 (runOptions time o fs).2 := by
  cases hload : load (fs.read o.document) with
  | error e =>
    simp only [runOptions, hload]
    exact .unloaded hload
  | ok l =>
    have hloads : Loads fs o.document l := load_eq_ok_iff.1 hload
    cases hlog : o.logFile with
    | none =>
      simp only [runOptions, hload, hlog]
      exact ends_unlogged hloads hlog
    | some log =>
      cases hopen : fs.openAppend log with
      | error fault =>
        simp only [runOptions, hload, hlog, hopen]
        exact .unopened hloads hlog hopen
      | ok opened =>
        rw [runOptions_eq_runOpened hloads ⟨hlog, hopen⟩]
        exact ends_runOpened hloads ⟨hlog, hopen⟩

end AnchorLayout.CommandLine
