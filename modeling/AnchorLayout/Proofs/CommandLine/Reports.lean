import AnchorLayout.Proofs.CommandLine.Stages

/-!
# What a run leaves behind

A run succeeds if and only if its document gives a layout, the log file is opened and takes what is
written, and the layout resolves. Any other run tells the error of the first stage that fails, and
prints nothing else, unless the log file is the standard output itself. Files change only once the
document has given a layout and the log file is opened: then the log of one pass stands behind what
the file held before.
-/

namespace AnchorLayout.CommandLine
open FileSystem
variable {o : Options} {fs fs' : FileSystem} {out : Outcome} {time : Nat}

/-! ## Exit codes and errors -/

/-- The log file stands for a standard stream. -/
def LogsTo (o : Options) (fs : FileSystem) (s : Stream) : Prop :=
  ∃ log fs₁ full, OpensLog o fs log fs₁ full ∧ fs.file? full = some (.device (.stream s))

/-- The report of a run that fails: the error of the stage that failed stands last on standard
error, with at most the log of the pass before it, and nothing is printed but the log of the pass
if that goes to standard output. -/
structure TellsError (o : Options) (fs : FileSystem) (out : Outcome) : Prop where
  exitCode : out.exitCode = 1
  stderr : ∃ before e, Fails o fs e ∧ (before = "" ∨ LogsPass false before) ∧
    out.stderr = before ++ "relayout: " ++ e.message ++ "\n"
  stdout : out.stdout = "" ∨ LogsTo o fs .output ∧ LogsPass false out.stdout

theorem tellsError_failure {before : String} {e : RunError} (h : Fails o fs e)
    (hbefore : before = "" ∨ LogsPass false before) : TellsError o fs (failure before e) :=
  ⟨rfl, ⟨before, e, h, hbefore, rfl⟩, .inl rfl⟩

theorem exitCode_after (text : String) (s : Option Stream) :
    (out.after text s).exitCode = out.exitCode := by
  cases s with
  | none => rfl
  | some s => cases s <;> rfl

theorem failure_after_error (text : String) (e : RunError) :
    (failure "" e).after text (some .error) = failure text e := by
  simp [Outcome.after, failure, String.append_assoc]

/-- A log that goes to a stream comes first there, and does not hide the error. -/
theorem tellsError_failure_after {e : RunError} {log full text : String} {fs₁ : FileSystem}
    {d : Device} (h : Fails o fs e) (htext : LogsPass false text)
    (hopen : OpensLog o fs log fs₁ full) (hd : fs.file? full = some (.device d)) :
    TellsError o fs ((failure "" e).after text d.stream?) := by
  cases d with
  | stream s =>
    cases s with
    | output =>
      refine ⟨rfl, ⟨"", e, h, .inl rfl, rfl⟩, .inr ⟨⟨log, fs₁, full, hopen, hd⟩, ?_⟩⟩
      simpa [Outcome.after, failure, Device.stream?] using htext
    | error =>
      rw [Device.stream?, failure_after_error]
      exact tellsError_failure h (.inr htext)
  | _ => exact tellsError_failure h (.inl rfl)

/-- A run that has ended has succeeded, or tells the error of the stage that failed. -/
theorem Ends.succeeds_or_tellsError (h : Ends o fs out fs') :
    (out.exitCode = 0 ∧ Succeeds o fs) ∨ TellsError o fs out := by
  cases h with
  | unloaded h => exact .inr (tellsError_failure (fails_of_load h) (.inl rfl))
  | unopened hload hlog h => exact .inr (tellsError_failure (.opening hload hlog h) (.inl rfl))
  | refused hload hopen hd h =>
    exact .inr (tellsError_failure (.writing hload hopen hd h) (.inl rfl))
  | @unlogged l text hload hlog htext =>
    have htakes : LogTakes o fs := by simp [LogTakes, hlog]
    cases hresolve : l.resolve with
    | ok r => exact .inl ⟨rfl, l, r, hload, htakes, hresolve⟩
    | error e =>
      rw [hresolve] at htext
      exact .inr (tellsError_failure (.resolving hload htakes hresolve) htext)
  | @kept l log full text fs₁ before hload hopen hplain _ _ _ =>
    have htakes : LogTakes o fs := hopen.logTakes fun d hd => absurd hd (hplain d)
    cases hresolve : l.resolve with
    | ok r => exact .inl ⟨rfl, l, r, hload, htakes, hresolve⟩
    | error e => exact .inr (tellsError_failure (.resolving hload htakes hresolve) (.inl rfl))
  | @dropped l log full text fs₁ d hload hopen hd h htext =>
    have htakes : LogTakes o fs := hopen.logTakes fun d' hd' => by
      cases hd.symm.trans hd'
      exact h
    cases hresolve : l.resolve with
    | ok r =>
      rw [exitCode_after]
      exact .inl ⟨rfl, l, r, hload, htakes, hresolve⟩
    | error e =>
      rw [hresolve] at htext
      exact .inr (tellsError_failure_after (.resolving hload htakes hresolve) htext hopen hd)

theorem Ends.exitCode_eq_one {e : RunError} (h : Ends o fs out fs') (hfails : Fails o fs e) :
    out.exitCode = 1 := by
  rcases h.succeeds_or_tellsError with ⟨-, hsucceeds⟩ | htells
  · exact absurd hsucceeds hfails.not_succeeds
  · exact htells.exitCode

/-! ## Files -/

/-- Files change only once the log file of a document that gives a layout is open. -/
theorem Ends.untouched (h : Ends o fs out fs')
    (hnone : ¬ ∃ l log fs₁ full, Loads fs o.document l ∧ OpensLog o fs log fs₁ full) :
    fs' = fs := by
  cases h with
  | kept hload hopen => exact absurd ⟨_, _, _, _, hload, hopen⟩ hnone
  | _ => rfl

theorem exitCode_finish_eq_zero (o : Options) (l : Layout Coord) (stderr : String) :
    decide ((finish o l stderr l.resolve).exitCode = 0) = l.resolve.isOk := by
  cases l.resolve <;> rfl

/-- A log file that is no device has the log of the pass behind what it held. -/
theorem Ends.extended {l : Layout Coord} {log full : String} {fs₁ : FileSystem}
    (h : Ends o fs out fs') (hload : Loads fs o.document l) (hopen : OpensLog o fs log fs₁ full)
    (hplain : ∀ d, fs.file? full ≠ some (.device d)) :
    ∃ before text, fs.Held log before ∧ fs'.read log = .ok (before ++ text.toUTF8) ∧
      LogsPass (out.exitCode = 0) text ∧
      ∀ other, other ≠ full → fs'.file? other = fs.file? other := by
  cases h with
  | unloaded h => cases h.symm.trans (load_eq_ok_iff.2 hload)
  | unlogged _ hlog => cases hlog.symm.trans hopen.asked
  | unopened _ hlog h =>
    cases hlog.symm.trans hopen.asked
    cases h.symm.trans hopen.opened
  | refused _ hopen' hd =>
    obtain ⟨-, -, rfl⟩ := hopen.unique hopen'
    exact absurd hd (hplain _)
  | dropped _ hopen' hd =>
    obtain ⟨-, -, rfl⟩ := hopen.unique hopen'
    exact absurd hd (hplain _)
  | @kept _ _ _ text _ before hload' hopen' _ hheld hread htext =>
    obtain ⟨rfl, -, rfl⟩ := hopen.unique hopen'
    refine ⟨before, text, hheld, hread, ?_, ?_⟩
    · rw [exitCode_finish_eq_zero]
      exact htext
    · intro other hother
      exact file?_write_of_ne fs _ (Ne.symm hother)

/-! ## Runs -/

/-- What a run says and what it leaves behind, by its options and the files that it finds. -/
structure LeavesBehind (o : Options) (fs : FileSystem) (out : Outcome) (fs' : FileSystem) : Prop where
  /-- The exit code is zero if and only if all stages succeed. -/
  exitCode_eq_zero_iff : out.exitCode = 0 ↔ Succeeds o fs
  /-- Any other run fails with one, tells the error, and prints nothing. -/
  tellsError : out.exitCode ≠ 0 → TellsError o fs out
  /-- All files stay as they are unless the document gives a layout and a log file is opened. -/
  untouched : (¬ ∃ l log fs₁ full, Loads fs o.document l ∧ OpensLog o fs log fs₁ full) → fs' = fs
  /-- If it is no device, the log file then holds what it held before and the log of one pass that
  agrees with the exit code, and all other files stay as they are. -/
  extended : ∀ l log fs₁ full, Loads fs o.document l → OpensLog o fs log fs₁ full →
    (∀ d, fs.file? full ≠ some (.device d)) →
    ∃ before text, fs.Held log before ∧ fs'.read log = .ok (before ++ text.toUTF8) ∧
      LogsPass (out.exitCode = 0) text ∧
      ∀ other, other ≠ full → fs'.file? other = fs.file? other

theorem run_eq_runOptions {args : List String} (hargs : Options.parse? args = some o) :
    run time args fs = runOptions time o fs := by
  rw [run, hargs]

/-- A run with arguments that are accepted succeeds if and only if all of its stages do; else it
tells the error of the first stage that fails. The log file is extended by one pass or left alone. -/
theorem run_leavesBehind {args : List String} (hargs : Options.parse? args = some o) (time : Nat)
    (fs : FileSystem) : LeavesBehind o fs (run time args fs).1 (run time args fs).2 := by
  rw [run_eq_runOptions hargs]
  have hends : Ends o fs (runOptions time o fs).1 (runOptions time o fs).2 :=
    ends_runOptions time o fs
  -- A run that tells an error has a stage that fails, and then it is not true that all succeed.
  refine ⟨⟨?_, ?_⟩, ?_, hends.untouched, ?_⟩
  · intro hzero
    rcases hends.succeeds_or_tellsError with ⟨-, hsucceeds⟩ | htells
    · exact hsucceeds
    · cases hzero.symm.trans htells.exitCode
  · intro hsucceeds
    rcases hends.succeeds_or_tellsError with ⟨hzero, -⟩ | htells
    · exact hzero
    · obtain ⟨_, e, hfails, -⟩ := htells.stderr
      exact absurd hsucceeds hfails.not_succeeds
  · intro hnonzero
    rcases hends.succeeds_or_tellsError with ⟨hzero, -⟩ | htells
    · exact absurd hzero hnonzero
    · exact htells
  · intro l log fs₁ full hload hopen hplain
    exact hends.extended hload hopen hplain

/-! ## Samples -/

/-- The files of a system, with a document and the log of an earlier run in the working
directory. -/
def sampleFiles (document : String) : FileSystem :=
  { FileSystem.standard with
    files := [("doc.json", .plain document.toUTF8), ("log.jsonl", .plain "earlier\n".toUTF8)] ++
      FileSystem.standard.files }

/-- What the options ask for that name a log file and nothing else. -/
def loggedTo (log : String) : Options where
  document := "doc.json"
  logFile := some log

def bareText : String := "\x7b\"width\":9,\"height\":4\x7d"

/-- A layout without elements. -/
def bare : Layout Coord where
  size := ⟨.clamp 9, .clamp 4⟩
  padding := .none

def selfAnchoredText : String :=
  "\x7b\"width\":9,\"height\":4,\"elements\":[\x7b\"name\":\"a\",\"width\":1,\"height\":1," ++
    "\"rules\":[\x7b\"verb\":\"below\",\"anchor\":\"a\"\x7d]\x7d]\x7d"

/-- A layout with an element that is anchored on itself. -/
def selfAnchored : Layout Coord where
  size := ⟨.clamp 9, .clamp 4⟩
  padding := .none
  elements := [{
    name := some "a"
    params := {
      width := .exact (.clamp 1)
      height := .exact (.clamp 1)
      margin := .none
      rules := [.sibling .below 0] } }]

theorem read_sampleFiles {document name : String} {bytes : ByteArray}
    (hpath : (sampleFiles document).follow name false = .ok (.file name))
    (hfile : (sampleFiles document).file? name = some (.plain bytes)) :
    (sampleFiles document).read name = .ok bytes := by
  rw [FileSystem.read, hpath]
  simp only [bind, Except.bind, FileSystem.openFile, hfile]
  rfl

theorem loads_sampleFiles {document : String} {l : Layout Coord}
    (hpath : (sampleFiles document).follow "doc.json" false = .ok (.file "doc.json"))
    (h : (Document.ofBytes document.toUTF8 >>= Document.toLayout) = .ok l) :
    Loads (sampleFiles document) "doc.json" l := by
  obtain ⟨d, hparse, hbuild⟩ := bind_eq_ok_iff.1 h
  exact ⟨_, d, read_sampleFiles hpath rfl, hparse, hbuild⟩

theorem loads_bare : Loads (sampleFiles bareText) "doc.json" bare :=
  loads_sampleFiles (by decide +kernel) (by decide +kernel)

theorem resolve_selfAnchored : selfAnchored.resolve = .error (.cyclicConstraint ["a"]) := by
  decide +kernel

theorem loads_selfAnchored : Loads (sampleFiles selfAnchoredText) "doc.json" selfAnchored :=
  loads_sampleFiles (by decide +kernel) (by decide +kernel)

/-- A run over an element that is anchored on itself. -/
def selfAnchoredRun : Outcome × FileSystem :=
  run 0 ["doc.json", "--log-file", "log.jsonl"] (sampleFiles selfAnchoredText)

/-- The log of an earlier run is kept when a layout does not resolve. -/
theorem run_leavesBehind_selfAnchored :
    Options.parse? ["doc.json", "--log-file", "log.jsonl"] = some (loggedTo "log.jsonl") ∧
    selfAnchoredRun.1.exitCode = 1 ∧ selfAnchoredRun.1.stdout = "" ∧
    ∃ text, LogsPass false text ∧
      selfAnchoredRun.2.read "log.jsonl" = .ok ("earlier\n".toUTF8 ++ text.toUTF8) := by
  have hargs : Options.parse? ["doc.json", "--log-file", "log.jsonl"] =
    some (loggedTo "log.jsonl") := by decide +kernel
  have hrun : LeavesBehind (loggedTo "log.jsonl") (sampleFiles selfAnchoredText)
    selfAnchoredRun.1 selfAnchoredRun.2 := run_leavesBehind hargs 0 (sampleFiles selfAnchoredText)
  have hopened : ((sampleFiles selfAnchoredText).openAppend "log.jsonl").map (·.2) =
    .ok "log.jsonl" := by decide +kernel
  have hread : (sampleFiles selfAnchoredText).read "log.jsonl" = .ok "earlier\n".toUTF8 :=
    read_sampleFiles (by decide +kernel) rfl
  have hplain (d : Device) : (sampleFiles selfAnchoredText).file? "log.jsonl" ≠
      some (.device d) := by
    rintro ⟨⟩
  have hnonzero : selfAnchoredRun.1.exitCode ≠ 0 := by
    intro hzero
    obtain ⟨l, r, hload, -, hok⟩ := hrun.exitCode_eq_zero_iff.1 hzero
    cases hload.unique loads_selfAnchored
    cases hok.symm.trans resolve_selfAnchored
  obtain ⟨fs₁, hopen⟩ := exists_openAppend_eq_ok hopened
  obtain ⟨before, text, hheld, hafter, hlogs, -⟩ :=
    hrun.extended _ _ _ _ loads_selfAnchored ⟨rfl, hopen⟩ hplain
  have hbefore : before = "earlier\n".toUTF8 := by
    rcases hheld with h | ⟨h, -⟩
    · exact Except.ok.inj (h.symm.trans hread)
    · cases hread.symm.trans h
  have htells := hrun.tellsError hnonzero
  refine ⟨hargs, htells.exitCode, ?_, text, ?_, ?_⟩
  · rcases htells.stdout with h | h
    · exact h
    · obtain ⟨⟨_, _, _, hopen', hd⟩, -⟩ := h
      obtain ⟨-, -, rfl⟩ := hopen'.unique ⟨rfl, hopen⟩
      exact absurd hd (hplain _)
  · rw [decide_eq_false hnonzero] at hlogs
    exact hlogs
  · rw [← hbefore]
    exact hafter

/-- A full device is opened and then refuses the log, so that the run fails although the layout
resolves; standard output takes the log, so that it is not empty although the run fails. -/
theorem run_log_to_devices :
    (Options.parse? ["doc.json", "--log-file", "/dev/full"] = some (loggedTo "/dev/full") ∧
      Loads (sampleFiles bareText) "doc.json" bare ∧
      (∃ opened, (sampleFiles bareText).openAppend "/dev/full" = .ok opened) ∧
      (∃ r, bare.resolve = .ok r) ∧
      (run 0 ["doc.json", "--log-file", "/dev/full"] (sampleFiles bareText)).1.exitCode = 1) ∧
    (Options.parse? ["doc.json", "--log-file", "/dev/stdout"] = some (loggedTo "/dev/stdout") ∧
      (run 0 ["doc.json", "--log-file", "/dev/stdout"] (sampleFiles selfAnchoredText)).1.exitCode
        = 1 ∧
      (run 0 ["doc.json", "--log-file", "/dev/stdout"] (sampleFiles selfAnchoredText)).1.stdout
        ≠ "") := by
  constructor
  · have hargs : Options.parse? ["doc.json", "--log-file", "/dev/full"] =
        some (loggedTo "/dev/full") := by decide +kernel
    have hopened : ((sampleFiles bareText).openAppend "/dev/full").map (·.2) = .ok "/dev/full" := by
      decide +kernel
    have hresolve : bare.resolve.isOk = true := by decide +kernel
    have hd : (sampleFiles bareText).file? "/dev/full" = some (.device .full) := rfl
    obtain ⟨fs₁, hopen⟩ := exists_openAppend_eq_ok hopened
    have hfails : Fails (loggedTo "/dev/full") (sampleFiles bareText) (.logging ⟨.noSpace⟩) :=
      .writing loads_bare ⟨rfl, hopen⟩ hd rfl
    refine ⟨hargs, loads_bare, ⟨_, hopen⟩, exists_eq_ok_of_isOk hresolve, ?_⟩
    rw [run_eq_runOptions hargs]
    exact (ends_runOptions _ _ _).exitCode_eq_one hfails
  · have hargs : Options.parse? ["doc.json", "--log-file", "/dev/stdout"] =
        some (loggedTo "/dev/stdout") := by decide +kernel
    have hopened : ((sampleFiles selfAnchoredText).openAppend "/dev/stdout").map (·.2) =
        .ok "/dev/stdout" := by decide +kernel
    obtain ⟨fs₁, hopen⟩ := exists_openAppend_eq_ok hopened
    have hd : (sampleFiles selfAnchoredText).file? "/dev/stdout" =
      some (.device (.stream .output)) := rfl
    have htakes : LogTakes (loggedTo "/dev/stdout") (sampleFiles selfAnchoredText) := by
      refine OpensLog.logTakes ⟨rfl, hopen⟩ ?_
      rintro _ ⟨⟩
      rfl
    have hfails : Fails (loggedTo "/dev/stdout") (sampleFiles selfAnchoredText)
        (.layout (.cyclicConstraint ["a"])) :=
      .resolving loads_selfAnchored htakes resolve_selfAnchored
    refine ⟨hargs, ?_⟩
    rw [run_eq_runOptions hargs]
    refine ⟨(ends_runOptions _ _ _).exitCode_eq_one hfails, ?_⟩
    obtain ⟨rfl, -⟩ := append_device_eq hopen hd ""
    rw [runOptions_eq_runOpened loads_selfAnchored ⟨rfl, hopen⟩, stdout_runOpened hd]
    exact (logsPass_runLogged _ _ _).append_ne_empty _


end AnchorLayout.CommandLine
