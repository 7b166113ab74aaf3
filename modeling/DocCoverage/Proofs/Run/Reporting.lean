/-
Report flags decide what is told and nothing else. Two requests are made side by side, under settings
that differ in report flags only: both take the same way, read the same files and note the same
things, and where one breaks off so does the other, at the same place. What a flag can change is
therefore what is read off one and the same journal, and there it decides about the findings of its
own kind.

The first half goes through the functions of a run from the inside out, with one equation for each of
them. A function that began to look at a flag would break its own equation and no other.
-/
import DocCoverage.Proofs.Entity.Sentences
import DocCoverage.Run.Checker
import Mathlib

set_option autoImplicit false

namespace DocCoverage

/-! ## Settings that differ in report flags only -/

/-- Two settings are the same but for the report flags. -/
def Settings.SameButReports (a b : Settings) : Prop :=
  ∀ field : Field, (∀ kind, field ≠ .report kind) → a.value field = b.value field

namespace Settings

/-- Changing all report flags changes nothing but report flags. -/
theorem sameButReports_withAllReports (s : Settings) (enabled : Bool) :
    s.SameButReports (s.withAllReports enabled) := by
  intro field hfield
  cases field with
  | report kind => exact absurd rfl (hfield kind)
  | checkDefines | extensions | excludePatterns | followLinks | encoding => rfl

/-- Every kind is reported alike once all flags are. -/
theorem reports_withAllReports (s : Settings) (enabled : Bool) :
    (s.withAllReports enabled).reports = fun _ => enabled := rfl

/-- Where nothing is set, all reports are on. -/
theorem default_withAllReports : default.withAllReports true = default := by
  have hvalue : (default.withAllReports true).value = default.value := by
    funext field
    cases field with
    | report kind | checkDefines | extensions | excludePatterns | followLinks | encoding => rfl
  exact congrArg Settings.mk hvalue

/-- Settings that are the same but for the report flags become the same when all flags are changed
alike. -/
theorem SameButReports.withAllReports_eq {a b : Settings} (h : a.SameButReports b) (enabled : Bool) :
    a.withAllReports enabled = b.withAllReports enabled := by
  have hvalue : (a.withAllReports enabled).value = (b.withAllReports enabled).value := by
    funext field
    cases field with
    | report kind => rfl
    | checkDefines | extensions | excludePatterns | followLinks | encoding => exact h _ nofun
  exact congrArg Settings.mk hvalue

/-! ## The way -/

namespace SameButReports

variable {a b : Settings}

theorem entriesToCheck_eq (h : a.SameButReports b) (fs : FileSystem) (root directory : Path) :
    entriesToCheck fs a root directory = entriesToCheck fs b root directory := by
  unfold entriesToCheck
  rw [h .extensions nofun, h .excludePatterns nofun, h .followLinks nofun]

/-- The way through a directory is the same down to every depth. -/
theorem directoryRouteFrom_eq (h : a.SameButReports b) (fs : FileSystem) (root : Path) (depth : Nat)
    (directory : Path) :
    directoryRouteFrom fs a root depth directory = directoryRouteFrom fs b root depth directory := by
  induction depth generalizing directory with
  | zero => rfl
  | succ depth ih =>
    unfold directoryRouteFrom
    simp only [h.entriesToCheck_eq, ih]

theorem pathRoute_eq (h : a.SameButReports b) (fs : FileSystem) (path : Path) :
    pathRoute fs a path = pathRoute fs b path := by
  unfold pathRoute directoryRoute
  rw [h.directoryRouteFrom_eq]

theorem pathsRoute_eq (h : a.SameButReports b) (fs : FileSystem) (paths : List Path) :
    pathsRoute fs a paths = pathsRoute fs b paths := by
  have heach : pathRouteOrAbsent fs a = pathRouteOrAbsent fs b := by
    funext path
    unfold pathRouteOrAbsent
    rw [h.pathRoute_eq]
  unfold pathsRoute
  rw [heach]

/-! ## The stops -/

theorem defines_eq (h : a.SameButReports b) : a.defines = b.defines := by
  unfold Settings.defines
  rw [h .checkDefines nofun]

theorem checkSource_eq (h : a.SameButReports b) (source file : String) :
    checkSource a source file = checkSource b source file := by
  unfold checkSource
  rw [h.defines_eq]

theorem checkFile_eq (h : a.SameButReports b) (fs : FileSystem) (path : Path) :
    checkFile fs a path = checkFile fs b path := by
  unfold checkFile Settings.encodingName
  simp only [h .encoding nofun, h.checkSource_eq]

theorem checkFileOrNote_eq (h : a.SameButReports b) (fs : FileSystem) (path : Path) :
    checkFileOrNote fs a path = checkFileOrNote fs b path := by
  unfold checkFileOrNote
  rw [h.checkFile_eq]

/-- The same happens at every stop. -/
theorem visit_eq (h : a.SameButReports b) (fs : FileSystem) (stop : Stop) :
    stop.visit fs a = stop.visit fs b := by
  cases stop with
  | file path => simp only [Stop.visit, h.checkFileOrNote_eq]
  | directory path | unlisted path problem | absent path reason => rfl

/-- The same happens at all stops in a row, also where the files depend on what was noted before: it
is the same that was noted. -/
theorem visitAll_eq (h : a.SameButReports b) (files : Journal → FileSystem) (past : Journal)
    (stops : List Stop) : visitAll files a past stops = visitAll files b past stops := by
  induction stops generalizing past with
  | nil => rfl
  | cons stop rest ih =>
    unfold visitAll
    simp only [h.visit_eq, ih]

theorem taken_eq {α : Type} (h : a.SameButReports b) (route : Route α)
    (files : Journal → FileSystem) : route.taken files a = route.taken files b := by
  unfold Route.taken
  rw [h.visitAll_eq]

/-! ## Requests -/

theorem checkDirectory_eq (h : a.SameButReports b) (fs : FileSystem) (root path : Path) :
    checkDirectory fs a root path = checkDirectory fs b root path := by
  unfold checkDirectory directoryRoute
  rw [h.checkFileOrNote_eq, h.directoryRouteFrom_eq, h.taken_eq]

theorem checkPath_eq (h : a.SameButReports b) (fs : FileSystem) (path : Path) :
    checkPath fs a path = checkPath fs b path := by
  unfold checkPath
  rw [h.pathRoute_eq, h.taken_eq]

/-- **All paths are checked in the same way,** and the check breaks off alike. -/
theorem checkPaths_eq (h : a.SameButReports b) (fs : FileSystem) (paths : List Path) :
    checkPaths fs a paths = checkPaths fs b paths := by
  unfold checkPaths
  rw [h.pathsRoute_eq, h.taken_eq]

end SameButReports

end Settings

/-- Putting a result in place of another one notes nothing. -/
theorem Progress.notes_andThen_quiet {ν α β : Type} (p : Progress ν α) (next : α → Result β) :
    (p.andThen fun x => .quiet (next x)).notes = p.notes := by
  unfold Progress.andThen
  cases p.result with
  | ok x => exact List.append_nil p.notes
  | error e => rfl

/-- **Every request leaves the same journal behind.** -/
theorem Settings.SameButReports.perform_journal_eq {a b : Settings} (h : a.SameButReports b)
    (fs : FileSystem) (past : Journal) (request : Request) :
    (Checker.perform fs ⟨a, past⟩ request).1.journal
      = (Checker.perform fs ⟨b, past⟩ request).1.journal := by
  have hnotes : (Checker.work fs a request).notes = (Checker.work fs b request).notes := by
    cases request with
    | source source file => simp only [Checker.work, h.checkSource_eq]
    | file path => simp only [Checker.work, h.checkFile_eq]
    | directory path root => simp only [Checker.work, h.checkDirectory_eq]
    | path path => simp only [Checker.work, h.checkPath_eq]
    | run paths =>
      -- here the answer is not the same, since the settings are part of the report
      cases paths with
      | nil => rfl
      | cons path rest =>
        simp only [Checker.work, Progress.notes_andThen_quiet, h.checkPaths_eq]
    | clear => rfl
  unfold Checker.perform
  dsimp only
  rw [hnotes]

/-! ## What is told -/

/-- The findings of the kinds that are reported, in their order. -/
def Settings.reportedAmong (s : Settings) (findings : List Finding) : List Finding :=
  findings.filter fun f => f.kind?.any s.reports

/-- A flag decides about the findings of its kind, whatever the note. -/
theorem Note.finding?_eq_filter (reported : EntityKind → Bool) (note : Note) :
    note.finding? reported
      = (note.finding? fun _ => true).filter fun f => f.kind?.any reported := by
  cases note with
  | event name e =>
    unfold Note.finding?
    dsimp only
    cases hverdict : e.verdict? with
    | none => rfl
    | some v => exact DocCoverage.finding?_eq_filter reported name hverdict
  | directory path | file name | unreadable path problem | absent path reason => rfl

/-- **The findings of a journal are those of a full report less the kinds that are off.** -/
theorem Journal.findings_eq_reportedAmong (s : Settings) (j : Journal) :
    j.findings s.reports = s.reportedAmong (j.findings (s.withAllReports true).reports) := by
  unfold Journal.findings Settings.reportedAmong
  rw [Settings.reports_withAllReports, List.filter_filterMap]
  exact congrArg (fun f => List.filterMap f j) (funext (Note.finding?_eq_filter s.reports))

/-- What a checker has found after a request is what it would have found in a full report, less the
kinds that are off. -/
theorem Checker.perform_findings_eq (fs : FileSystem) (s : Settings) (past : Journal)
    (request : Request) :
    (Checker.perform fs ⟨s, past⟩ request).1.findings
      = s.reportedAmong
        (Checker.perform fs ⟨s.withAllReports true, past⟩ request).1.findings := by
  unfold Checker.findings
  rw [← (s.sameButReports_withAllReports true).perform_journal_eq]
  exact Journal.findings_eq_reportedAmong s _

/-- A checker that surveys a text always answers, with the state the survey ends in. -/
theorem Checker.perform_source_answer (fs : FileSystem) (s : Settings) (past : Journal)
    (source file : String) :
    (Checker.perform fs ⟨s, past⟩ (.source source file)).2
      = .ok (.surveyed (Survey.of (.ofSource source) s.defines).final) := rfl

/-- A run returns if there are paths and their check does not break off, and then it reports on the
journal of the check. -/
theorem Checker.run_eq_ok_iff {fs : FileSystem} {s : Settings} {paths : List Path} {r : Report} :
    Checker.run fs s paths = .ok r ↔
      paths ≠ [] ∧ (checkPaths fs s paths).result = .ok ()
        ∧ .ofJournal s (checkPaths fs s paths).notes = r := by
  cases paths with
  | nil => simp [Checker.run, Problem.raise]
  | cons path rest =>
    unfold Checker.run
    cases hresult : (checkPaths fs s (path :: rest)).result with
    | error e => simp [hresult, Except.map]
    | ok u => simp [hresult, Except.map]

/-- **Report flags only filter.** Under settings that differ in report flags only, a run over a list
of paths returns for both or for none, with the same counts and the same paths that are missing or
cannot be read; what each of the two reports is what a full report has of the kinds it has on, in the
same order. A text that is surveyed leads to the same final state, the same counts, and findings that
are related in the same way, whatever was checked before. -/
theorem report_flags_only_filter {a b : Settings} (hsame : a.SameButReports b) (fs : FileSystem) :
    (∀ (paths : List Path) (ra : Report), Checker.run fs a paths = .ok ra →
      ∃ rb full : Report, Checker.run fs b paths = .ok rb
        ∧ Checker.run fs (a.withAllReports true) paths = .ok full
        ∧ rb.counters = ra.counters ∧ rb.missing = ra.missing ∧ rb.unreadable = ra.unreadable
        ∧ ra.findings = a.reportedAmong full.findings
        ∧ rb.findings = b.reportedAmong full.findings)
      ∧ ∀ (past : Journal) (source file : String),
        let ca := Checker.perform fs ⟨a, past⟩ (.source source file)
        let cb := Checker.perform fs ⟨b, past⟩ (.source source file)
        let full := Checker.perform fs ⟨a.withAllReports true, past⟩ (.source source file)
        (∃ final, ca.2 = .ok (.surveyed final) ∧ cb.2 = .ok (.surveyed final)
            ∧ full.2 = .ok (.surveyed final))
          ∧ cb.1.counters = ca.1.counters
          ∧ ca.1.findings = a.reportedAmong full.1.findings
          ∧ cb.1.findings = b.reportedAmong full.1.findings := by
  have hfull : a.SameButReports (a.withAllReports true) := a.sameButReports_withAllReports true
  constructor
  · intro paths ra hrun
    obtain ⟨hpaths, hresult, rfl⟩ := Checker.run_eq_ok_iff.1 hrun
    refine ⟨.ofJournal b (checkPaths fs a paths).notes,
      .ofJournal (a.withAllReports true) (checkPaths fs a paths).notes,
      ?_, ?_, rfl, rfl, rfl, ?_, ?_⟩
    · rw [hsame.checkPaths_eq] at hresult ⊢
      exact Checker.run_eq_ok_iff.2 ⟨hpaths, hresult, rfl⟩
    · rw [hfull.checkPaths_eq] at hresult ⊢
      exact Checker.run_eq_ok_iff.2 ⟨hpaths, hresult, rfl⟩
    · exact Journal.findings_eq_reportedAmong a _
    · rw [hsame.withAllReports_eq]
      exact Journal.findings_eq_reportedAmong b _
  · intro past source file
    refine ⟨⟨(Survey.of (.ofSource source) a.defines).final, ?_, ?_, ?_⟩, ?_, ?_, ?_⟩
    · exact Checker.perform_source_answer fs a past source file
    · rw [hsame.defines_eq]
      exact Checker.perform_source_answer fs b past source file
    · rw [hfull.defines_eq]
      exact Checker.perform_source_answer fs (a.withAllReports true) past source file
    · exact congrArg Journal.counters (hsame.perform_journal_eq fs past (.source source file)).symm
    · exact Checker.perform_findings_eq fs a past (.source source file)
    · rw [hsame.withAllReports_eq]
      exact Checker.perform_findings_eq fs b past (.source source file)

/-- Nothing but an empty file. -/
def FileSystem.oneEmptyFile : FileSystem where
  root := [("a.php", .file [] false)]
  current := []

/-- An empty file is checked with the flag for files on and off. -/
theorem report_flags_only_filter_for_files :
    ∃ ra rb : Report,
      Checker.run .oneEmptyFile .default [⟨"", ["a.php"]⟩] = .ok ra
        ∧ Checker.run .oneEmptyFile (Settings.default.set (.report .file) (.bool false))
          [⟨"", ["a.php"]⟩] = .ok rb
        ∧ rb.counters = ra.counters
        ∧ ra.findings = [⟨"a.php", 1, missingMessage .file "" none⟩] ∧ rb.findings = [] := by
  have hsame : Settings.default.SameButReports
      (Settings.default.set (.report .file) (.bool false)) := by
    intro field hfield
    rw [Settings.value_set, if_neg (hfield .file)]
  have hcheck : checkPaths .oneEmptyFile .default [⟨"", ["a.php"]⟩]
      = ⟨[.file "a.php", .event "a.php" (.fileUndocumented 1)], .ok ()⟩ := by cbv
  have hrun : Checker.run .oneEmptyFile .default [⟨"", ["a.php"]⟩]
      = .ok (.ofJournal .default [.file "a.php", .event "a.php" (.fileUndocumented 1)]) := by
    rw [Checker.run_eq_ok_iff, hcheck]
    exact ⟨List.cons_ne_nil _ _, rfl, rfl⟩
  obtain ⟨rb, full, hrb, hfull, hcounters, -, -, -, hfindings⟩ :=
    (report_flags_only_filter hsame .oneEmptyFile).1 _ _ hrun
  rw [Settings.default_withAllReports, hrun] at hfull
  obtain rfl := Except.ok.inj hfull
  refine ⟨_, rb, hrun, hrb, hcounters, rfl, ?_⟩
  rw [hfindings]
  decide +kernel

end DocCoverage
