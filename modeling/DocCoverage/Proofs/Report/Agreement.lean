/-
What a report tells agrees with itself. The findings, the counts and the printed summary of a run
are three views of one journal, and they are tied together note by note: a verdict raises the
missing entities of its kind by one, and makes a finding exactly if that kind is reported. So there
are as many findings as entities are missing of the kinds that are reported.

The summary leaves the row of constants out where calls of `define` are not looked at. Its rows sum
up to all missing entities nevertheless, since no constant is counted then: of all steps of a
survey, only the one at an identifier looks at constants, and it does so only where it is told to.
-/
import DocCoverage.Proofs.Run.Reporting
import DocCoverage.Proofs.Run.Visits
import DocCoverage.Proofs.Survey.LeadingComment
import DocCoverage.Report.Summary
import Mathlib

set_option autoImplicit false

namespace DocCoverage

/-! ## Findings and missing entities -/

namespace Counters

/-- **How many entities lack their doc comment** among those of some kinds. -/
def missingAmong (c : Counters) (reported : EntityKind → Bool) : Int :=
  ((EntityKind.all.filter reported).map fun kind => (c.tally kind).missing).sum

variable {reported : EntityKind → Bool}

/-- Before anything is counted, none is missing. -/
@[simp] theorem missingAmong_empty : ({} : Counters).missingAmong reported = 0 := by
  unfold missingAmong
  simp only [tally_empty, List.map_const', List.sum_replicate, nsmul_zero]

/-- A documented entity is not missing. -/
theorem missingAmong_addFound (c : Counters) (kind : EntityKind) :
    (c.addFound kind).missingAmong reported = c.missingAmong reported := by
  unfold missingAmong
  refine congrArg List.sum (List.map_congr_left fun other _ => ?_)
  rw [tally_addFound]
  by_cases hkind : other = kind
  · rw [if_pos hkind, hkind]
  · rw [if_neg hkind]

/-- A missing entity counts once, and only if its kind is among those asked for. -/
theorem missingAmong_addMissing (c : Counters) (kind : EntityKind) :
    (c.addMissing kind).missingAmong reported
      = c.missingAmong reported + if reported kind then 1 else 0 := by
  -- the kind comes up once among all, so exactly one term of the sum is raised
  have honce : (EntityKind.all.filter reported).count kind = if reported kind then 1 else 0 := by
    have hnodup : (EntityKind.all.filter reported).Nodup := List.Nodup.filter _ (by decide)
    rw [hnodup.count]
    simp only [List.mem_filter, kind.mem_all, true_and]
  have htally : ∀ other, ((c.addMissing kind).tally other).missing
      = if other = kind then (c.tally kind).missing + 1 else (c.tally other).missing := by
    intro other
    rw [tally_addMissing]
    split <;> rfl
  unfold missingAmong
  simp only [htally]
  rw [List.sum_map_ite_eq (EntityKind.all.filter reported) (fun _ => (c.tally kind).missing + 1)
    (fun other => (c.tally other).missing) kind, honce]
  by_cases hreported : reported kind = true
  · rw [if_pos hreported, if_pos hreported, one_nsmul]
    omega
  · rw [if_neg hreported, if_neg hreported, zero_nsmul]
    omega

end Counters

variable {reported : EntityKind → Bool} {kind : EntityKind}

/-- **A note raises both sides alike:** the missing entities of the kinds that are reported, and the
findings. -/
theorem Note.missingAmong_countIn (c : Counters) (note : Note) :
    (note.countIn c).missingAmong reported
      = c.missingAmong reported + (note.finding? reported).toList.length := by
  cases note with
  | event name e =>
    unfold Note.countIn Note.finding?
    dsimp only
    cases e.verdict? with
    | none => exact (Int.add_zero _).symm
    | some verdict =>
      cases verdict with
      | documented kind => exact (c.missingAmong_addFound kind).trans (Int.add_zero _).symm
      | undocumented kind line message =>
        refine (c.missingAmong_addMissing kind).trans ?_
        rw [Option.bind_some, Verdict.finding?]
        split <;> rfl
  | directory path | file name | unreadable path problem | absent path reason =>
    exact (Int.add_zero _).symm

/-- **There are as many findings as entities are missing** of the kinds that are reported. -/
theorem Journal.length_findings (reported : EntityKind → Bool) (j : Journal) :
    ((j.findings reported).length : Int) = j.counters.missingAmong reported := by
  -- the counts are folded up from any start, since a note is added to what was counted before
  have hfold : ∀ c : Counters, (j.foldl Note.countIn c).missingAmong reported
      = c.missingAmong reported + (j.findings reported).length := by
    induction j with
    | nil => exact fun c => (Int.add_zero _).symm
    | cons note rest ih =>
      intro c
      have hlength : (Journal.findings reported (note :: rest)).length
          = (note.finding? reported).toList.length + (Journal.findings reported rest).length := by
        unfold Journal.findings
        rw [List.filterMap_cons]
        cases note.finding? reported with
        | none => exact (Nat.zero_add _).symm
        | some f => exact Nat.add_comm _ 1
      rw [List.foldl_cons, ih, note.missingAmong_countIn, hlength]
      omega
  unfold Journal.counters
  rw [hfold, Counters.missingAmong_empty, Int.zero_add]

/-! ## Constants that are not looked at -/

/-- A note without a verdict on a kind leaves the tally of the kind. -/
theorem Note.tally_countIn {note : Note} (h : ∀ v, note.verdict? = some v → v.kind ≠ kind)
    (c : Counters) : (note.countIn c).tally kind = c.tally kind := by
  cases note with
  | event name e =>
    unfold Note.countIn
    unfold Note.verdict? at h
    dsimp only at h ⊢
    cases hverdict : e.verdict? with
    | none => rfl
    | some v =>
      have hkind : kind ≠ v.kind := (h v hverdict).symm
      cases v with
      | documented other => exact (c.tally_addFound other kind).trans (if_neg hkind)
      | undocumented other line message =>
        exact (c.tally_addMissing other kind).trans (if_neg hkind)
  | directory path | file name | unreadable path problem | absent path reason => rfl

/-- **A kind without a verdict on it** is not counted at all. -/
theorem Journal.tally_eq_zero {j : Journal}
    (h : ∀ note ∈ j, ∀ v, note.verdict? = some v → v.kind ≠ kind) :
    j.counters.tally kind = ⟨0, 0⟩ := by
  have hfold : ∀ c : Counters, (j.foldl Note.countIn c).tally kind = c.tally kind := by
    induction j with
    | nil => exact fun c => rfl
    | cons note rest ih =>
      intro c
      obtain ⟨hfirst, hrest⟩ := List.forall_mem_cons.1 h
      rw [List.foldl_cons, ih hrest, Note.tally_countIn hfirst]
  rw [Journal.counters, hfold, Counters.tally_empty]

/-- **A step looks at constants only where it is told to.** -/
theorem declaration_ne_constant_of_step (stream : TokenStream) (s : SurveyState) {c : Check}
    (h : .check c ∈ (step stream false s).2) : c.declaration ≠ .constant := by
  obtain ⟨t, -, hchecked⟩ := checked_of_step h
  cases hchecked with
  | context declaration hdeclaration hstep =>
    rw [hstep] at h
    rw [declaration_of_stepContext h]
    rcases hdeclaration with rfl | rfl <;> decide
  | function hdeclaration =>
    rw [hdeclaration]
    decide
  | property hinside houtside hcheck =>
    rw [hcheck, Check.declaration_run]
    decide
  | classConstant name hname hinside hcheck =>
    rw [hcheck, Check.declaration_run]
    decide
  | constant name hdefines => cases hdefines

/-- Where calls of `define` are not looked at, no check of a survey is of a constant. -/
theorem declaration_ne_constant_of_survey {stream : TokenStream} {c : Check}
    (h : c ∈ (Survey.of stream false).checks) : c.declaration ≠ .constant := by
  rw [checks_eq_checksFrom] at h
  generalize startState stream = s at h
  induction s using visitsFrom.induct stream false with
  | case1 s hlt v ih =>
    rw [checksFrom_visit hlt] at h
    rcases List.mem_append.1 h with hstep | hlater
    · exact declaration_ne_constant_of_step stream s (mem_filterMap_check?_iff.1 hstep)
    · exact ih hlater
  | case2 s hge =>
    rw [checksFrom_end (by omega)] at h
    exact absurd h List.not_mem_nil

/-- Where calls of `define` are not looked at, no verdict of a survey is on a constant. -/
theorem kind_ne_constant_of_survey {stream : TokenStream} {e : Event} {v : Verdict}
    (he : e ∈ (Survey.of stream false).events) (hverdict : e.verdict? = some v) :
    v.kind ≠ .declared .constant := by
  cases e with
  | check c =>
    obtain rfl := Option.some.inj hverdict
    have hmem : c ∈ (Survey.of stream false).checks := List.mem_filterMap.2 ⟨.check c, he, rfl⟩
    rw [kind_verdict]
    exact fun h => declaration_ne_constant_of_survey hmem (EntityKind.declared.inj h)
  | replaced context => cases hverdict
  | fileDocumented | fileUndocumented line =>
    obtain rfl := Option.some.inj hverdict
    exact nofun

/-- On no route a constant is counted where calls of `define` are not looked at. -/
theorem tally_constant_of_taken {α : Type} {fs : FileSystem} {settings : Settings}
    (hdefines : settings.defines = false) (route : Route α) :
    (Journal.counters (route.taken (fun _ => fs) settings).notes).tally (.declared .constant)
      = ⟨0, 0⟩ := by
  refine Journal.tally_eq_zero fun note hnote v hverdict => ?_
  obtain ⟨stop, -, hnoted⟩ := Route.exists_of_mem_notes_taken hnote
  cases note with
  | event name e =>
    obtain ⟨source, hsurvey⟩ := Stop.survey_of_mem_notes hnoted
    rw [hdefines] at hsurvey
    exact kind_ne_constant_of_survey hsurvey hverdict
  | directory path | file name | unreadable path problem | absent path reason => cases hverdict

/-! ## The printed summary -/

namespace Report

/-- The rows that a summary prints, each with its number. -/
def printedRows (r : Report) : List (String × Int) :=
  (summaryRows.filter fun row => r.summarises row.1).map fun row =>
    (row.2, (r.counters.tally row.1).missing)

/-- A row as it is printed. -/
def rowText (row : String × Int) : String := "\t" ++ row.1 ++ ": " ++ toString row.2

/-- **A summary prints its rows** behind the paths and findings, and then how much is reported. -/
theorem summary_eq (r : Report) :
    r.summary
      = "\n".intercalate
        (r.missing.map (fun path => "Error: " ++ missingPathText path)
          ++ r.findings.map Finding.shown ++ ["Missing:"] ++ r.printedRows.map rowText
          ++ ["\tMissing Doc-comments: " ++ toString r.findings.length]) := by
  have hrows : (summaryRows.filter fun row => r.summarises row.1).map r.summaryRow
      = r.printedRows.map rowText := by
    unfold printedRows
    rw [List.map_map]
    rfl
  unfold summary
  rw [hrows]
  rfl

/-- **The printed rows sum up to all missing entities,** also where constants have no row, provided
that none is counted then. -/
theorem sum_printedRows {r : Report}
    (hconstants : r.settings.defines = false → r.counters.tally (.declared .constant) = ⟨0, 0⟩) :
    (r.printedRows.map Prod.snd).sum = r.counters.totalMissing := by
  unfold printedRows Counters.totalMissing EntityKind.all summaryRows summarises
  cases hdefines : r.settings.defines with
  | true =>
    simp
    omega
  | false =>
    simp [hconstants hdefines]
    omega

end Report

/-- **Counts, findings and summary of a run agree.** A run that returns has as many findings as
entities are missing of the kinds that are reported. Where calls of `define` are not looked at, no
constant is counted, neither as found nor as missing. The rows that the summary prints sum up to all
missing entities, whether or not there is one for constants, and its last line gives the number of
missing entities of the kinds that are reported. -/
theorem run_views_agree {fs : FileSystem} {settings : Settings} {paths : List Path} {r : Report}
    (hrun : Checker.run fs settings paths = .ok r) :
    (r.findings.length : Int) = r.counters.missingAmong settings.reports
      ∧ (settings.defines = false → r.counters.tally (.declared .constant) = ⟨0, 0⟩)
      ∧ (r.printedRows.map Prod.snd).sum = r.counters.totalMissing
      ∧ r.summary
        = "\n".intercalate
          (r.missing.map (fun path => "Error: " ++ missingPathText path)
            ++ r.findings.map Finding.shown ++ ["Missing:"] ++ r.printedRows.map Report.rowText
            ++ ["\tMissing Doc-comments: "
              ++ toString (r.counters.missingAmong settings.reports)]) := by
  obtain ⟨-, -, rfl⟩ := Checker.run_eq_ok_iff.1 hrun
  have hconstants : settings.defines = false →
      (Journal.counters (checkPaths fs settings paths).notes).tally (.declared .constant)
        = ⟨0, 0⟩ :=
    fun hdefines => tally_constant_of_taken hdefines (pathsRoute fs settings paths)
  have hlength := Journal.length_findings settings.reports (checkPaths fs settings paths).notes
  refine ⟨hlength, hconstants, Report.sum_printedRows hconstants, ?_⟩
  rw [Report.summary_eq]
  dsimp only [Report.ofJournal]
  rw [← hlength]
  rfl

/-- Nothing but a file with a class in it. -/
def FileSystem.oneClass : FileSystem where
  root := [("a.php", .file "<?php class A {}".toUTF8.toList false)]
  current := []

/-- A file without comments, with the report on files turned off: the class is reported, and the
file is still in the summary. -/
theorem run_views_agree_without_files :
    ∃ r : Report,
      Checker.run .oneClass (Settings.default.set (.report .file) (.bool false))
          [⟨"", ["a.php"]⟩] = .ok r
        ∧ r.findings.length = 1 ∧ (r.printedRows.map Prod.snd).sum = 2
        ∧ r.counters.tally (.declared .constant) = ⟨0, 0⟩ := by
  let settings := Settings.default.set (.report .file) (.bool false)
  have hroute : pathsRoute .oneClass settings [⟨"", ["a.php"]⟩]
      = ⟨[.file ⟨"", ["a.php"]⟩], .ok ()⟩ := by cbv
  have hread : readSource .oneClass ⟨"", ["a.php"]⟩ settings.encodingName .replace
      = .ok "<?php class A {}" := by cbv
  have hevents : (Survey.of (.ofSource "<?php class A {}") false).events
      = [.fileUndocumented 1, .check ⟨.classDecl, 1, "A", 1, none, none⟩] := by decide +kernel
  have hcheck : checkPaths .oneClass settings [⟨"", ["a.php"]⟩]
      = ⟨[.file "a.php", .event "a.php" (.fileUndocumented 1),
        .event "a.php" (.check ⟨.classDecl, 1, "A", 1, none, none⟩)], .ok ()⟩ := by
    have hvisit := Stop.visit_of_read hread
    rw [show settings.defines = false from rfl, hevents] at hvisit
    rw [checkPaths, Route.taken_eq, hroute, Progress.each_cons, hvisit]
    rfl
  have hrun := Checker.run_eq_ok_iff.2
    ⟨List.cons_ne_nil _ _, congrArg Progress.result hcheck, rfl⟩
  rw [hcheck] at hrun
  obtain ⟨hlength, hconstants, hrows, -⟩ := run_views_agree hrun
  refine ⟨_, hrun, ?_, ?_, hconstants rfl⟩
  · have hmissing : (Journal.counters [.file "a.php", .event "a.php" (.fileUndocumented 1),
        .event "a.php" (.check ⟨.classDecl, 1, "A", 1, none, none⟩)]).missingAmong settings.reports
        = 1 := by decide
    exact Int.ofNat.inj (hlength.trans hmissing)
  · rw [hrows]
    decide

end DocCoverage
