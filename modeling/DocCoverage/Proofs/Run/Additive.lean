/-
Runs add up. A checker keeps one journal over all requests, but a run begins by clearing it, and
what a run notes depends on the files, the settings and its paths alone. So it does not matter what
the checker was asked before, and a run over two lists of paths notes what a run over the first
notes and then what a run over the second does.

Findings and lists of paths are read off a journal note by note, and counts are sums over it; this
is why they add up as soon as the journals are one behind the other.
-/
import DocCoverage.Proofs.Run.Progress
import DocCoverage.Proofs.Run.Reporting

set_option autoImplicit false

namespace DocCoverage

/-! ## Checkers with a past -/

/-- A checker that was not asked anything yet. -/
def Checker.fresh (settings : Settings) : Checker := { settings }

/-- A checker after a number of requests, whether they could be answered or not. -/
def Checker.performAll (fs : FileSystem) (c : Checker) (requests : List Request) : Checker :=
  requests.foldl (fun c request => (c.perform fs request).1) c

/-- No request changes the settings. -/
theorem Checker.settings_performAll (fs : FileSystem) (c : Checker) (requests : List Request) :
    (c.performAll fs requests).settings = c.settings := by
  induction requests generalizing c with
  | nil => rfl
  | cons request rest ih => exact ih (c.perform fs request).1

/-- **A run leaves nothing of what was before it:** the checker has the journal of the run, and
answers with the report on it. -/
theorem Checker.perform_run {fs : FileSystem} {settings : Settings} {paths : List Path}
    {past : Journal} (hpaths : paths ≠ [])
    (hresult : (checkPaths fs settings paths).result = .ok ()) :
    Checker.perform fs ⟨settings, past⟩ (.run paths)
      = (⟨settings, (checkPaths fs settings paths).notes⟩,
        .ok (.report (.ofJournal settings (checkPaths fs settings paths).notes))) := by
  cases paths with
  | nil => exact absurd rfl hpaths
  | cons path rest =>
    have hwork : Checker.work fs settings (.run (path :: rest))
        = ⟨(checkPaths fs settings (path :: rest)).notes,
          .ok (.report (.ofJournal settings (checkPaths fs settings (path :: rest)).notes))⟩ := by
      simp only [Checker.work, Progress.andThen_of_ok _ hresult, Progress.quiet, List.append_nil]
    unfold Checker.perform
    dsimp only [Checker.clears]
    rw [hwork]
    rfl

/-- A checker that answers a run with a report has been given paths, and their check did not break
off. -/
theorem Checker.of_perform_run {fs : FileSystem} {settings : Settings} {paths : List Path}
    {past : Journal} {r : Report}
    (h : (Checker.perform fs ⟨settings, past⟩ (.run paths)).2 = .ok (.report r)) :
    paths ≠ [] ∧ (checkPaths fs settings paths).result = .ok ()
      ∧ r = .ofJournal settings (checkPaths fs settings paths).notes := by
  cases paths with
  | nil => cases h
  | cons path rest =>
    have hresult : (checkPaths fs settings (path :: rest)).result = .ok () := by
      obtain ⟨u, hu, -⟩ := Progress.result_andThen_eq_ok_iff.1 h
      exact hu
    rw [Checker.perform_run (List.cons_ne_nil path rest) hresult] at h
    exact ⟨List.cons_ne_nil path rest, hresult, (Answer.report.inj (Except.ok.inj h)).symm⟩

/-! ## Paths one after the other -/

/-- The way for two lists of paths leads along the first and then along the second. -/
theorem pathsRoute_append (fs : FileSystem) (settings : Settings) (p q : List Path) :
    pathsRoute fs settings (p ++ q)
      = (pathsRoute fs settings p).andThen fun _ => pathsRoute fs settings q :=
  Progress.each_append p q

/-- **Two lists of paths are checked one after the other,** also where the check of the first breaks
off. -/
theorem checkPaths_append (fs : FileSystem) (settings : Settings) (p q : List Path) :
    checkPaths fs settings (p ++ q)
      = (checkPaths fs settings p).andThen fun _ => checkPaths fs settings q := by
  unfold checkPaths
  rw [pathsRoute_append, Route.taken_andThen]

/-- **Runs add up, whatever was before them.** Let two lists of paths be given, each of which a
fresh checker can run. Then a checker that was asked anything before runs both lists together: it
finds what the first run finds and then what the second does, the same goes for the paths that are
missing and for what cannot be read, and every count is the sum of the two. All that it then holds
is what it reports. -/
theorem run_append_of_any_past (fs : FileSystem) (settings : Settings) (requests : List Request)
    {p q : List Path} {rp rq : Report}
    (hp : ((Checker.fresh settings).perform fs (.run p)).2 = .ok (.report rp))
    (hq : ((Checker.fresh settings).perform fs (.run q)).2 = .ok (.report rq)) :
    let before := (Checker.fresh settings).performAll fs requests
    let done := before.perform fs (.run (p ++ q))
    ∃ r : Report, done.2 = .ok (.report r)
      ∧ r.findings = rp.findings ++ rq.findings
      ∧ r.missing = rp.missing ++ rq.missing
      ∧ r.unreadable = rp.unreadable ++ rq.unreadable
      ∧ r.counters.files = rp.counters.files + rq.counters.files
      ∧ r.counters.directories = rp.counters.directories + rq.counters.directories
      ∧ (∀ kind, (r.counters.tally kind).found
            = (rp.counters.tally kind).found + (rq.counters.tally kind).found
          ∧ (r.counters.tally kind).missing
            = (rp.counters.tally kind).missing + (rq.counters.tally kind).missing)
      ∧ done.1.findings = r.findings ∧ done.1.counters = r.counters
      ∧ done.1.unreadable = r.unreadable := by
  intro before done
  obtain ⟨hpaths, hfirst, rfl⟩ := Checker.of_perform_run hp
  obtain ⟨-, hsecond, rfl⟩ := Checker.of_perform_run hq
  have happend := checkPaths_append fs settings p q
  rw [Progress.andThen_of_ok _ hfirst, hsecond] at happend
  -- of all that was before, only the settings are left, and those are the same
  have hsettings : before.settings = settings :=
    Checker.settings_performAll fs (Checker.fresh settings) requests
  have hdone : done = Checker.perform fs ⟨settings, before.journal⟩ (.run (p ++ q)) := by
    rw [← hsettings]
  have hnonempty : p ++ q ≠ [] := fun h => hpaths (List.append_eq_nil_iff.1 h).1
  rw [Checker.perform_run hnonempty (by rw [happend]), happend] at hdone
  have hcounters := Journal.counters_append (checkPaths fs settings p).notes
    (checkPaths fs settings q).notes
  refine ⟨.ofJournal settings
      ((checkPaths fs settings p).notes ++ (checkPaths fs settings q).notes),
    ?_, ?_, ?_, ?_, ?_, ?_, ?_, ?_⟩
  · rw [hdone]
  · exact Journal.findings_append settings.reports _ _
  · exact Journal.absent_append _ _
  · exact Journal.unreadable_append _ _
  · exact congrArg Counters.files hcounters
  · exact congrArg Counters.directories hcounters
  · intro kind
    have htally := congrArg (Counters.tally · kind) hcounters
    rw [Counters.tally_plus] at htally
    exact ⟨congrArg Tally.found htally, congrArg Tally.missing htally⟩
  · rw [hdone]
    exact ⟨rfl, rfl, rfl⟩

/-- A checker that was asked to survey a text and to check a missing path runs an empty file, a
missing path and the empty file again. -/
theorem run_append_behind_other_requests :
    let asked := (Checker.fresh .default).performAll .oneEmptyFile
      [.source "<?php class A {}" "s.php", .path ⟨"", ["c.php"]⟩]
    let done := asked.perform .oneEmptyFile
      (.run ([⟨"", ["a.php"]⟩] ++ [⟨"", ["b.php"]⟩, ⟨"", ["a.php"]⟩]))
    ∃ r : Report, done.2 = .ok (.report r)
      ∧ r.findings = List.replicate 2 ⟨"a.php", 1, missingMessage .file "" none⟩
      ∧ r.missing = [⟨"", ["b.php"]⟩] ∧ r.counters.files = 2 := by
  have hfirst : checkPaths .oneEmptyFile .default [⟨"", ["a.php"]⟩]
      = ⟨[.file "a.php", .event "a.php" (.fileUndocumented 1)], .ok ()⟩ := by cbv
  have hsecond : checkPaths .oneEmptyFile .default [⟨"", ["b.php"]⟩, ⟨"", ["a.php"]⟩]
      = ⟨[.absent ⟨"", ["b.php"]⟩ "File or directory does not exist", .file "a.php",
        .event "a.php" (.fileUndocumented 1)], .ok ()⟩ := by cbv
  have hp : ((Checker.fresh .default).perform .oneEmptyFile (.run [⟨"", ["a.php"]⟩])).2
      = .ok (.report (.ofJournal .default
        [.file "a.php", .event "a.php" (.fileUndocumented 1)])) := by
    rw [Checker.fresh, Checker.perform_run (List.cons_ne_nil _ _) (by rw [hfirst]), hfirst]
  have hq : ((Checker.fresh .default).perform .oneEmptyFile
        (.run [⟨"", ["b.php"]⟩, ⟨"", ["a.php"]⟩])).2
      = .ok (.report (.ofJournal .default
        [.absent ⟨"", ["b.php"]⟩ "File or directory does not exist", .file "a.php",
          .event "a.php" (.fileUndocumented 1)])) := by
    rw [Checker.fresh, Checker.perform_run (List.cons_ne_nil _ _) (by rw [hsecond]), hsecond]
  obtain ⟨r, hr, hfindings, hmissing, -, hfiles, -⟩ :=
    run_append_of_any_past .oneEmptyFile .default
      [.source "<?php class A {}" "s.php", .path ⟨"", ["c.php"]⟩] hp hq
  exact ⟨r, hr, hfindings, hmissing, hfiles⟩

end DocCoverage
