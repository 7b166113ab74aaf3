/-
The account of a file's own comment. A survey that begins behind a leading doc comment holds it for
the file, and asks after every step whether a declaration has just claimed it. So one verdict about
the file is reached in every survey, and one only: at the beginning, if there is no leading comment;
right behind the check that claims it, if there is one; otherwise at the end, and then the file is
documented.

Only the first check can claim the leading comment, since a declaration hides the comments before it.
That check's own verdict is that it is documented, which is why the finding about the file is the
first one of the survey also where it is not made at the beginning.
-/
import DocCoverage.Proofs.Entity.Sentences
import DocCoverage.Proofs.Survey.Credit
import DocCoverage.Run.Journal
import DocCoverage.Settings.Basic

set_option autoImplicit false

namespace DocCoverage

variable {stream : TokenStream} {defines : Bool} {s s' : SurveyState} {events : List Event} {d : Int}

/-! ## Holding the comment -/

namespace SurveyState

/-- **The comment at `d` is held for the file:** it lies behind, and nothing has claimed it. -/
structure Holds (s : SurveyState) (d : Int) : Prop where
  held : s.fileDocComment = d
  unclaimed : s.lastDocComment ≠ d
  nonneg : 0 ≤ d
  behind : d < s.cursor

/-- Where none is due nothing happens. -/
theorem release_of_not_due (h : ¬ s.mustRelease = true) : s.release = s ∧ s.releaseEvents = [] := by
  unfold release releaseEvents
  rw [if_neg h, if_neg h]
  exact ⟨rfl, rfl⟩

/-- Where one is due the file turns out to have no comment, and none is held any more. -/
theorem release_of_due (h : s.mustRelease = true) :
    s.release.fileDocComment = -1 ∧ s.releaseEvents = [.fileUndocumented 1] := by
  unfold release releaseEvents
  rw [if_pos h, if_pos h]
  exact ⟨rfl, rfl⟩

namespace Holds

/-- **A step claims the comment held** exactly if it makes a check that finds it. -/
theorem claimed_iff (h : s.Holds d) (hmoves : Moves stream s s' events) :
    s'.lastDocComment = d ↔ ∃ c, events.filterMap Event.check? = [c] ∧ c.doc = some d := by
  have hunclaimed := h.unclaimed
  have hbehind := h.behind
  have hrecalls := hmoves.recalls
  generalize s'.lastDocComment = last at hrecalls ⊢
  cases hrecalls with
  | same =>
    refine ⟨fun hlast => absurd hlast hunclaimed, ?_⟩
    rintro ⟨c, hnone, -⟩
    cases hnone
  | seen =>
    refine ⟨fun hlast => by omega, ?_⟩
    rintro ⟨c, hnone, -⟩
    cases hnone
  | check c others hlooked hchecks =>
    have hone : (Event.check c :: others).filterMap Event.check? = [c] := by
      rw [List.filterMap_cons_some (f := Event.check?) rfl, hchecks]
    rw [hone]
    constructor
    · intro hlast
      refine ⟨c, rfl, ?_⟩
      cases hdoc : c.doc with
      | none =>
        rw [hdoc] at hlast
        exact absurd hlast hunclaimed
      | some i =>
        rw [hdoc] at hlast
        exact congrArg some hlast
    · rintro ⟨c', hc', hdoc⟩
      obtain rfl := List.head_eq_of_cons_eq hc'
      rw [hdoc]
      rfl

/-- Behind a step a release is due exactly if the step has claimed the comment held. -/
theorem due_iff (h : s.Holds d) (hmoves : Moves stream s s' events) :
    s'.mustRelease = true ↔ ∃ c, events.filterMap Event.check? = [c] ∧ c.doc = some d := by
  have hfile : s'.fileDocComment = d := hmoves.fileDocComment_eq.trans h.held
  have hnonneg := h.nonneg
  rw [← h.claimed_iff hmoves, mustRelease_iff, hfile]
  exact ⟨And.right, fun hlast => ⟨hnonneg, hlast⟩⟩

/-- A step that does not claim the comment leaves it held. -/
theorem moves (h : s.Holds d) (hmoves : Moves stream s s' events) (hlt : s.cursor < s'.cursor)
    (hdue : ¬ s'.mustRelease = true) : s'.Holds d where
  held := hmoves.fileDocComment_eq.trans h.held
  unclaimed hlast := by
    rw [h.claimed_iff hmoves] at hlast
    exact hdue ((h.due_iff hmoves).2 hlast)
  nonneg := h.nonneg
  behind := Int.lt_trans h.behind hlt

end Holds

end SurveyState

/-! ## The verdicts of the visits -/

/-- The verdicts of a step are those of its checks. -/
theorem verdicts_step (stream : TokenStream) (defines : Bool) (s : SurveyState) :
    (step stream defines s).2.filterMap Event.verdict?
      = ((step stream defines s).2.filterMap Event.check?).map Check.verdict := by
  have hrecalls := (moves_step stream defines s).recalls
  generalize (step stream defines s).1.lastDocComment = last at hrecalls
  generalize (step stream defines s).2 = events at hrecalls ⊢
  cases hrecalls with
  | same => rfl
  | seen => rfl
  | check c others hlooked hchecks hverdicts =>
    rw [List.filterMap_cons_some (f := Event.verdict?) rfl,
      List.filterMap_cons_some (f := Event.check?) rfl, hchecks, hverdicts]
    rfl

/-- The verdicts of the visits from a state on, the releases included. -/
def verdictsFrom (stream : TokenStream) (defines : Bool) (s : SurveyState) : List Verdict :=
  ((visitsFrom stream defines s).flatMap Survey.eventsOfVisit).filterMap Event.verdict?

theorem verdictsFrom_end (h : stream.size ≤ s.cursor) : verdictsFrom stream defines s = [] := by
  rw [verdictsFrom, visitsFrom, if_neg (by omega)]
  rfl

/-- Before the end, the verdicts on the checks of a step come first, then that of a release. -/
theorem verdictsFrom_visit (h : s.cursor < stream.size) :
    verdictsFrom stream defines s
      = ((step stream defines s).2.filterMap Event.check?).map Check.verdict
        ++ ((step stream defines s).1.releaseEvents.filterMap Event.verdict?
          ++ verdictsFrom stream defines (visit stream defines s).after) := by
  rw [verdictsFrom, visitsFrom, if_pos h]
  dsimp only
  rw [List.flatMap_cons, List.filterMap_append, Survey.eventsOfVisit, List.filterMap_append,
    ← verdicts_step, List.append_assoc]
  rfl

/-- **With no comment held,** the verdicts are those of the checks, and none is held at the end. -/
theorem verdictsFrom_unheld (defines : Bool) (s : SurveyState) (h : s.fileDocComment = -1) :
    verdictsFrom stream defines s = (checksFrom stream defines s).map Check.verdict
      ∧ (endFrom stream defines s).fileDocComment = -1 := by
  induction s using visitsFrom.induct stream defines with
  | case1 s hlt v ih =>
    have hfile : (step stream defines s).1.fileDocComment = -1 :=
      (moves_step stream defines s).fileDocComment_eq.trans h
    have hdue : ¬ (step stream defines s).1.mustRelease = true := by
      rw [SurveyState.mustRelease_iff, hfile]
      rintro ⟨hheld, -⟩
      exact absurd hheld (by decide)
    obtain ⟨hsame, hsilent⟩ := SurveyState.release_of_not_due hdue
    have hafter : v.after.fileDocComment = -1 := by
      rw [after_visit, hsame, hfile]
    obtain ⟨hverdicts, hend⟩ := ih hafter
    rw [verdictsFrom_visit hlt, checksFrom_visit hlt, endFrom_visit hlt, hsilent, hverdicts,
      List.map_append]
    exact ⟨rfl, hend⟩
  | case2 s hge =>
    have hend : stream.size ≤ s.cursor := by omega
    rw [verdictsFrom_end hend, checksFrom_end hend, endFrom_end hend]
    exact ⟨rfl, h⟩

/-- **With a comment held that no check finds,** the verdicts are those of the checks, too, and the
comment is still held at the end. -/
theorem verdictsFrom_kept (defines : Bool) (s : SurveyState) (h : s.Holds d)
    (hnone : ∀ c ∈ checksFrom stream defines s, c.doc ≠ some d) :
    verdictsFrom stream defines s = (checksFrom stream defines s).map Check.verdict
      ∧ (endFrom stream defines s).fileDocComment = d := by
  induction s using visitsFrom.induct stream defines with
  | case1 s hlt v ih =>
    have hmoves := moves_step stream defines s
    rw [checksFrom_visit hlt] at hnone
    have hdue : ¬ (step stream defines s).1.mustRelease = true := by
      rw [h.due_iff hmoves]
      rintro ⟨c, hone, hdoc⟩
      rw [hone] at hnone
      exact hnone c (List.mem_append_left _ (List.mem_singleton_self c)) hdoc
    obtain ⟨hsame, hsilent⟩ := SurveyState.release_of_not_due hdue
    have hafter : v.after.Holds d := by
      rw [after_visit, hsame]
      exact h.moves hmoves (cursor_lt_step s) hdue
    obtain ⟨hverdicts, hend⟩ :=
      ih hafter fun c hc => hnone c (List.mem_append_right _ hc)
    rw [verdictsFrom_visit hlt, checksFrom_visit hlt, endFrom_visit hlt, hsilent, hverdicts,
      List.map_append]
    exact ⟨rfl, hend⟩
  | case2 s hge =>
    have hend : stream.size ≤ s.cursor := by omega
    rw [verdictsFrom_end hend, checksFrom_end hend, endFrom_end hend]
    exact ⟨rfl, h.held⟩

/-- **With a comment held that some check finds,** that check is the first one, the verdict about the
file comes right behind its own, and no comment is held at the end. -/
theorem verdictsFrom_claimed (defines : Bool) (s : SurveyState) (h : s.Holds d)
    (hclaimed : ∃ c ∈ checksFrom stream defines s, c.doc = some d) :
    ∃ (c : Check) (rest : List Check), c.doc = some d
      ∧ verdictsFrom stream defines s
        = c.verdict :: .fileUndocumented 1 :: rest.map Check.verdict
      ∧ (endFrom stream defines s).fileDocComment = -1 := by
  induction s using visitsFrom.induct stream defines with
  | case1 s hlt v ih =>
    have hmoves := moves_step stream defines s
    have hahead := (checksFrom_ordered stream defines v.after).1
    have hpassed : s.cursor < v.after.cursor := cursor_lt_after v
    have hbehind := h.behind
    obtain ⟨claimant, hmem, hdoc⟩ := hclaimed
    rw [checksFrom_visit hlt] at hmem
    rw [verdictsFrom_visit hlt, endFrom_visit hlt]
    by_cases hdue : (step stream defines s).1.mustRelease = true
    -- this step claims it, and from here on no comment is held
    · obtain ⟨c, hone, hcdoc⟩ := (h.due_iff hmoves).1 hdue
      obtain ⟨hreleased, hnoticed⟩ := SurveyState.release_of_due hdue
      have hafter : v.after.fileDocComment = -1 := by
        rw [after_visit, hreleased]
      obtain ⟨hverdicts, hend⟩ := verdictsFrom_unheld defines v.after hafter
      refine ⟨c, checksFrom stream defines v.after, hcdoc, ?_, hend⟩
      rw [hone, hnoticed, hverdicts]
      rfl
    · obtain ⟨hsame, hsilent⟩ := SurveyState.release_of_not_due hdue
      have hafter : v.after.Holds d := by
        rw [after_visit, hsame]
        exact h.moves hmoves (cursor_lt_step s) hdue
      rcases hmoves.recalls.checks with hnone | ⟨c, hlooked, hone, -⟩
      -- no check is made here, so the claimant is still ahead
      · rw [hnone, List.nil_append] at hmem
        rw [hnone, hsilent]
        exact ih hafter ⟨claimant, hmem, hdoc⟩
      -- a check that does not find the comment would hide it from the claimant
      · rw [hone, List.singleton_append] at hmem
        rcases List.mem_cons.1 hmem with rfl | hmem
        · exact absurd ((h.due_iff hmoves).2 ⟨claimant, hone, hdoc⟩) hdue
        · obtain ⟨hle, hlooked'⟩ := hahead claimant hmem
          exact absurd (hlooked'.attached hdoc)
            (hlooked.not_attached_across hbehind (by omega))
  | case2 s hge =>
    rw [checksFrom_end (by omega)] at hclaimed
    obtain ⟨c, hc, -⟩ := hclaimed
    exact absurd hc List.not_mem_nil

/-! ## The verdicts of a survey -/

/-- **The file keeps its leading comment:** it has one, and no check of the survey finds it. -/
def KeepsComment (stream : TokenStream) (survey : Survey) : Prop :=
  ∃ d, (fileComment stream).doc = some d ∧ ∀ c ∈ survey.checks, c.doc ≠ some d

/-- The line on which a missing comment of the file is reported. -/
def missingCommentLine (stream : TokenStream) : Int :=
  match (fileComment stream).doc with
  | some _ => 1
  | none => (fileComment stream).line

/-- The verdicts of a survey: those of its beginning, of its visits and of its end. -/
theorem verdicts_of_survey (stream : TokenStream) (defines : Bool) :
    (Survey.of stream defines).events.filterMap Event.verdict?
      = (startEvents stream).filterMap Event.verdict?
        ++ verdictsFrom stream defines (startState stream)
        ++ (Survey.of stream defines).closing.filterMap Event.verdict? := by
  rw [Survey.events, List.filterMap_append, List.filterMap_append]
  rfl

/-- What is noticed at the end depends on whether a comment is still held. -/
theorem closing_of_survey (stream : TokenStream) (defines : Bool) :
    (Survey.of stream defines).closing
      = if 0 ≤ (endFrom stream defines (startState stream)).fileDocComment then [.fileDocumented]
        else [] := rfl

/-- **One verdict of a survey is about the file.** All others are on checks. It is that the file is
documented if the file keeps its comment, and otherwise that it is not, and then no check before it
lacked its doc comment. -/
theorem exists_verdict_about_file (stream : TokenStream) (defines : Bool) :
    ∃ (earlier later : List Check) (verdict : Verdict),
      (Survey.of stream defines).events.filterMap Event.verdict?
          = earlier.map Check.verdict ++ verdict :: later.map Check.verdict
        ∧ (KeepsComment stream (Survey.of stream defines) ∧ verdict = .documented .file
          ∨ ¬ KeepsComment stream (Survey.of stream defines)
            ∧ verdict = .fileUndocumented (missingCommentLine stream)
            ∧ ∀ c ∈ earlier, c.doc.isSome = true) := by
  rw [verdicts_of_survey, closing_of_survey]
  unfold KeepsComment missingCommentLine startEvents
  dsimp only
  rw [checks_eq_checksFrom]
  cases hleading : (fileComment stream).doc with
  | none =>
    have hunheld : (startState stream).fileDocComment = -1 := by
      rw [startState_of_none hleading]
    obtain ⟨hverdicts, hend⟩ := verdictsFrom_unheld defines (startState stream) hunheld
    rw [hverdicts, hend]
    refine ⟨[], checksFrom stream defines (startState stream),
      .fileUndocumented (fileComment stream).line, ?_, Or.inr ⟨?_, rfl, ?_⟩⟩
    · exact List.append_nil _
    · rintro ⟨d, hd, -⟩
      cases hd
    · exact fun c hc => absurd hc List.not_mem_nil
  | some d =>
    obtain ⟨-, hkind⟩ := fileComment_doc_eq_some hleading
    have hnonneg := (TokenStream.bounds_of_kind? hkind).1
    have hholds : (startState stream).Holds d := by
      rw [startState_of_some hleading]
      exact ⟨rfl, by dsimp only; omega, hnonneg, Int.lt_succ d⟩
    by_cases hclaimed : ∃ c ∈ checksFrom stream defines (startState stream), c.doc = some d
    · obtain ⟨c, rest, hdoc, hverdicts, hend⟩ :=
        verdictsFrom_claimed defines (startState stream) hholds hclaimed
      rw [hverdicts, hend]
      refine ⟨[c], rest, .fileUndocumented 1, ?_, Or.inr ⟨?_, rfl, ?_⟩⟩
      · exact List.append_nil _
      · rintro ⟨d', hd', hkept⟩
        obtain rfl := Option.some.inj hd'
        obtain ⟨c', hc', hdoc'⟩ := hclaimed
        exact hkept c' hc' hdoc'
      · intro c' hc'
        rw [List.mem_singleton.1 hc', hdoc]
        rfl
    · have hnone : ∀ c ∈ checksFrom stream defines (startState stream), c.doc ≠ some d :=
        fun c hc hdoc => hclaimed ⟨c, hc, hdoc⟩
      obtain ⟨hverdicts, hend⟩ := verdictsFrom_kept defines (startState stream) hholds hnone
      rw [hverdicts, hend, if_pos hnonneg]
      exact ⟨checksFrom stream defines (startState stream), [], .documented .file, rfl,
        Or.inl ⟨⟨d, rfl, hnone⟩, rfl⟩⟩

/-! ## Counts and findings -/

/-- A check's verdict is about a declaration. -/
theorem kind_verdict (c : Check) : c.verdict.kind = .declared c.declaration := by
  unfold Check.verdict
  cases c.doc <;> rfl

/-- The check of a documented declaration makes no finding. -/
theorem finding?_verdict_of_isSome (reported : EntityKind → Bool) (file : String) {c : Check}
    (h : c.doc.isSome = true) : c.verdict.finding? reported file = none := by
  obtain ⟨i, hdoc⟩ := Option.isSome_iff_exists.1 h
  unfold Check.verdict
  rw [hdoc]
  rfl

/-- Verdicts on checks leave the tally of files. -/
theorem tally_file_foldl (checks : List Check) (c : Counters) :
    ((checks.map Check.verdict).foldl Counters.add c).tally .file = c.tally .file := by
  induction checks generalizing c with
  | nil => rfl
  | cons check rest ih =>
    have hadd : (c.add check.verdict).tally .file = c.tally .file := by
      have hkind := kind_verdict check
      cases hverdict : check.verdict with
      | documented kind =>
        rw [hverdict] at hkind
        dsimp only [Verdict.kind] at hkind
        rw [Counters.add, Counters.tally_addFound, if_neg (by rw [hkind]; nofun)]
      | undocumented kind line message =>
        rw [hverdict] at hkind
        dsimp only [Verdict.kind] at hkind
        rw [Counters.add, Counters.tally_addMissing, if_neg (by rw [hkind]; nofun)]
    rw [List.map_cons, List.foldl_cons, ih, hadd]

/-- Findings on checks are not about a file. -/
theorem kind?_ne_file {reported : EntityKind → Bool} {file : String} {checks : List Check}
    {f : Finding} (h : f ∈ (checks.map Check.verdict).filterMap (Verdict.finding? reported file)) :
    f.kind? ≠ some .file := by
  obtain ⟨v, hv, hfinding⟩ := List.mem_filterMap.1 h
  obtain ⟨c, -, rfl⟩ := List.mem_map.1 hv
  rw [kind?_of_check hfinding]
  nofun

section Account

variable {earlier later : List Check} {verdict : Verdict}

/-- The tally of files with one verdict about the file among those on checks. -/
theorem tally_file_of_verdicts (counters : Counters)
    (h : events.filterMap Event.verdict?
      = earlier.map Check.verdict ++ verdict :: later.map Check.verdict) :
    ∃ c : Counters, c.tally .file = counters.tally .file
      ∧ (counters.addEvents events).tally .file = (c.add verdict).tally .file := by
  refine ⟨(earlier.map Check.verdict).foldl Counters.add counters,
    tally_file_foldl earlier counters, ?_⟩
  rw [Counters.addEvents, h, List.foldl_append, List.foldl_cons, tally_file_foldl]

/-- The findings with one verdict about the file among those on checks. -/
theorem findings_of_verdicts (reported : EntityKind → Bool) (file : String)
    (h : events.filterMap Event.verdict?
      = earlier.map Check.verdict ++ verdict :: later.map Check.verdict) :
    findingsOf reported file events
      = (earlier.map Check.verdict).filterMap (Verdict.finding? reported file)
        ++ ((verdict.finding? reported file).toList
          ++ (later.map Check.verdict).filterMap (Verdict.finding? reported file)) := by
  rw [findingsOf, h, List.filterMap_append, List.filterMap_cons]
  cases verdict.finding? reported file <;> rfl

end Account

/-- **The account of a file's comment.** A survey raises the tally of files by exactly one: it is
found if the file keeps its leading comment, and missing otherwise. If it is missing and files are
reported, the finding about the file is the first one, and there is no other about it; if it is found,
or files are not reported, there is none. -/
theorem file_comment_accounted (stream : TokenStream) (settings : Settings) (file : String)
    (past : Journal) :
    let survey := Survey.of stream settings.defines
    let notes : Journal := survey.events.map (Note.event file)
    let before := (Journal.counters past).tally .file
    let after := (Journal.counters (past ++ notes)).tally .file
    let findings := Journal.findings settings.reports notes
    after.found + after.missing = before.found + before.missing + 1
      ∧ (after.found = before.found + 1 ↔ KeepsComment stream survey)
      ∧ (after.missing = before.missing + 1 ↔ ¬ KeepsComment stream survey)
      ∧ (¬ KeepsComment stream survey → settings.reports .file = true →
          ∃ rest, findings
              = ⟨file, missingCommentLine stream, missingMessage .file "" none⟩ :: rest
            ∧ ∀ f ∈ rest, f.kind? ≠ some .file)
      ∧ (KeepsComment stream survey ∨ settings.reports .file = false →
          ∀ f ∈ findings, f.kind? ≠ some .file) := by
  intro survey notes before after findings
  obtain ⟨earlier, later, verdict, hverdicts, hcases⟩ :=
    exists_verdict_about_file stream settings.defines
  obtain ⟨c, hbefore, hadded⟩ := tally_file_of_verdicts (Journal.counters past) hverdicts
  have hafter : after = (c.add verdict).tally .file := by
    rw [← hadded]
    exact congrArg (Counters.tally · .file) (Journal.counters_append_events past file survey.events)
  have hfindings := Journal.findings_events settings.reports file survey.events
  rw [findings_of_verdicts settings.reports file hverdicts] at hfindings
  change findings = _ at hfindings
  rcases hcases with ⟨hkeeps, rfl⟩ | ⟨hloses, rfl, hdocumented⟩
  -- the file is documented, which is counted and makes no finding
  · have hcount : after = ⟨before.found + 1, before.missing⟩ := by
      rw [hafter, Counters.add, Counters.tally_addFound, if_pos rfl, hbefore]
    rw [hcount]
    refine ⟨?_, ⟨fun _ => hkeeps, fun _ => rfl⟩, ⟨fun hmissing => ?_, fun h => absurd hkeeps h⟩,
      fun h => absurd hkeeps h, fun _ f hf => ?_⟩
    · dsimp only
      omega
    · dsimp only at hmissing
      omega
    · rw [hfindings] at hf
      rcases List.mem_append.1 hf with hf | hf
      · exact kind?_ne_file hf
      · exact kind?_ne_file hf
  -- it is not, and no check made a finding before
  · have hcount : after = ⟨before.found, before.missing + 1⟩ := by
      rw [hafter, Verdict.fileUndocumented, Counters.add, Counters.tally_addMissing, if_pos rfl,
        hbefore]
    have hsilent : (earlier.map Check.verdict).filterMap
        (Verdict.finding? settings.reports file) = [] := by
      rw [List.filterMap_eq_nil_iff]
      intro v hv
      obtain ⟨c', hc', rfl⟩ := List.mem_map.1 hv
      exact finding?_verdict_of_isSome _ _ (hdocumented c' hc')
    rw [hsilent, List.nil_append, Verdict.fileUndocumented, Verdict.finding?] at hfindings
    rw [hcount]
    refine ⟨?_, ⟨fun hfound => ?_, fun h => absurd h hloses⟩, ⟨fun _ => hloses, fun _ => rfl⟩,
      fun _ hreported => ?_, fun h f hf => ?_⟩
    · dsimp only
      omega
    · dsimp only at hfound
      omega
    · rw [if_pos hreported] at hfindings
      exact ⟨_, hfindings, fun f hf => kind?_ne_file hf⟩
    · have hoff : settings.reports .file = false := h.resolve_left hloses
      rw [hoff, if_neg Bool.false_ne_true] at hfindings
      rw [hfindings] at hf
      exact kind?_ne_file hf

end DocCoverage
