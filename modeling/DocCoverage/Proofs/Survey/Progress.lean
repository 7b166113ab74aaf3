/-
How a survey goes on. Every step moves the cursor forward by itself, so the move that a pass would
force never happens; and what a survey looks at depends on its place and on what is open there, not
on the doc comments it remembers.

Both facts make a survey readable from any place on: `subjectsFrom` is what is still to be looked
at, and it is taken apart one step at a time, with the state that the step itself leads to.
-/
import DocCoverage.Survey.Pass

set_option autoImplicit false

namespace DocCoverage

/-! ## Every step moves on -/

/-- Going on over white space passes at least one token. -/
theorem lt_skipBlankForward (s : TokenStream) (index : Int) : index < s.skipBlankForward index := by
  induction index using TokenStream.skipBlankForward.induct s with
  | case1 index hkind ih =>
    rw [TokenStream.skipBlankForward, dif_pos hkind]
    omega
  | case2 index hkind =>
    rw [TokenStream.skipBlankForward, dif_neg hkind]
    omega

/-- A function's body is not looked for backward. -/
theorem le_bodyFrom (s : TokenStream) (depth : Nat) (index : Int) :
    index ≤ bodyFrom s depth index := by
  fun_induction bodyFrom s depth index <;> omega

namespace SurveyState

/-- Claiming a doc comment leaves the place. -/
@[simp] theorem cursor_claim (s : SurveyState) (doc : Option Int) :
    (s.claim doc).cursor = s.cursor := by
  cases doc <;> rfl

/-- It leaves the open classes. -/
@[simp] theorem contexts_claim (s : SurveyState) (doc : Option Int) :
    (s.claim doc).contexts = s.contexts := by
  cases doc <;> rfl

/-- And it leaves the count for functions. -/
@[simp] theorem functionNesting_claim (s : SurveyState) (doc : Option Int) :
    (s.claim doc).functionNesting = s.functionNesting := by
  cases doc <;> rfl

@[simp] theorem cursor_moveTo (s : SurveyState) (cursor : Int) :
    (s.moveTo cursor).cursor = cursor := rfl

@[simp] theorem functionNesting_moveTo (s : SurveyState) (cursor : Int) :
    (s.moveTo cursor).functionNesting = s.functionNesting := rfl

@[simp] theorem functionNesting_advance (s : SurveyState) :
    s.advance.functionNesting = s.functionNesting := rfl

/-- Releasing the leading comment leaves the place, the open classes and the count for functions. -/
@[simp] theorem cursor_release (s : SurveyState) : s.release.cursor = s.cursor := by
  unfold release
  split <;> rfl

@[simp] theorem contexts_release (s : SurveyState) : s.release.contexts = s.contexts := by
  unfold release
  split <;> rfl

@[simp] theorem functionNesting_release (s : SurveyState) :
    s.release.functionNesting = s.functionNesting := by
  unfold release
  split <;> rfl

/-- Going on by one token passes one, whether a comment is claimed with it or not. -/
theorem cursor_lt_advance_claim (s : SurveyState) (doc : Option Int) :
    s.cursor < (s.advance.claim doc).cursor := by
  rw [cursor_claim]
  exact Int.lt_succ s.cursor

end SurveyState

variable {stream : TokenStream} {defines : Bool}

/-- A class or interface keyword is passed, to its name if it has one. -/
theorem cursor_lt_stepContext (s : SurveyState) (declaration : Declaration) (t : Token) :
    s.cursor < (stepContext stream s declaration t).1.cursor := by
  have hname := lt_skipBlankForward stream s.cursor
  unfold stepContext
  dsimp only
  rw [SurveyState.cursor_claim, SurveyState.cursor_moveTo]
  split
  · split
    · exact hname
    · exact Int.lt_succ s.cursor
  · exact Int.lt_succ s.cursor

/-- A function keyword is passed, to the body. -/
theorem cursor_lt_stepFunction (s : SurveyState) (t : Token) :
    s.cursor < (stepFunction stream s t).1.cursor := by
  have hbody := le_bodyFrom stream 0 (s.cursor + 1)
  unfold stepFunction
  split
  · exact Int.lt_succ s.cursor
  · dsimp only
    rw [SurveyState.cursor_claim, SurveyState.cursor_moveTo]
    omega

/-- **Every step moves the cursor on**, from every state, whatever is under the cursor. -/
theorem cursor_lt_step (s : SurveyState) : s.cursor < (step stream defines s).1.cursor := by
  unfold step
  split
  · exact Int.lt_succ s.cursor
  next t _ =>
    split
    · exact cursor_lt_stepContext s _ t
    · exact cursor_lt_stepContext s _ t
    · exact cursor_lt_stepFunction s t
    · unfold stepVariable
      split
      · exact s.cursor_lt_advance_claim _
      · exact Int.lt_succ s.cursor
    · unfold stepConst
      split
      · exact Int.lt_succ s.cursor
      · exact s.cursor_lt_advance_claim _
    · unfold stepIdentifier
      dsimp only
      split
      · split
        · exact s.cursor_lt_advance_claim _
        · exact Int.lt_succ s.cursor
      · exact Int.lt_succ s.cursor
    · exact Int.lt_succ s.cursor
    · exact Int.lt_succ s.cursor
    · exact Int.lt_succ s.cursor
    · exact Int.lt_succ s.cursor

/-- **No move is forced:** what follows a visit is the step's own state, the leading comment
released if it was claimed. -/
theorem after_visit (s : SurveyState) :
    (visit stream defines s).after = (step stream defines s).1.release := by
  -- the forced move asks for a step that stayed, and there is none
  have hlt : s.cursor < (step stream defines s).1.cursor := cursor_lt_step s
  unfold Visit.after SurveyState.pastCursor visit
  dsimp only
  rw [SurveyState.cursor_release, if_neg (by omega)]

/-! ## Without the doc comments -/

namespace SurveyState

/-- **The state but for the doc comments it remembers:** its place, the classes open there, and how
deep it is in functions. -/
def bare (s : SurveyState) : SurveyState := { s with lastDocComment := -1, fileDocComment := -1 }

@[simp] theorem bare_claim (s : SurveyState) (doc : Option Int) : (s.claim doc).bare = s.bare := by
  cases doc <;> rfl

@[simp] theorem bare_release (s : SurveyState) : s.release.bare = s.bare := by
  unfold release
  split <;> rfl

@[simp] theorem bare_moveTo (s : SurveyState) (cursor : Int) :
    (s.moveTo cursor).bare = s.bare.moveTo cursor := rfl

@[simp] theorem bare_enter (s : SurveyState) (context : Context) :
    (s.enter context).bare = s.bare.enter context := by
  obtain ⟨cursor, contexts, nesting, last, file⟩ := s
  cases contexts <;> rfl

end SurveyState

/-- What a step noticed, with the bare state it led to. -/
def Stepped.bare (r : Stepped) : Stepped := (r.1.bare, r.2)

/-- A claim at the end of a step leaves no trace in the bare state. -/
theorem Stepped.bare_claim (s : SurveyState) (doc : Option Int) (events : List Event) :
    Stepped.bare (s.claim doc, events) = (s.bare, events) :=
  congrArg (·, events) (SurveyState.bare_claim s doc)

/-- Two steps that branch alike agree if their branches do. -/
theorem Stepped.bare_ite {p q : Prop} [Decidable p] [Decidable q] {a b c d : Stepped} (h : p ↔ q)
    (hthen : a.bare = c.bare) (helse : b.bare = d.bare) :
    (if p then a else b).bare = (if q then c else d).bare := by
  by_cases hp : p
  · rw [if_pos hp, if_pos (h.1 hp), hthen]
  · rw [if_neg hp, if_neg (mt h.2 hp), helse]

theorem stepContext_bare (s : SurveyState) (declaration : Declaration) (t : Token) :
    (stepContext stream s.bare declaration t).bare = (stepContext stream s declaration t).bare := by
  unfold stepContext
  dsimp only
  rw [Stepped.bare_claim, Stepped.bare_claim, SurveyState.bare_moveTo, SurveyState.bare_moveTo,
    SurveyState.bare_enter, SurveyState.bare_enter]
  rfl

theorem stepFunction_bare (s : SurveyState) (t : Token) :
    (stepFunction stream s.bare t).bare = (stepFunction stream s t).bare := by
  refine Stepped.bare_ite Iff.rfl rfl ?_
  rw [Stepped.bare_claim, Stepped.bare_claim]
  rfl

theorem stepVariable_bare (s : SurveyState) (t : Token) :
    (stepVariable stream s.bare t).bare = (stepVariable stream s t).bare := by
  refine Stepped.bare_ite Iff.rfl ?_ rfl
  rw [Stepped.bare_claim, Stepped.bare_claim]
  rfl

theorem stepConst_bare (s : SurveyState) (t : Token) :
    (stepConst stream s.bare t).bare = (stepConst stream s t).bare := by
  refine Stepped.bare_ite Iff.rfl rfl ?_
  rw [Stepped.bare_claim, Stepped.bare_claim]
  rfl

theorem stepIdentifier_bare (s : SurveyState) (t : Token) :
    (stepIdentifier stream defines s.bare t).bare = (stepIdentifier stream defines s t).bare := by
  refine Stepped.bare_ite Iff.rfl (Stepped.bare_ite Iff.rfl ?_ rfl) rfl
  rw [Stepped.bare_claim, Stepped.bare_claim]
  rfl

/-- **What a step notices, and where it leads, does not depend on the doc comments remembered.** -/
theorem step_bare (s : SurveyState) :
    (step stream defines s.bare).bare = (step stream defines s).bare := by
  have hat : stream.at? s.bare.cursor = stream.at? s.cursor := rfl
  unfold step
  rw [hat]
  rcases stream.at? s.cursor with _ | t
  · rfl
  · dsimp only
    split
    · exact stepContext_bare s _ t
    · exact stepContext_bare s _ t
    · exact stepFunction_bare s t
    · exact stepVariable_bare s t
    · exact stepConst_bare s t
    · exact stepIdentifier_bare s t
    · rfl
    · rfl
    · rfl
    · rfl

/-! ## What is still to be looked at -/

/-- What is looked at: all of a check but the line and the outcome. -/
structure Subject where
  declaration : Declaration
  anchor : Int
  name : String
  enclosing : Option String
  deriving DecidableEq, Repr

/-- What a check looks at. -/
def Check.subject (c : Check) : Subject := ⟨c.declaration, c.anchor, c.name, c.enclosing⟩

/-- What an event looks at, if it is a check. -/
def Event.subject? : Event → Option Subject
  | .check c => some c.subject
  | .replaced _ => none
  | .fileDocumented => none
  | .fileUndocumented _ => none

/-- **What a survey looks at from a state on,** in order. -/
def subjectsFrom (stream : TokenStream) (defines : Bool) (s : SurveyState) : List Subject :=
  (visitsFrom stream defines s).flatMap fun v => v.events.filterMap Event.subject?

/-- At the end of the file nothing is left to look at. -/
theorem subjectsFrom_end {s : SurveyState} (h : stream.size ≤ s.cursor) :
    subjectsFrom stream defines s = [] := by
  rw [subjectsFrom, visitsFrom, if_neg (by omega)]
  rfl

/-- Before the end, what a step looks at comes first. -/
theorem subjectsFrom_eq_append {s : SurveyState} (h : s.cursor < stream.size) :
    subjectsFrom stream defines s
      = (step stream defines s).2.filterMap Event.subject?
        ++ subjectsFrom stream defines (step stream defines s).1.release := by
  rw [subjectsFrom, visitsFrom, if_pos h]
  dsimp only
  rw [List.flatMap_cons, after_visit]
  rfl

/-- What is left to look at is the same in states that differ in remembered doc comments only. -/
theorem subjectsFrom_congr {s t : SurveyState} (h : s.bare = t.bare) :
    subjectsFrom stream defines s = subjectsFrom stream defines t := by
  -- along the visits from `s`: the other state is visited in step with it
  revert t
  refine visitsFrom.induct stream defines (fun s => ∀ {t : SurveyState}, s.bare = t.bare →
    subjectsFrom stream defines s = subjectsFrom stream defines t) ?_ ?_ s
  · intro s hlt v ih t h
    have hcursor : s.bare.cursor = t.bare.cursor := congrArg SurveyState.cursor h
    have hlt' : t.cursor < stream.size := hcursor ▸ hlt
    have hstep : (step stream defines s).bare = (step stream defines t).bare := by
      rw [← step_bare s, h, step_bare]
    obtain ⟨hstate, hevents⟩ := Prod.mk.inj hstep
    have hafter : v.after.bare = (step stream defines t).1.release.bare := by
      rw [after_visit, SurveyState.bare_release, SurveyState.bare_release, hstate]
    rw [subjectsFrom_eq_append hlt, subjectsFrom_eq_append hlt', hevents, ← after_visit s,
      ih hafter]
  · intro s hge t h
    have hcursor : s.bare.cursor = t.bare.cursor := congrArg SurveyState.cursor h
    have hge' : ¬ t.cursor < stream.size := hcursor ▸ hge
    rw [subjectsFrom_end (by omega), subjectsFrom_end (by omega)]

/-- **One step of what is left to look at:** what the step looks at, then what is left in the state
it leads to. -/
theorem subjectsFrom_step {s : SurveyState} {t : Token} (h : stream.at? s.cursor = some t) :
    subjectsFrom stream defines s
      = (step stream defines s).2.filterMap Event.subject?
        ++ subjectsFrom stream defines (step stream defines s).1 := by
  rw [subjectsFrom_eq_append (TokenStream.bounds_of_at? h).2,
    subjectsFrom_congr (SurveyState.bare_release _)]


/-! ## A whole survey -/

/-- The check an event is. -/
def Event.check? : Event → Option Check
  | .check c => some c
  | .replaced _ => none
  | .fileDocumented => none
  | .fileUndocumented _ => none

/-- An event that is a check is that check. -/
theorem Event.check?_eq_some_iff {e : Event} {c : Check} : e.check? = some c ↔ e = .check c := by
  cases e <;> simp [check?]

/-- Among some events are the checks that they are. -/
theorem mem_filterMap_check?_iff {events : List Event} {c : Check} :
    c ∈ events.filterMap Event.check? ↔ .check c ∈ events := by
  rw [List.mem_filterMap]
  constructor
  · rintro ⟨e, he, hcheck⟩
    rwa [Event.check?_eq_some_iff.1 hcheck] at he
  · exact fun h => ⟨.check c, h, rfl⟩

/-- What an event looks at is what its check looks at. -/
theorem Event.map_subject_check? (e : Event) : e.check?.map Check.subject = e.subject? := by
  cases e <;> rfl

/-- The checks of the visits from a state on. -/
def checksFrom (stream : TokenStream) (defines : Bool) (s : SurveyState) : List Check :=
  (visitsFrom stream defines s).flatMap fun v => v.events.filterMap Event.check?

/-- At the end of the file no check is left. -/
theorem checksFrom_end {s : SurveyState} (h : stream.size ≤ s.cursor) :
    checksFrom stream defines s = [] := by
  rw [checksFrom, visitsFrom, if_neg (by omega)]
  rfl

/-- Before the end, the checks of a step come first. -/
theorem checksFrom_visit {s : SurveyState} (h : s.cursor < stream.size) :
    checksFrom stream defines s
      = (step stream defines s).2.filterMap Event.check?
        ++ checksFrom stream defines (visit stream defines s).after := by
  rw [checksFrom, visitsFrom, if_pos h]
  rfl

/-- The checks of a survey are the events that are checks. -/
theorem Survey.checks_eq_filterMap (survey : Survey) :
    survey.checks = survey.events.filterMap Event.check? := by
  rw [checks]
  congr 1
  funext e
  cases e <;> rfl

/-- **The checks of a survey are those of its visits.** What is noticed before the first visit, at a
release and at the end is about the file. -/
theorem checks_eq_checksFrom (stream : TokenStream) (defines : Bool) :
    (Survey.of stream defines).checks = checksFrom stream defines (startState stream) := by
  have hopening : (startEvents stream).filterMap Event.check? = [] := by
    unfold startEvents
    dsimp only
    split <;> rfl
  have hclosing : ∀ survey : Survey, survey.closing.filterMap Event.check? = [] := by
    intro survey
    unfold Survey.closing
    split <;> rfl
  have hvisit : ∀ v : Visit, (Survey.eventsOfVisit v).filterMap Event.check?
      = v.events.filterMap Event.check? := by
    intro v
    have hrelease : v.stepped.releaseEvents.filterMap Event.check? = [] := by
      unfold SurveyState.releaseEvents
      split <;> rfl
    rw [Survey.eventsOfVisit, List.filterMap_append, hrelease, List.append_nil]
  rw [Survey.checks_eq_filterMap, Survey.events, List.filterMap_append, List.filterMap_append, hclosing,
    List.append_nil, List.filterMap_flatMap]
  simp only [hvisit]
  exact congrArg (· ++ _) hopening

/-- **What a survey looks at is what is left to look at in the state it begins in.** -/
theorem checks_map_subject (stream : TokenStream) (defines : Bool) :
    (Survey.of stream defines).checks.map Check.subject
      = subjectsFrom stream defines (startState stream) := by
  have hevents : ∀ events : List Event, (events.filterMap Event.check?).map Check.subject
      = events.filterMap Event.subject? := by
    intro events
    rw [List.map_filterMap]
    congr 1
    funext e
    exact e.map_subject_check?
  rw [checks_eq_checksFrom, checksFrom, List.map_flatMap, subjectsFrom]
  simp only [hevents]

end DocCoverage
