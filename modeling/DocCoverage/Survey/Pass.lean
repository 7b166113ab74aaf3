/-
A whole survey of one file. It begins behind the file's opening; a leading doc comment is held for
the file until a declaration claims it, and then the file has none. What happened is kept as the
list of visits, one for each step, so that statements about a survey can speak of every state it
went through.
-/
import DocCoverage.Survey.Step

set_option autoImplicit false

namespace DocCoverage

/-- One step of a survey with its circumstances. -/
structure Visit where
  /-- The state before the step. -/
  before : SurveyState
  /-- The state the step led to. -/
  stepped : SurveyState
  /-- What the step noticed. -/
  events : List Event
  deriving DecidableEq

/-- The leading doc comment is held for the file and a declaration has just claimed it. -/
def SurveyState.mustRelease (s : SurveyState) : Bool :=
  0 ≤ s.fileDocComment && s.lastDocComment == s.fileDocComment

/-- **A leading comment claimed by a declaration** is no longer the file's. -/
def SurveyState.release (s : SurveyState) : SurveyState :=
  if s.mustRelease then { s with fileDocComment := -1 } else s

/-- What is noticed when the leading comment is released. -/
def SurveyState.releaseEvents (s : SurveyState) : List Event :=
  if s.mustRelease then [.fileUndocumented 1] else []

/-- The cursor is moved on if it has not passed `before`. No step needs this; it makes the end of
the survey plain. -/
def SurveyState.pastCursor (s : SurveyState) (before : Int) : SurveyState :=
  if s.cursor ≤ before then s.moveTo (before + 1) else s

/-- The state after a visit. -/
def Visit.after (v : Visit) : SurveyState :=
  v.stepped.release.pastCursor v.before.cursor

/-- The visit of the token under the cursor. -/
def visit (stream : TokenStream) (defines : Bool) (state : SurveyState) : Visit :=
  let (stepped, events) := step stream defines state
  { before := state, stepped, events }

/-- A visit moves the cursor on. -/
theorem cursor_lt_after (v : Visit) : v.before.cursor < v.after.cursor := by
  unfold Visit.after SurveyState.pastCursor
  split
  · simp only [SurveyState.moveTo]
    omega
  · omega

/-- The visits from a state to the end of the file. -/
def visitsFrom (stream : TokenStream) (defines : Bool) (state : SurveyState) : List Visit :=
  if state.cursor < stream.size then
    let v := visit stream defines state
    v :: visitsFrom stream defines v.after
  else []
termination_by (stream.size - state.cursor).toNat
decreasing_by
  have := cursor_lt_after (visit stream defines state)
  simp only [visit] at this ⊢
  omega

/-- Where a survey begins: behind the leading doc comment if there is one. -/
def startState (stream : TokenStream) : SurveyState :=
  let leading := fileComment stream
  match leading.doc with
  | some doc => { cursor := doc + 1, fileDocComment := doc }
  | none => { cursor := leading.start }

/-- What is noticed before the first step. -/
def startEvents (stream : TokenStream) : List Event :=
  let leading := fileComment stream
  match leading.doc with
  | some _ => []
  | none => [.fileUndocumented leading.line]

/-- A survey of one file. -/
structure Survey where
  opening : List Event
  visits : List Visit
  final : SurveyState
  deriving DecidableEq

/-- **The survey of a file.** -/
def Survey.of (stream : TokenStream) (defines : Bool) : Survey :=
  let start := startState stream
  let visits := visitsFrom stream defines start
  { opening := startEvents stream, visits, final := (visits.getLast?.map Visit.after).getD start }

namespace Survey

/-- What is noticed in the course of a visit, the release of the leading comment included. -/
def eventsOfVisit (v : Visit) : List Event :=
  v.events ++ v.stepped.releaseEvents

/-- What is noticed at the end: a leading comment still held is the file's. -/
def closing (s : Survey) : List Event :=
  if 0 ≤ s.final.fileDocComment then [.fileDocumented] else []

/-- **Everything a survey notices, in order.** -/
def events (s : Survey) : List Event :=
  s.opening ++ s.visits.flatMap eventsOfVisit ++ s.closing

/-- The declarations a survey looked at, in order. -/
def checks (s : Survey) : List Check :=
  s.events.filterMap fun
    | .check c => some c
    | _ => none

end Survey

end DocCoverage
