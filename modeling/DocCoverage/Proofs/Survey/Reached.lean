/-
The states a survey goes through. Whatever the tokens are, and however their braces and keywords are
out of balance, every state is sound: its place lies in the file, only the innermost class may not
have opened its body, the count for functions is that of a function on the way to its body only
right before that body, and the two doc comments it remembers are doc comments of the file behind
its place. A survey ends exactly at the end of the file.

The step lemma goes through the ways to go on; the run lemma is one induction along the visits, which
any property of a state that visits keep can use.
-/
import DocCoverage.Proofs.Survey.Steps

set_option autoImplicit false

namespace DocCoverage

variable {stream : TokenStream} {defines : Bool} {s s' : SurveyState} {events : List Event}

/-! ## Sound states -/

/-- **Classes within each other,** innermost first: all but the innermost have opened their bodies,
and no brace is counted twice. -/
structure Nested (contexts : List Context) : Prop where
  innermost : ∀ c ∈ contexts.head?, 0 ≤ c.depth
  outer : ∀ c ∈ contexts.tail, 1 ≤ c.depth

/-- **A sound state** of a survey of the file. -/
structure SurveyState.Sound (stream : TokenStream) (s : SurveyState) : Prop where
  cursor_le : s.cursor ≤ stream.size
  nested : Nested s.contexts
  nesting_ge : -1 ≤ s.functionNesting
  /-- Between a function's header and its body the survey stands right before the body. -/
  before_body : s.functionNesting = 0 →
    stream.kind? s.cursor = some .openBrace ∨ s.cursor = stream.size
  last_doc : s.lastDocComment = -1
    ∨ stream.kind? s.lastDocComment = some .docComment ∧ s.lastDocComment < s.cursor
  file_doc : s.fileDocComment = -1 ∨ (fileComment stream).doc = some s.fileDocComment

/-- **A settled state:** no declaration has claimed a comment that is held for the file. -/
def SurveyState.Settled (s : SurveyState) : Prop :=
  0 ≤ s.fileDocComment → s.lastDocComment ≠ s.fileDocComment

/-! ## Classes -/

namespace SurveyState

/-- The class on top, and those below it. -/
theorem nested_cons {top : Context} {outer : List Context} :
    Nested (top :: outer) ↔ 0 ≤ top.depth ∧ ∀ c ∈ outer, 1 ≤ c.depth := by
  constructor
  · intro h
    exact ⟨h.innermost top rfl, h.outer⟩
  · rintro ⟨htop, houter⟩
    refine ⟨?_, houter⟩
    rintro c ⟨⟩
    exact htop

/-- Classes that have all opened their bodies. -/
theorem nested_of_opened {contexts : List Context} (h : ∀ c ∈ contexts, 1 ≤ c.depth) :
    Nested contexts := by
  rcases contexts with _ | ⟨top, outer⟩
  · exact ⟨fun _ hc => absurd hc (Option.not_mem_none _), fun _ hc => absurd hc List.not_mem_nil⟩
  · have htop := h top List.mem_cons_self
    exact nested_cons.2 ⟨by omega, fun c hc => h c (List.mem_cons_of_mem top hc)⟩

/-- A class begun goes on top, where one whose body never opened gives way. -/
theorem nested_enter (h : Nested s.contexts) {context : Context} (hdepth : context.depth = 0) :
    Nested (s.enter context).contexts := by
  unfold enter
  rcases hcontexts : s.contexts with _ | ⟨top, outer⟩
  · exact nested_cons.2 ⟨by omega, fun c hc => absurd hc List.not_mem_nil⟩
  · rw [hcontexts] at h
    obtain ⟨htop, houter⟩ := nested_cons.1 h
    dsimp only
    by_cases hunopened : top.depth = 0
    · rw [if_pos hunopened]
      exact nested_cons.2 ⟨by omega, houter⟩
    · rw [if_neg hunopened]
      refine nested_cons.2 ⟨by omega, fun c hc => ?_⟩
      rcases List.mem_cons.1 hc with rfl | hc
      · omega
      · exact houter c hc

theorem nested_openBrace (h : Nested s.contexts) : Nested s.openBrace.contexts := by
  unfold openBrace
  rcases hcontexts : s.contexts with _ | ⟨top, outer⟩
  · exact nested_of_opened fun c hc => absurd hc List.not_mem_nil
  · rw [hcontexts] at h
    obtain ⟨htop, houter⟩ := nested_cons.1 h
    exact nested_cons.2 ⟨by dsimp only; omega, houter⟩

/-- A class is left where its last brace is closed, so the one below, which has opened its body, is
the innermost then. -/
theorem nested_closeBrace (h : Nested s.contexts) : Nested s.closeBrace.contexts := by
  unfold closeBrace
  rcases hcontexts : s.contexts with _ | ⟨top, outer⟩
  · exact nested_of_opened fun c hc => absurd hc List.not_mem_nil
  · rw [hcontexts] at h
    obtain ⟨htop, houter⟩ := nested_cons.1 h
    dsimp only
    by_cases hlast : top.depth ≤ 1
    · rw [if_pos hlast]
      exact nested_of_opened houter
    · rw [if_neg hlast]
      exact nested_cons.2 ⟨by dsimp only; omega, houter⟩

/-! ## The count for functions -/

/-- Behind an opening brace no function is on the way to its body. -/
theorem functionNesting_openBrace (h : -1 ≤ s.functionNesting) :
    s.openBrace.functionNesting = -1 ∨ 0 < s.openBrace.functionNesting := by
  dsimp only [openBrace]
  split <;> omega

/-- Nor is one behind a closing brace. -/
theorem functionNesting_closeBrace (s : SurveyState) :
    s.closeBrace.functionNesting = -1 ∨ 0 < s.closeBrace.functionNesting := by
  dsimp only [closeBrace]
  split <;> omega

/-- At the end of a header a function is on the way to its body, unless there is no body. -/
theorem functionNesting_afterHeader (s : SurveyState) (ending : Option TokenKind) :
    (s.afterHeader ending).functionNesting = -1
      ∨ 0 < (s.afterHeader ending).functionNesting
      ∨ (s.afterHeader ending).functionNesting = 0 ∧ ending ≠ some .semicolon := by
  have hbegun := s.functionNesting_beginFunction
  dsimp only [afterHeader]
  by_cases hbodiless : ending = some .semicolon ∧ s.beginFunction.functionNesting = 0
  · rw [if_pos hbodiless]
    exact Or.inl rfl
  · rw [if_neg hbodiless]
    by_cases hzero : s.beginFunction.functionNesting = 0
    · exact Or.inr (Or.inr ⟨hzero, fun hending => hbodiless ⟨hending, hzero⟩⟩)
    · exact Or.inr (Or.inl (by omega))

/-! ## Steps -/

namespace Sound

/-- On no token but an opening brace a function is on the way to its body. -/
theorem nesting_ne_zero (h : s.Sound stream) (hlt : s.cursor < stream.size)
    (hopen : stream.kind? s.cursor ≠ some .openBrace) : s.functionNesting ≠ 0 := by
  intro hzero
  rcases h.before_body hzero with hkind | hend
  · exact hopen hkind
  · omega

/-- A place further on is sound, if no function is on the way to its body. -/
theorem moveTo (h : s.Sound stream) {next : Int} (hle : s.cursor ≤ next)
    (hsize : next ≤ stream.size) (hcount : s.functionNesting ≠ 0) :
    (s.moveTo next).Sound stream where
  cursor_le := hsize
  nested := h.nested
  nesting_ge := h.nesting_ge
  before_body hzero := absurd hzero hcount
  last_doc := by
    rcases h.last_doc with hnone | ⟨hkind, hbehind⟩
    · exact Or.inl hnone
    · exact Or.inr ⟨hkind, Int.lt_of_lt_of_le hbehind hle⟩
  file_doc := h.file_doc

/-- A doc comment behind the place may be remembered. -/
theorem remember (h : s.Sound stream) {i : Int} (hkind : stream.kind? i = some .docComment)
    (hbehind : i < s.cursor) : SurveyState.Sound stream { s with lastDocComment := i } :=
  { h with last_doc := Or.inr ⟨hkind, hbehind⟩ }

/-- A doc comment that a check found stands before the declaration, so it may be claimed. -/
theorem claim (h : s.Sound stream) {c : Check} {place : Int} (hcheck : c.LookedAt stream place)
    (hplace : place ≤ s.cursor) : (s.claim c.doc).Sound stream := by
  cases hdoc : c.doc with
  | none => exact h
  | some i =>
    obtain ⟨hbehind, hkind, -⟩ := hcheck.attached hdoc
    exact h.remember hkind (by omega)

theorem enter (h : s.Sound stream) {context : Context} (hdepth : context.depth = 0) :
    (s.enter context).Sound stream := by
  have hnested := nested_enter h.nested hdepth
  unfold SurveyState.enter at hnested ⊢
  split <;> rename_i hcontexts <;> rw [hcontexts] at hnested <;>
    exact { h with nested := hnested }

theorem openBrace (h : s.Sound stream) : s.openBrace.Sound stream := by
  have hcount := functionNesting_openBrace h.nesting_ge
  exact {
    cursor_le := h.cursor_le
    nested := nested_openBrace h.nested
    nesting_ge := by omega
    before_body := fun hzero => by omega
    last_doc := h.last_doc
    file_doc := h.file_doc }

theorem closeBrace (h : s.Sound stream) : s.closeBrace.Sound stream := by
  have hcount := s.functionNesting_closeBrace
  exact {
    cursor_le := h.cursor_le
    nested := nested_closeBrace h.nested
    nesting_ge := by omega
    before_body := fun hzero => by omega
    last_doc := h.last_doc
    file_doc := h.file_doc }

/-- **At the end of a header** a function is on the way to its body only if the body is there. -/
theorem afterHeader (h : s.Sound stream) {body : Int} (hle : s.cursor ≤ body)
    (hsize : body ≤ stream.size)
    (hend : body < stream.size →
      stream.kind? body = some .openBrace ∨ stream.kind? body = some .semicolon) :
    ((s.afterHeader (stream.kind? body)).moveTo body).Sound stream := by
  have hcount := s.functionNesting_afterHeader (stream.kind? body)
  refine {
    cursor_le := hsize
    nested := h.nested
    nesting_ge := ?_
    before_body := ?_
    last_doc := ?_
    file_doc := h.file_doc }
  · change -1 ≤ (s.afterHeader (stream.kind? body)).functionNesting
    omega
  · intro hzero
    change (s.afterHeader (stream.kind? body)).functionNesting = 0 at hzero
    rcases hcount with hnone | hpos | ⟨-, hbody⟩
    · omega
    · omega
    · rcases Int.lt_or_le body stream.size with hlt | hge
      · exact Or.inl ((hend hlt).resolve_right hbody)
      · exact Or.inr (Int.le_antisymm hsize hge)
  · rcases h.last_doc with hnone | ⟨hkind, hbehind⟩
    · exact Or.inl hnone
    · exact Or.inr ⟨hkind, Int.lt_of_lt_of_le hbehind hle⟩

/-- **Every step leads from a sound state to a sound one.** -/
theorem moves (h : s.Sound stream) (hlt : s.cursor < stream.size)
    (hmoves : Moves stream s s' events) : s'.Sound stream := by
  cases hmoves with
  | pass hdoc hopen =>
    exact h.moveTo (by omega) (by omega) (h.nesting_ne_zero hlt hopen)
  | docComment hkind =>
    have hcount := h.nesting_ne_zero hlt (by rw [hkind]; decide)
    have hnext : s.advance.Sound stream := h.moveTo (by omega) (by omega) hcount
    exact hnext.remember hkind (Int.lt_succ s.cursor)
  | openBrace hkind =>
    have hcount := functionNesting_openBrace h.nesting_ge
    exact h.openBrace.moveTo (Int.le_of_lt (Int.lt_succ s.cursor)) hlt (by omega)
  | closeBrace hkind =>
    have hcount := s.functionNesting_closeBrace
    exact h.closeBrace.moveTo (Int.le_of_lt (Int.lt_succ s.cursor)) hlt (by omega)
  | member c hcheck =>
    have hcount := h.nesting_ne_zero hlt (hcheck.kind_ne rfl)
    have hnext : s.advance.Sound stream := h.moveTo (by omega) (by omega) hcount
    exact hnext.claim hcheck (Int.le_of_lt (Int.lt_succ s.cursor))
  | context c context next replaced hcheck hdepth hnext hreplaced =>
    have hcount := h.nesting_ne_zero hlt (hcheck.kind_ne rfl)
    have hpassed := lt_skipBlankForward stream s.cursor
    have hbegun : ((s.enter context).moveTo next).Sound stream := by
      refine (h.enter hdepth).moveTo ?_ (by omega) ?_
      · rw [cursor_enter]
        omega
      · rw [functionNesting_enter]
        exact hcount
    exact hbegun.claim hcheck (by rw [cursor_moveTo]; omega)
  | function c body hcheck hbody =>
    have hle : s.cursor + 1 ≤ body := hbody ▸ le_bodyFrom stream 0 (s.cursor + 1)
    have hsize : body ≤ stream.size := hbody ▸ bodyFrom_le_size 0 (by omega)
    have hend : body < stream.size →
        stream.kind? body = some .openBrace ∨ stream.kind? body = some .semicolon := by
      rw [hbody]
      exact kind?_bodyFrom 0
    exact (h.afterHeader (by omega) hsize hend).claim hcheck (by rw [cursor_moveTo]; omega)

/-- The leading comment may be released. -/
theorem release (h : s.Sound stream) : s.release.Sound stream := by
  unfold SurveyState.release
  split
  · exact { h with file_doc := Or.inl rfl }
  · exact h

end Sound

/-- A release is due where the comment remembered last is the one held. -/
theorem mustRelease_iff :
    s.mustRelease = true ↔ 0 ≤ s.fileDocComment ∧ s.lastDocComment = s.fileDocComment := by
  rw [mustRelease, Bool.and_eq_true, decide_eq_true_eq, beq_iff_eq]

/-- **Releasing settles a state:** a comment claimed is held no more. -/
theorem settled_release (s : SurveyState) : s.release.Settled := by
  unfold release
  by_cases hmust : s.mustRelease = true
  · rw [if_pos hmust]
    exact fun hheld => absurd (show (0 : Int) ≤ -1 from hheld) (by decide)
  · rw [if_neg hmust]
    exact fun hheld hclaimed => hmust (mustRelease_iff.2 ⟨hheld, hclaimed⟩)

end SurveyState

/-! ## Where a survey begins -/

/-- One pass over the opening of a file: the token there is passed if it has the class. The second
part is the line of the token passed last. -/
def passOpening (stream : TokenStream) (here : Nat × Int) (kind : TokenKind) : Nat × Int :=
  match stream.at? here.1 with
  | some t => if t.kind = kind then (here.1 + 1, (t.line : Int)) else here
  | none => here

/-- **A file's opening is passed in two passes,** over leading text and over an open tag. -/
theorem fileComment_eq (stream : TokenStream) :
    fileComment stream =
      let behind := passOpening stream (passOpening stream (0, 1) .inlineHtml) .openTag
      { start := behind.1
        doc := if stream.kind? behind.1 = some .docComment then some (behind.1 : Int) else none
        line := behind.2 } := rfl

/-- One pass over the opening of a file leaves only leading text and an open tag behind. -/
theorem kind?_behind_pass {kind : TokenKind} {here : Nat × Int}
    (hkind : kind = .inlineHtml ∨ kind = .openTag)
    (h : ∀ i : Int, 0 ≤ i → i < here.1 →
      stream.kind? i = some .inlineHtml ∨ stream.kind? i = some .openTag) :
    ∀ i : Int, 0 ≤ i → i < (passOpening stream here kind).1 →
      stream.kind? i = some .inlineHtml ∨ stream.kind? i = some .openTag := by
  intro i hnonneg hbehind
  unfold passOpening at hbehind
  rcases hat : stream.at? here.1 with _ | u
  · rw [hat] at hbehind
    exact h i hnonneg hbehind
  · rw [hat] at hbehind
    dsimp only at hbehind
    by_cases hpass : u.kind = kind
    · rw [if_pos hpass] at hbehind
      rcases Int.lt_or_le i here.1 with hlt | hge
      · exact h i hnonneg hlt
      · have hi : i = here.1 := by dsimp only at hbehind; omega
        have hhere : stream.kind? here.1 = some kind := by
          rw [TokenStream.kind?, hat, ← hpass]
          rfl
        rw [hi, hhere]
        exact hkind.imp (congrArg some) (congrArg some)
    · rw [if_neg hpass] at hbehind
      exact h i hnonneg hbehind

/-- **The opening of a file** is leading text and an open tag. -/
theorem kind?_opening (stream : TokenStream) : ∀ i : Int, 0 ≤ i → i < (fileComment stream).start →
    stream.kind? i = some .inlineHtml ∨ stream.kind? i = some .openTag := by
  rw [fileComment_eq]
  exact kind?_behind_pass (Or.inr rfl) (kind?_behind_pass (Or.inl rfl)
    (fun i hnonneg hbehind => absurd hnonneg (by dsimp only at hbehind; omega)))

/-- The opening of a file lies in the file. -/
theorem start_fileComment_le (stream : TokenStream) : (fileComment stream).start ≤ stream.size := by
  rcases Nat.eq_zero_or_pos (fileComment stream).start with hzero | hpos
  · omega
  · have hlast := kind?_opening stream ((fileComment stream).start - 1) (by omega) (by omega)
    have hbounds : ((fileComment stream).start : Int) - 1 < stream.size := by
      rcases hlast with hkind | hkind
      · exact (TokenStream.bounds_of_kind? hkind).2
      · exact (TokenStream.bounds_of_kind? hkind).2
    omega

/-- **A leading comment** is the first token behind the opening. -/
theorem fileComment_doc_eq_some {d : Int} (h : (fileComment stream).doc = some d) :
    d = (fileComment stream).start ∧ stream.kind? d = some .docComment := by
  have hdoc : (fileComment stream).doc
      = if stream.kind? (fileComment stream).start = some .docComment then
          some ((fileComment stream).start : Int) else none := rfl
  rw [hdoc] at h
  split at h
  next hkind =>
    obtain rfl := Option.some.inj h
    exact ⟨rfl, hkind⟩
  next => cases h

/-- Behind a leading comment the survey begins with the comment held for the file. -/
theorem startState_of_some {d : Int} (h : (fileComment stream).doc = some d) :
    startState stream = { cursor := d + 1, fileDocComment := d } := by
  unfold startState
  dsimp only
  rw [h]

/-- Without a leading comment it begins behind the opening. -/
theorem startState_of_none (h : (fileComment stream).doc = none) :
    startState stream = { cursor := (fileComment stream).start } := by
  unfold startState
  dsimp only
  rw [h]

/-- **A survey begins in a sound state.** -/
theorem sound_startState (stream : TokenStream) : (startState stream).Sound stream := by
  have hnested : Nested [] :=
    SurveyState.nested_of_opened fun c hc => absurd hc List.not_mem_nil
  have hstart := start_fileComment_le stream
  cases hdoc : (fileComment stream).doc with
  | none =>
    rw [startState_of_none hdoc]
    exact ⟨by dsimp only; omega, hnested, Int.le_refl _, nofun, Or.inl rfl, Or.inl rfl⟩
  | some d =>
    obtain ⟨-, hkind⟩ := fileComment_doc_eq_some hdoc
    have hbounds := TokenStream.bounds_of_kind? hkind
    rw [startState_of_some hdoc]
    exact ⟨by dsimp only; omega, hnested, Int.le_refl _, nofun, Or.inl rfl, Or.inr hdoc⟩

/-- A survey begins in a settled state. -/
theorem settled_startState (stream : TokenStream) : (startState stream).Settled := by
  cases hdoc : (fileComment stream).doc with
  | none =>
    rw [startState_of_none hdoc]
    exact fun hheld => absurd (show (0 : Int) ≤ -1 from hheld) (by decide)
  | some d =>
    obtain ⟨-, hkind⟩ := fileComment_doc_eq_some hdoc
    have hbounds := TokenStream.bounds_of_kind? hkind
    rw [startState_of_some hdoc]
    intro _
    dsimp only
    omega

/-! ## The run -/

/-- The state at the end of the visits from a state. -/
def endFrom (stream : TokenStream) (defines : Bool) (s : SurveyState) : SurveyState :=
  ((visitsFrom stream defines s).getLast?.map Visit.after).getD s

/-- At the end of the file the survey ends. -/
theorem endFrom_end (h : stream.size ≤ s.cursor) : endFrom stream defines s = s := by
  rw [endFrom, visitsFrom, if_neg (by omega)]
  rfl

/-- Before the end it ends where it ends from the next state on. -/
theorem endFrom_visit (h : s.cursor < stream.size) :
    endFrom stream defines s = endFrom stream defines (visit stream defines s).after := by
  rw [endFrom, visitsFrom, if_pos h]
  dsimp only
  rw [List.getLast?_cons, endFrom]
  cases List.getLast? _ <;> rfl

section Run

variable {P : SurveyState → Prop}

/-- **What every visit keeps holds before every visit** that a survey makes from a state it holds of;
and each visit is that of a token of the file. -/
theorem forall_visitsFrom
    (hkeep : ∀ s : SurveyState, s.cursor < stream.size → P s → P (visit stream defines s).after)
    (s : SurveyState) (hs : P s) :
    ∀ v ∈ visitsFrom stream defines s,
      v = visit stream defines v.before ∧ v.before.cursor < stream.size ∧ P v.before := by
  revert hs
  refine visitsFrom.induct stream defines (fun s => P s → ∀ v ∈ visitsFrom stream defines s,
    v = visit stream defines v.before ∧ v.before.cursor < stream.size ∧ P v.before) ?_ ?_ s
  · intro s hlt _ ih hs v hv
    rw [visitsFrom, if_pos hlt] at hv
    rcases List.mem_cons.1 hv with rfl | hv
    · exact ⟨rfl, hlt, hs⟩
    · exact ih (hkeep s hlt hs) v hv
  · intro s hge _ v hv
    rw [visitsFrom, if_neg hge] at hv
    exact absurd hv List.not_mem_nil

/-- **What every visit keeps holds at the end,** which is not before the end of the file. -/
theorem of_endFrom
    (hkeep : ∀ s : SurveyState, s.cursor < stream.size → P s → P (visit stream defines s).after)
    (s : SurveyState) (hs : P s) :
    P (endFrom stream defines s) ∧ stream.size ≤ (endFrom stream defines s).cursor := by
  revert hs
  refine visitsFrom.induct stream defines (fun s => P s →
    P (endFrom stream defines s) ∧ stream.size ≤ (endFrom stream defines s).cursor) ?_ ?_ s
  · intro s hlt _ ih hs
    rw [endFrom_visit hlt]
    exact ih (hkeep s hlt hs)
  · intro s hge hs
    have hend : stream.size ≤ s.cursor := by omega
    rw [endFrom_end hend]
    exact ⟨hs, hend⟩

end Run

/-- **A visit leads from a sound state to a sound and settled one.** -/
theorem sound_visit (defines : Bool) (hlt : s.cursor < stream.size) (h : s.Sound stream) :
    (visit stream defines s).stepped.Sound stream
      ∧ (visit stream defines s).after.Sound stream ∧ (visit stream defines s).after.Settled := by
  have hstepped : (step stream defines s).1.Sound stream :=
    h.moves hlt (moves_step stream defines s)
  rw [after_visit]
  exact ⟨hstepped, hstepped.release, (step stream defines s).1.settled_release⟩

/-- **The states of a survey.** Before and after every visit, and at the end, the state is sound and
settled; the state a step leads to is sound, too. Every step moves the cursor on, also from states
that no survey reaches, so what follows a visit is the step's own state, the leading comment released
if it was claimed, and no move is forced. The survey ends exactly at the end of the file. -/
theorem survey_states_sound (stream : TokenStream) (defines : Bool) :
    (∀ v ∈ (Survey.of stream defines).visits,
        v.before.Sound stream ∧ v.before.Settled ∧ v.stepped.Sound stream
          ∧ v.after.Sound stream ∧ v.after.Settled
          ∧ v.before.cursor < v.stepped.cursor ∧ v.after = v.stepped.release)
      ∧ (Survey.of stream defines).final.Sound stream
      ∧ (Survey.of stream defines).final.Settled
      ∧ (Survey.of stream defines).final.cursor = stream.size
      ∧ ∀ s : SurveyState, s.cursor < (step stream defines s).1.cursor := by
  have hkeep : ∀ s : SurveyState, s.cursor < stream.size → s.Sound stream ∧ s.Settled →
      (visit stream defines s).after.Sound stream ∧ (visit stream defines s).after.Settled :=
    fun s hlt h => (sound_visit defines hlt h.1).2
  have hstart := And.intro (sound_startState stream) (settled_startState stream)
  obtain ⟨⟨hsound, hsettled⟩, hend⟩ := of_endFrom hkeep (startState stream) hstart
  refine ⟨fun v hv => ?_, hsound, hsettled, Int.le_antisymm hsound.cursor_le hend,
    fun s => cursor_lt_step s⟩
  obtain ⟨hvisit, hlt, hbefore, hunclaimed⟩ :=
    forall_visitsFrom hkeep (startState stream) hstart v hv
  obtain ⟨hstepped, hafter, hreleased⟩ := sound_visit defines hlt hbefore
  rw [hvisit]
  exact ⟨hbefore, hunclaimed, hstepped, hafter, hreleased, cursor_lt_step v.before,
    after_visit v.before⟩

end DocCoverage
