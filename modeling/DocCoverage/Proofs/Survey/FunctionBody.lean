/-
The body of a function. One counter serves all functions, however they are nested: a function that
begins outside of all bodies sets it to zero, the brace of its body takes it to one, and from there on
it counts the braces that the survey comes to. Functions inside the body neither restart it nor turn it
off, whether they have bodies or not, and the braces in a header that is passed over are seen by
neither side. So in the body the counter is the balance of the braces visited since the body began,
and the body ends where they cancel out.

The balance is said of the visits of a whole survey, between two places. That the counter follows it
is an invariant of the states on the way: what a step adds to the one is what its visit adds to the
other.
-/
import DocCoverage.Proofs.Survey.Credit

set_option autoImplicit false

namespace DocCoverage

variable {stream : TokenStream} {defines : Bool} {s : SurveyState}

/-! ## Braces that are visited -/

/-- How many tokens of a class are visited from the place `first` on and before `last`. -/
def visitedOf (stream : TokenStream) (kind : TokenKind) (visits : List Visit) (first last : Int) :
    Nat :=
  visits.countP fun v => first ≤ v.before.cursor && v.before.cursor < last
    && stream.kind? v.before.cursor == some kind

/-- **The balance of braces:** the opening ones visited from one place on and before another, less
the closing ones. -/
def balance (stream : TokenStream) (visits : List Visit) (first last : Int) : Int :=
  visitedOf stream .openBrace visits first last - visitedOf stream .closeBrace visits first last

/-- What a token adds to the balance. -/
def braceValue (kind : Option TokenKind) : Int :=
  (if kind = some .openBrace then 1 else 0) - if kind = some .closeBrace then 1 else 0

/-- Nothing is visited between a place and itself. -/
theorem balance_self (visits : List Visit) (place : Int) :
    balance stream visits place place = 0 := by
  have hnone : ∀ kind, visitedOf stream kind visits place place = 0 := by
    intro kind
    unfold visitedOf
    rw [List.countP_eq_zero]
    intro v _ hv
    simp only [Bool.and_eq_true, decide_eq_true_eq] at hv
    omega
  unfold balance
  rw [hnone, hnone]
  rfl

section Split

variable {earlier later : List Visit} {v : Visit} {first next : Int}

/-- **Behind a visit** one more token of its class has been visited. -/
theorem visitedOf_behind (stream : TokenStream) (kind : TokenKind)
    (hfirst : first ≤ v.before.cursor) (hnext : v.before.cursor < next)
    (hearlier : ∀ w ∈ earlier, w.before.cursor < v.before.cursor)
    (hlater : ∀ w ∈ later, next ≤ w.before.cursor) :
    visitedOf stream kind (earlier ++ v :: later) first next
      = visitedOf stream kind (earlier ++ v :: later) first v.before.cursor
        + if stream.kind? v.before.cursor = some kind then 1 else 0 := by
  unfold visitedOf
  have hbefore : earlier.countP (fun w => first ≤ w.before.cursor && w.before.cursor < next
        && stream.kind? w.before.cursor == some kind)
      = earlier.countP (fun w => first ≤ w.before.cursor && w.before.cursor < v.before.cursor
        && stream.kind? w.before.cursor == some kind) := by
    refine List.countP_congr fun w hw => ?_
    have hlt := hearlier w hw
    have hlt' : w.before.cursor < next := Int.lt_trans hlt hnext
    simp only [hlt, hlt', decide_true]
  have hbehind : ∀ last, last ≤ next → later.countP (fun w => first ≤ w.before.cursor
      && w.before.cursor < last && stream.kind? w.before.cursor == some kind) = 0 := by
    intro last hlast
    rw [List.countP_eq_zero]
    intro w hw hvisited
    have hge := hlater w hw
    simp only [Bool.and_eq_true, decide_eq_true_eq] at hvisited
    omega
  rw [List.countP_append, List.countP_append, List.countP_cons, List.countP_cons, hbefore,
    hbehind next (Int.le_refl _), hbehind v.before.cursor (Int.le_of_lt hnext)]
  simp [hfirst, hnext]

/-- **Behind a visit** the balance has changed by what its token adds. -/
theorem balance_behind (hfirst : first ≤ v.before.cursor) (hnext : v.before.cursor < next)
    (hearlier : ∀ w ∈ earlier, w.before.cursor < v.before.cursor)
    (hlater : ∀ w ∈ later, next ≤ w.before.cursor) :
    balance stream (earlier ++ v :: later) first next
      = balance stream (earlier ++ v :: later) first v.before.cursor
        + braceValue (stream.kind? v.before.cursor) := by
  have hopen := visitedOf_behind stream .openBrace hfirst hnext hearlier hlater
  have hclose := visitedOf_behind stream .closeBrace hfirst hnext hearlier hlater
  unfold balance braceValue
  rw [hopen, hclose]
  split <;> split <;> omega

end Split

/-! ## States on the way -/

/-- A visit begins where the survey is, or behind. -/
theorem le_cursor_of_mem_visitsFrom {w : Visit} (h : w ∈ visitsFrom stream defines s) :
    s.cursor ≤ w.before.cursor := by
  have hkeep : ∀ t : SurveyState, t.cursor < stream.size → s.cursor ≤ t.cursor →
      s.cursor ≤ (visit stream defines t).after.cursor := by
    intro t _ hle
    have hlt : t.cursor < (visit stream defines t).after.cursor :=
      cursor_lt_after (visit stream defines t)
    omega
  exact (forall_visitsFrom hkeep s (Int.le_refl _) w h).2.2

/-- **A state on the way** of a survey: the visits that are left are the last ones of the survey, all
others lie behind, and it ends where the survey ends. -/
structure OnTheWay (stream : TokenStream) (defines : Bool) (s : SurveyState) : Prop where
  sound : s.Sound stream
  split : ∃ earlier, (Survey.of stream defines).visits = earlier ++ visitsFrom stream defines s
    ∧ ∀ w ∈ earlier, w.before.cursor < s.cursor
  ending : endFrom stream defines s = (Survey.of stream defines).final

namespace OnTheWay

/-- A survey begins on the way. -/
theorem start (stream : TokenStream) (defines : Bool) :
    OnTheWay stream defines (startState stream) where
  sound := sound_startState stream
  split := ⟨[], rfl, fun _ hw => absurd hw List.not_mem_nil⟩
  ending := rfl

/-- A visit keeps to the way. -/
theorem after_visit (h : OnTheWay stream defines s) (hlt : s.cursor < stream.size) :
    OnTheWay stream defines (visit stream defines s).after where
  sound := (sound_visit defines hlt h.sound).2.1
  split := by
    obtain ⟨earlier, hvisits, hbehind⟩ := h.split
    refine ⟨earlier ++ [visit stream defines s], ?_, fun w hw => ?_⟩
    · rw [hvisits, visitsFrom, if_pos hlt, List.append_assoc]
      rfl
    · have hpassed : s.cursor < (visit stream defines s).after.cursor :=
        cursor_lt_after (visit stream defines s)
      rcases List.mem_append.1 hw with hw | hw
      · exact Int.lt_trans (hbehind w hw) hpassed
      · rw [List.mem_singleton.1 hw]
        exact hpassed
  ending := by rw [← endFrom_visit hlt, h.ending]

/-- Every visit of a survey begins on the way, in the file. -/
theorem of_mem {w : Visit} (h : w ∈ (Survey.of stream defines).visits) :
    w = visit stream defines w.before ∧ w.before.cursor < stream.size
      ∧ OnTheWay stream defines w.before :=
  forall_visitsFrom (fun _ hlt hs => hs.after_visit hlt) (startState stream)
    (start stream defines) w h

/-- A visit of the survey from the cursor on is among those that are left. -/
theorem mem_visitsFrom (h : OnTheWay stream defines s) {w : Visit}
    (hw : w ∈ (Survey.of stream defines).visits) (hge : s.cursor ≤ w.before.cursor) :
    w ∈ visitsFrom stream defines s := by
  obtain ⟨earlier, hvisits, hbehind⟩ := h.split
  rw [hvisits] at hw
  rcases List.mem_append.1 hw with hw | hw
  · have hlt := hbehind w hw
    omega
  · exact hw

/-- The next visit is one of the survey. -/
theorem visit_mem (h : OnTheWay stream defines s) (hlt : s.cursor < stream.size) :
    visit stream defines s ∈ (Survey.of stream defines).visits := by
  obtain ⟨earlier, hvisits, -⟩ := h.split
  rw [hvisits, visitsFrom, if_pos hlt]
  exact List.mem_append_right earlier List.mem_cons_self

/-- **No visit lies between one visit and the next.** -/
theorem lt_after_iff (h : OnTheWay stream defines s) (hlt : s.cursor < stream.size) {w : Visit}
    (hw : w ∈ (Survey.of stream defines).visits) :
    w.before.cursor < (visit stream defines s).after.cursor ↔ w.before.cursor ≤ s.cursor := by
  have hpassed : s.cursor < (visit stream defines s).after.cursor :=
    cursor_lt_after (visit stream defines s)
  constructor
  · intro hbefore
    by_contra hbehind
    have hleft : w ∈ visitsFrom stream defines s := h.mem_visitsFrom hw (by omega)
    rw [visitsFrom, if_pos hlt] at hleft
    rcases List.mem_cons.1 hleft with rfl | hlater
    · exact hbehind (Int.le_refl _)
    · have hnext := le_cursor_of_mem_visitsFrom hlater
      omega
  · intro hle
    omega

/-- **The balance follows the way:** behind the token that is visited it has changed by what that
token adds, and it is the same up to the next visit. -/
theorem balance_visit (h : OnTheWay stream defines s) (hlt : s.cursor < stream.size)
    {first next : Int} (hfirst : first ≤ s.cursor) (hpassed : s.cursor < next)
    (hnext : next ≤ (visit stream defines s).after.cursor) :
    balance stream (Survey.of stream defines).visits first next
      = balance stream (Survey.of stream defines).visits first s.cursor
        + braceValue (stream.kind? s.cursor) := by
  obtain ⟨earlier, hvisits, hbehind⟩ := h.split
  rw [visitsFrom, if_pos hlt] at hvisits
  rw [hvisits]
  refine balance_behind (v := visit stream defines s) hfirst hpassed hbehind fun w hw => ?_
  exact Int.le_trans hnext (le_cursor_of_mem_visitsFrom hw)

end OnTheWay

/-- **A check of a survey is made in one of its visits,** under the cursor. -/
theorem exists_visit_of_check {d : Check} (h : d ∈ (Survey.of stream defines).checks) :
    ∃ w ∈ (Survey.of stream defines).visits, .check d ∈ w.events ∧ d.anchor = w.before.cursor := by
  rw [checks_eq_checksFrom] at h
  obtain ⟨w, hw, hevents⟩ := List.mem_flatMap.1 h
  have hmade : .check d ∈ w.events := mem_filterMap_check?_iff.1 hevents
  have hstep : .check d ∈ (step stream defines w.before).2 := by
    rw [(OnTheWay.of_mem hw).1] at hmade
    exact hmade
  exact ⟨w, hw, hmade, (lookedAt_of_mem hstep).anchor_eq⟩

/-! ## Where a body ends -/

/-- The closing brace in a place cancels out all braces visited from the one at `body` on. -/
def closesBody (stream : TokenStream) (visits : List Visit) (body place : Int) : Bool :=
  body < place && stream.kind? place == some .closeBrace
    && balance stream visits body (place + 1) == 0

/-- **Where a function's body ends** that begins at `body`: at the first closing brace visited behind
it that cancels out the braces from there on, or with the file. -/
def bodyEnd (stream : TokenStream) (visits : List Visit) (body : Int) : Int :=
  ((visits.map fun v => v.before.cursor).find? (closesBody stream visits body)).getD stream.size

/-- The places that a survey visits go forward. -/
theorem pairwise_visitsFrom (stream : TokenStream) (defines : Bool) (s : SurveyState) :
    ((visitsFrom stream defines s).map fun v => v.before.cursor).Pairwise (· < ·) := by
  induction s using visitsFrom.induct stream defines with
  | case1 s hlt v ih =>
    rw [visitsFrom, if_pos hlt, List.map_cons]
    refine List.pairwise_cons.2 ⟨fun i hi => ?_, ih⟩
    obtain ⟨w, hw, rfl⟩ := List.mem_map.1 hi
    exact Int.lt_of_lt_of_le (cursor_lt_after v) (le_cursor_of_mem_visitsFrom hw)
  | case2 s hge =>
    rw [visitsFrom, if_neg hge]
    exact List.Pairwise.nil

/-- What is found first in a list that goes forward is not behind anything else that could be
found. -/
theorem le_of_find? {places : List Int} {p : Int → Bool} {found i : Int}
    (hordered : places.Pairwise (· < ·)) (hfound : places.find? p = some found) (hi : i ∈ places)
    (hp : p i = true) : found ≤ i := by
  obtain ⟨-, before, behind, rfl, hbefore⟩ := List.find?_eq_some_iff_append.1 hfound
  rcases List.mem_append.1 hi with hi | hi
  · have hno := hbefore i hi
    rw [hp] at hno
    cases hno
  · rcases List.mem_cons.1 hi with rfl | hi
    · exact Int.le_refl _
    · have hafter := (List.pairwise_append.1 hordered).2.1
      exact Int.le_of_lt ((List.pairwise_cons.1 hafter).1 i hi)

section BodyEnd

variable {w : Visit} {body : Int}

/-- **No body is closed before its end.** -/
theorem closesBody_of_lt_bodyEnd (hw : w ∈ (Survey.of stream defines).visits)
    (hend : w.before.cursor < bodyEnd stream (Survey.of stream defines).visits body) :
    closesBody stream (Survey.of stream defines).visits body w.before.cursor = false := by
  refine Bool.eq_false_iff.2 fun hcloses => ?_
  have hordered := pairwise_visitsFrom stream defines (startState stream)
  have hplace : w.before.cursor ∈ (Survey.of stream defines).visits.map fun v => v.before.cursor :=
    List.mem_map.2 ⟨w, hw, rfl⟩
  unfold bodyEnd at hend
  cases hfound : ((Survey.of stream defines).visits.map fun v => v.before.cursor).find?
      (closesBody stream (Survey.of stream defines).visits body) with
  | none => exact List.find?_eq_none.1 hfound _ hplace hcloses
  | some found =>
    have hle : found ≤ w.before.cursor := le_of_find? hordered hfound hplace hcloses
    rw [hfound, Option.getD_some] at hend
    omega

/-- **A body that ends before the file** is closed there. -/
theorem closesBody_of_eq_bodyEnd (hw : w ∈ (Survey.of stream defines).visits)
    (hend : w.before.cursor = bodyEnd stream (Survey.of stream defines).visits body) :
    closesBody stream (Survey.of stream defines).visits body w.before.cursor = true := by
  have hin := (OnTheWay.of_mem hw).2.1
  unfold bodyEnd at hend
  cases hfound : ((Survey.of stream defines).visits.map fun v => v.before.cursor).find?
      (closesBody stream (Survey.of stream defines).visits body) with
  | none =>
    rw [hfound, Option.getD_none] at hend
    omega
  | some found =>
    rw [hfound, Option.getD_some] at hend
    rw [hend]
    exact List.find?_some hfound

end BodyEnd

/-! ## What a step does to the counter -/

namespace SurveyState

/-- In the body of another function, a header changes nothing, however it ends. -/
theorem functionNesting_afterHeader_of_pos (hpos : 0 < s.functionNesting)
    (ending : Option TokenKind) :
    (s.afterHeader ending).functionNesting = s.functionNesting := by
  dsimp only [afterHeader]
  rw [beginFunction_of_pos hpos, if_neg (fun hbodiless => by omega)]

end SurveyState

/-- A brace is counted, whatever the state. -/
theorem step_openBrace (hkind : stream.kind? s.cursor = some .openBrace) :
    step stream defines s = (s.openBrace.advance, []) := by
  obtain ⟨t, hat, ht⟩ := Option.map_eq_some_iff.1 hkind
  unfold step
  rw [hat]
  dsimp only
  rw [ht]

theorem step_closeBrace (hkind : stream.kind? s.cursor = some .closeBrace) :
    step stream defines s = (s.closeBrace.advance, []) := by
  obtain ⟨t, hat, ht⟩ := Option.map_eq_some_iff.1 hkind
  unfold step
  rw [hat]
  dsimp only
  rw [ht]

/-- In a function's body, classes, functions with or without a body and all other tokens but braces
leave the counter. -/
theorem Moves.functionNesting_eq {s' : SurveyState} {events : List Event}
    (h : Moves stream s s' events) (hpos : 0 < s.functionNesting)
    (hopen : stream.kind? s.cursor ≠ some .openBrace)
    (hclose : stream.kind? s.cursor ≠ some .closeBrace) :
    s'.functionNesting = s.functionNesting := by
  cases h with
  | pass => rfl
  | docComment => rfl
  | openBrace hkind => exact absurd hkind hopen
  | closeBrace hkind => exact absurd hkind hclose
  | member c => exact SurveyState.functionNesting_claim _ _
  | context c context next =>
    rw [SurveyState.functionNesting_claim, SurveyState.functionNesting_moveTo,
      SurveyState.functionNesting_enter]
  | function c body =>
    rw [SurveyState.functionNesting_claim, SurveyState.functionNesting_moveTo]
    exact SurveyState.functionNesting_afterHeader_of_pos hpos _

/-- **In a function's body every step counts braces;** a closing one that takes the counter to zero
leaves all functions. -/
theorem functionNesting_step (hpos : 0 < s.functionNesting) :
    (step stream defines s).1.functionNesting
      = if s.functionNesting + braceValue (stream.kind? s.cursor) = 0 then -1
        else s.functionNesting + braceValue (stream.kind? s.cursor) := by
  by_cases hopen : stream.kind? s.cursor = some .openBrace
  · have hvalue : braceValue (some .openBrace) = 1 := rfl
    rw [step_openBrace hopen, hopen, hvalue, if_neg (by omega)]
    dsimp only [SurveyState.functionNesting_advance, SurveyState.openBrace]
    rw [if_pos (Int.le_of_lt hpos)]
  by_cases hclose : stream.kind? s.cursor = some .closeBrace
  · have hvalue : braceValue (some .closeBrace) = -1 := rfl
    rw [step_closeBrace hclose, hclose, hvalue]
    dsimp only [SurveyState.functionNesting_advance, SurveyState.closeBrace]
    split <;> split <;> omega
  · have hvalue : braceValue (stream.kind? s.cursor) = 0 := by
      unfold braceValue
      rw [if_neg hopen, if_neg hclose]
      rfl
    rw [(moves_step stream defines s).functionNesting_eq hpos hopen hclose, hvalue, Int.add_zero,
      if_neg (by omega)]

/-- **In a function's body no property and no constant is looked at.** -/
theorem declaration_of_step_of_pos (hpos : 0 < s.functionNesting) {c : Check}
    (h : .check c ∈ (step stream defines s).2) :
    c.declaration ≠ .classVariable ∧ c.declaration ≠ .constant := by
  obtain ⟨t, -, hchecked⟩ := checked_of_step h
  cases hchecked with
  | context declaration hdeclaration hstep =>
    rw [hstep] at h
    rw [declaration_of_stepContext h]
    rcases hdeclaration with rfl | rfl <;> decide
  | function hdeclaration =>
    rw [hdeclaration]
    decide
  -- a variable in a body is a local one
  | property hinside houtside => omega
  | classConstant name hname hinside hcheck =>
    rw [hcheck, Check.declaration_run]
    decide
  -- and a call of `define` in a body is not looked at
  | constant name hdefines hclasses houtside =>
    have hbody : s.inFunctionBody = true := decide_eq_true hpos
    rw [hbody] at houtside
    cases houtside

/-! ## In a body -/

/-- **In the body of a function** that begins at `body`, a survey has the counter at the balance of
the braces visited since, which is not zero as long as the body has not ended. -/
structure InBody (stream : TokenStream) (defines : Bool) (body : Int) (s : SurveyState) : Prop where
  onTheWay : OnTheWay stream defines s
  behind : body < s.cursor
  counted : s.cursor ≤ bodyEnd stream (Survey.of stream defines).visits body →
    s.functionNesting = balance stream (Survey.of stream defines).visits body s.cursor
      ∧ 1 ≤ s.functionNesting

namespace InBody

variable {body : Int}

/-- The counter behind a visit is the balance there, if that is not zero. -/
theorem functionNesting_after (h : InBody stream defines body s) (hlt : s.cursor < stream.size)
    (hle : s.cursor ≤ bodyEnd stream (Survey.of stream defines).visits body) {next : Int}
    (hpassed : s.cursor < next) (hnext : next ≤ (visit stream defines s).after.cursor) :
    (visit stream defines s).after.functionNesting
      = if balance stream (Survey.of stream defines).visits body next = 0 then -1
        else balance stream (Survey.of stream defines).visits body next := by
  obtain ⟨hcounted, hpos⟩ := h.counted hle
  have hbalance := h.onTheWay.balance_visit hlt (Int.le_of_lt h.behind) hpassed hnext
  rw [DocCoverage.after_visit, SurveyState.functionNesting_release, functionNesting_step hpos,
    hbalance, hcounted]

/-- **A visit keeps a survey in the body,** up to where that ends. -/
theorem after_visit (h : InBody stream defines body s) (hlt : s.cursor < stream.size) :
    InBody stream defines body (visit stream defines s).after where
  onTheWay := h.onTheWay.after_visit hlt
  behind := Int.lt_trans h.behind (cursor_lt_after (visit stream defines s))
  counted := by
    intro hle
    have hpassed : s.cursor < (visit stream defines s).after.cursor :=
      cursor_lt_after (visit stream defines s)
    obtain ⟨hcounted, hpos⟩ := h.counted (by omega)
    -- a closing brace takes nothing to zero here, since the body has not ended
    have hopen : closesBody stream (Survey.of stream defines).visits body s.cursor = false :=
      closesBody_of_lt_bodyEnd (h.onTheWay.visit_mem hlt) (Int.lt_of_lt_of_le hpassed hle)
    have hnext := h.onTheWay.balance_visit hlt (Int.le_of_lt h.behind) (Int.lt_succ s.cursor) hpassed
    have hbalance :=
      h.onTheWay.balance_visit hlt (Int.le_of_lt h.behind) hpassed (Int.le_refl _)
    have hsome : 1 ≤ balance stream (Survey.of stream defines).visits body
        (visit stream defines s).after.cursor := by
      by_cases hclose : stream.kind? s.cursor = some .closeBrace
      · have hne : balance stream (Survey.of stream defines).visits body (s.cursor + 1) ≠ 0 := by
          intro hzero
          rw [closesBody, hclose, hzero, decide_eq_true h.behind] at hopen
          cases hopen
        have hvalue : braceValue (some .closeBrace) = -1 := rfl
        rw [hclose, hvalue] at hnext hbalance
        omega
      · have hvalue : 0 ≤ braceValue (stream.kind? s.cursor) := by
          unfold braceValue
          rw [if_neg hclose]
          split <;> omega
        omega
    rw [h.functionNesting_after hlt (by omega) hpassed (Int.le_refl _), if_neg (by omega)]
    exact ⟨rfl, hsome⟩

end InBody

/-- **A function that is looked at outside of all bodies** takes the survey to the brace of its body,
with nothing counted yet. -/
theorem after_visit_function {c : Check} (hkind : stream.kind? s.cursor = some .functionWord)
    (hchecked : .check c ∈ (visit stream defines s).events) (houtside : s.functionNesting ≤ 0)
    (hbody : stream.kind? (bodyFrom stream 0 (s.cursor + 1)) = some .openBrace) :
    (visit stream defines s).after.cursor = bodyFrom stream 0 (s.cursor + 1)
      ∧ (visit stream defines s).after.functionNesting = 0 := by
  obtain ⟨t, hat, ht⟩ := Option.map_eq_some_iff.1 hkind
  have hstep : step stream defines s = stepFunction stream s t := by
    unfold step
    rw [hat]
    dsimp only
    rw [ht]
  have himport : isFunctionImport stream s.cursor = false := by
    refine Bool.eq_false_iff.2 fun himport => ?_
    have hnone : (visit stream defines s).events = [] := by
      unfold visit
      rw [hstep, stepFunction, if_pos himport]
    rw [hnone] at hchecked
    cases hchecked
  obtain ⟨line, hbegins⟩ := stepFunction_begins stream s t himport
  rw [after_visit, hstep, hbegins, hbody, SurveyState.afterHeader_openBrace]
  simp only [SurveyState.cursor_release, SurveyState.cursor_claim, SurveyState.cursor_moveTo,
    SurveyState.functionNesting_release, SurveyState.functionNesting_claim,
    SurveyState.functionNesting_moveTo]
  exact ⟨trivial, if_neg (by omega)⟩

/-- **The body begins:** behind the brace of a function that was looked at outside of all bodies, the
survey is in its body. -/
theorem inBody_of_function {v : Visit} (hv : v ∈ (Survey.of stream defines).visits) {c : Check}
    (hkind : stream.kind? v.before.cursor = some .functionWord) (hchecked : .check c ∈ v.events)
    (houtside : v.before.functionNesting ≤ 0)
    (hbody : stream.kind? (bodyFrom stream 0 (v.before.cursor + 1)) = some .openBrace) :
    ∃ s : SurveyState, s.cursor = bodyFrom stream 0 (v.before.cursor + 1) + 1
      ∧ InBody stream defines (bodyFrom stream 0 (v.before.cursor + 1)) s := by
  obtain ⟨hvisit, hlt, hway⟩ := OnTheWay.of_mem hv
  rw [hvisit] at hchecked
  obtain ⟨hcursor, hcount⟩ := after_visit_function hkind hchecked houtside hbody
  have hwayBody := hway.after_visit hlt
  generalize (visit stream defines v.before).after = s at hcursor hcount hwayBody
  rw [← hcursor] at hbody ⊢
  have hin : s.cursor < stream.size := (TokenStream.bounds_of_kind? hbody).2
  -- the brace is the first one counted
  have hnext : (visit stream defines s).after.cursor = s.cursor + 1 := by
    rw [after_visit, SurveyState.cursor_release, step_openBrace hbody]
    rfl
  have hbalance := hwayBody.balance_visit hin (Int.le_refl s.cursor) (Int.lt_succ _)
    (Int.le_of_eq hnext.symm)
  rw [balance_self, hbody] at hbalance
  refine ⟨(visit stream defines s).after, hnext, hwayBody.after_visit hin, by omega, fun _ => ?_⟩
  rw [hnext, hbalance, after_visit, SurveyState.functionNesting_release, step_openBrace hbody]
  dsimp only [SurveyState.functionNesting_advance, SurveyState.openBrace]
  rw [hcount]
  decide

/-- **Locals are never properties.** Let a function be looked at while the counter is not above zero,
let its body begin with a brace at `b`, and let `m` be where the body ends. Before every visit behind
`b` and up to `m` the counter is the balance of the braces visited from `b` on, and at least one,
whatever classes and functions begin and end on the way; no property and no constant is looked at in
between; behind the visit of `m` the counter is `-1`. A body that is never closed ends with the file,
and there the counter still is the balance of its braces, and at least one. -/
theorem function_body_counted (stream : TokenStream) (defines : Bool) {v : Visit}
    (hv : v ∈ (Survey.of stream defines).visits) {c : Check}
    (hkind : stream.kind? v.before.cursor = some .functionWord) (hchecked : .check c ∈ v.events)
    (houtside : v.before.functionNesting ≤ 0)
    (hbody : stream.kind? (bodyFrom stream 0 (v.before.cursor + 1)) = some .openBrace) :
    let survey := Survey.of stream defines
    let b := bodyFrom stream 0 (v.before.cursor + 1)
    let m := bodyEnd stream survey.visits b
    (∀ w ∈ survey.visits, b < w.before.cursor → w.before.cursor ≤ m →
        w.before.functionNesting = balance stream survey.visits b w.before.cursor
          ∧ 1 ≤ w.before.functionNesting)
      ∧ (∀ d ∈ survey.checks, b < d.anchor → d.anchor < m →
          d.declaration ≠ .classVariable ∧ d.declaration ≠ .constant)
      ∧ (∀ w ∈ survey.visits, w.before.cursor = m → w.after.functionNesting = -1)
      ∧ (m = stream.size →
          survey.final.functionNesting = balance stream survey.visits b stream.size
            ∧ 1 ≤ survey.final.functionNesting) := by
  intro survey b m
  obtain ⟨s, hcursor, hs⟩ := inBody_of_function hv hkind hchecked houtside hbody
  have hkeep : ∀ t : SurveyState, t.cursor < stream.size → InBody stream defines b t →
      InBody stream defines b (visit stream defines t).after :=
    fun t hlt ht => ht.after_visit hlt
  have hinside : ∀ w ∈ survey.visits, b < w.before.cursor → InBody stream defines b w.before := by
    intro w hw hbehind
    have hleft : w ∈ visitsFrom stream defines s := hs.onTheWay.mem_visitsFrom hw (by omega)
    exact (forall_visitsFrom hkeep s hs w hleft).2.2
  refine ⟨fun w hw hbehind hle => (hinside w hw hbehind).counted hle, ?_, ?_, ?_⟩
  · intro d hd hbehind hbefore
    obtain ⟨w, hw, hmade, hanchor⟩ := exists_visit_of_check hd
    rw [hanchor] at hbehind hbefore
    obtain ⟨-, hpos⟩ := (hinside w hw hbehind).counted (Int.le_of_lt hbefore)
    rw [(OnTheWay.of_mem hw).1] at hmade
    exact declaration_of_step_of_pos hpos hmade
  · intro w hw hend
    obtain ⟨hvisit, hlt, -⟩ := OnTheWay.of_mem hw
    have hcloses := closesBody_of_eq_bodyEnd hw hend
    rw [closesBody, Bool.and_eq_true, Bool.and_eq_true, decide_eq_true_eq, beq_iff_eq,
      beq_iff_eq] at hcloses
    obtain ⟨⟨hbehind, -⟩, hzero⟩ := hcloses
    have hafter := (hinside w hw hbehind).functionNesting_after hlt (Int.le_of_eq hend)
      (Int.lt_succ _) (cursor_lt_after (visit stream defines w.before))
    rw [if_pos hzero] at hafter
    rw [hvisit]
    exact hafter
  · intro hend
    -- the last state is still in the body, and at the end of the file
    obtain ⟨hfinal, hge⟩ := of_endFrom hkeep s hs
    rw [hs.onTheWay.ending] at hfinal hge
    have hsize : survey.final.cursor = stream.size :=
      Int.le_antisymm hfinal.onTheWay.sound.cursor_le hge
    have hcounted := hfinal.counted (Int.le_of_eq (hsize.trans hend.symm))
    rw [← hsize]
    exact hcounted

/-- A method with a local variable: the body is from token 13 to token 18, and behind it the counter
is off. -/
theorem function_body_counted_of_method :
    let stream := TokenStream.ofSource "<?php class A \x7b function f() \x7b $x; \x7d \x7d"
    let survey := Survey.of stream false
    bodyEnd stream survey.visits 13 = 18
      ∧ (∀ w ∈ survey.visits, 13 < w.before.cursor → w.before.cursor ≤ 18 →
        1 ≤ w.before.functionNesting)
      ∧ (∀ d ∈ survey.checks, 13 < d.anchor → d.anchor < 18 → d.declaration ≠ .classVariable)
      ∧ ∀ w ∈ survey.visits, w.before.cursor = 18 → w.after.functionNesting = -1 := by
  intro stream survey
  obtain ⟨v, hv, hkind, hchecked, houtside, hbegin⟩ : ∃ v ∈ survey.visits,
      stream.kind? v.before.cursor = some .functionWord
        ∧ .check ⟨.function, v.before.cursor, "f", 1, some "A", none⟩ ∈ v.events
        ∧ v.before.functionNesting ≤ 0 ∧ bodyFrom stream 0 (v.before.cursor + 1) = 13 := by
    decide +kernel
  have hend : bodyEnd stream survey.visits 13 = 18 := by decide +kernel
  have hbrace : stream.kind? 13 = some .openBrace := by decide +kernel
  have hcounted := function_body_counted stream false hv hkind hchecked houtside
    (by rw [hbegin, hbrace])
  dsimp only at hcounted
  rw [hbegin, hend] at hcounted
  obtain ⟨hinside, hchecks, hbehind, -⟩ := hcounted
  exact ⟨hend, fun w hw h h' => (hinside w hw h h').2, fun d hd h h' => (hchecks d hd h h').1,
    hbehind⟩

/-- **A body that is never closed** ends with the file, and the counter does not go back to `-1`
there. -/
theorem function_body_unclosed :
    let stream := TokenStream.ofSource "<?php function f() \x7b"
    let survey := Survey.of stream false
    ∃ v ∈ survey.visits, stream.kind? v.before.cursor = some .functionWord
      ∧ .check ⟨.function, v.before.cursor, "f", 1, none, none⟩ ∈ v.events
      ∧ v.before.functionNesting ≤ 0
      ∧ stream.kind? (bodyFrom stream 0 (v.before.cursor + 1)) = some .openBrace
      ∧ bodyEnd stream survey.visits (bodyFrom stream 0 (v.before.cursor + 1)) = stream.size
      ∧ survey.final.cursor = stream.size
      ∧ survey.final.functionNesting ≠ -1 := by
  decide +kernel

end DocCoverage
