/-
Texts that a survey does not read. A survey reads names, and the few words and signs that tell one
declaration from another; what a comment says, how wide a blank is and what stands between quotes it
never sees, but for one place: the name of a constant is taken from the first argument of a call of
`define`, whatever that is, and told in a sentence.

This is said of one stream and its *legible* part, in which all texts but those of names and signs
are struck out: every search finds the same there, every step leads to the same state, and what it
notices is the same but for the names of constants. Two streams that agree in what is legible have
the same legible part, and so their surveys run side by side.
-/
import DocCoverage.Proofs.Report.Agreement

set_option autoImplicit false

namespace DocCoverage

/-! ## What is legible -/

/-- The classes of token whose texts may be read. -/
def TokenKind.isLegible : TokenKind → Bool
  | .identifier | .variableName | .operator => true
  | _ => false

namespace Token

/-- The token with its text struck out, if its class is not one of those. -/
def legible (t : Token) : Token := if t.kind.isLegible then t else { t with text := "" }

/-- A text that may be read stays. -/
theorem legible_of_isLegible {t : Token} (h : t.kind.isLegible = true) : t.legible = t :=
  if_pos h

@[simp] theorem kind_legible (t : Token) : t.legible.kind = t.kind := by
  unfold legible
  split <;> rfl

@[simp] theorem line_legible (t : Token) : t.legible.line = t.line := by
  unfold legible
  split <;> rfl

/-- Which word an identifier is can be read. -/
@[simp] theorem isWord_legible (t : Token) (word : String) :
    t.legible.isWord word = t.isWord word := by
  by_cases hkind : t.kind = .identifier
  · rw [legible_of_isLegible (by rw [hkind]; rfl)]
  · have hno : (t.kind == .identifier) = false := beq_eq_false_iff_ne.2 hkind
    rw [isWord, isWord, kind_legible, hno, Bool.false_and, Bool.false_and]

end Token

namespace TokenStream

/-- **The legible part of a stream.** -/
def legible (s : TokenStream) : TokenStream := ⟨s.tokens.map Token.legible⟩

variable (s : TokenStream)

@[simp] theorem size_legible : s.legible.size = s.size := Array.size_map

/-- In every place stands what is legible of the token there. -/
@[simp] theorem at?_legible (i : Int) : s.legible.at? i = (s.at? i).map Token.legible := by
  unfold at? legible
  split
  · exact Array.getElem?_map
  · rfl

/-- All classes are legible. -/
@[simp] theorem kind?_legible (i : Int) : s.legible.kind? i = s.kind? i := by
  unfold kind?
  rw [at?_legible, Option.map_map]
  exact congrArg (Option.map · (s.at? i)) (funext Token.kind_legible)

end TokenStream

/-! ## Two streams that are read alike -/

/-- What is legible of two tokens is the same if they agree in class and line and, where it may be
read, in their text. -/
theorem Token.legible_eq_legible_iff {t u : Token} :
    t.legible = u.legible
      ↔ t.kind = u.kind ∧ t.line = u.line ∧ (t.kind.isLegible = true → t.text = u.text) := by
  constructor
  · intro h
    have hkind : t.kind = u.kind := by rw [← t.kind_legible, h, u.kind_legible]
    have hline : t.line = u.line := by rw [← t.line_legible, h, u.line_legible]
    refine ⟨hkind, hline, fun hlegible => ?_⟩
    rw [legible_of_isLegible hlegible, legible_of_isLegible (hkind ▸ hlegible)] at h
    rw [h]
  · rintro ⟨hkind, hline, htext⟩
    obtain ⟨kind, text, line⟩ := t
    obtain ⟨kind', text', line'⟩ := u
    dsimp only at hkind hline htext
    subst hkind hline
    unfold legible
    dsimp only
    split
    next hlegible => rw [htext hlegible]
    next => rfl

namespace TokenStream

/-- **Two streams are read alike:** they have one length, and in every place the same class, the same
line and, where a text may be read, the same text. -/
structure ReadAlike (a b : TokenStream) : Prop where
  size_eq : a.size = b.size
  agree : ∀ (i : Int) (t u : Token), a.at? i = some t → b.at? i = some u →
    t.kind = u.kind ∧ t.line = u.line ∧ (t.kind.isLegible = true → t.text = u.text)

/-- **Streams are read alike if they have the same legible part.** -/
theorem readAlike_iff {a b : TokenStream} : a.ReadAlike b ↔ a.legible = b.legible := by
  constructor
  · intro h
    unfold legible
    refine congrArg TokenStream.mk (Array.ext ?_ fun i ha hb => ?_)
    · rw [Array.size_map, Array.size_map]
      exact h.size_eq
    · rw [Array.size_map] at ha hb
      have hat : a.at? i = some a.tokens[i] := by
        rw [at?, if_pos (by omega), Int.toNat_natCast, Array.getElem?_eq_getElem ha]
      have hbt : b.at? i = some b.tokens[i] := by
        rw [at?, if_pos (by omega), Int.toNat_natCast, Array.getElem?_eq_getElem hb]
      rw [Array.getElem_map, Array.getElem_map]
      exact Token.legible_eq_legible_iff.2 (h.agree i _ _ hat hbt)
  · intro h
    refine ⟨by rw [← size_legible, h, size_legible], fun i t u ht hu => ?_⟩
    have hat := at?_legible a i
    rw [h, at?_legible, ht, hu] at hat
    exact Token.legible_eq_legible_iff.1 (Option.some.inj hat).symm

instance (a b : TokenStream) : Decidable (a.ReadAlike b) :=
  decidable_of_iff _ readAlike_iff.symm

variable (s : TokenStream)

/-! ## Searches find the same -/

@[simp] theorem skipBlankForward_legible (index : Int) :
    s.legible.skipBlankForward index = s.skipBlankForward index := by
  induction index using skipBlankForward.induct s with
  | case1 index hkind ih =>
    have hlegible := (s.kind?_legible (index + 1)).trans hkind
    rw [skipBlankForward.eq_def s.legible, skipBlankForward.eq_def s, dif_pos hkind,
      dif_pos hlegible, ih]
  | case2 index hkind =>
    have hlegible := mt (s.kind?_legible (index + 1)).symm.trans hkind
    rw [skipBlankForward.eq_def s.legible, skipBlankForward.eq_def s, dif_neg hkind,
      dif_neg hlegible]

@[simp] theorem skipBlankBackward_legible (position : Int) :
    s.legible.skipBlankBackward position = s.skipBlankBackward position := by
  induction position using skipBlankBackward.induct s with
  | case1 position hkind ih =>
    have hlegible := (s.kind?_legible (position - 1)).trans hkind
    rw [skipBlankBackward.eq_def s.legible, skipBlankBackward.eq_def s, dif_pos hkind,
      dif_pos hlegible, ih]
  | case2 position hkind =>
    have hlegible := mt (s.kind?_legible (position - 1)).symm.trans hkind
    rw [skipBlankBackward.eq_def s.legible, skipBlankBackward.eq_def s, dif_neg hkind,
      dif_neg hlegible]

end TokenStream

section Searches

variable (stream : TokenStream)

@[simp] theorem bodyFrom_legible (depth : Nat) (index : Int) :
    bodyFrom stream.legible depth index = bodyFrom stream depth index := by
  fun_induction bodyFrom stream depth index <;>
    rw [bodyFrom, TokenStream.size_legible, TokenStream.kind?_legible] <;> simp_all

/-- The same comments are attached: this is said with classes alone. -/
theorem attached_legible (declaration : Declaration) (anchor i : Int) :
    Attached declaration stream.legible anchor i ↔ Attached declaration stream anchor i := by
  unfold Attached TokenStream.Spells TokenStream.kindsBetween
  simp only [TokenStream.kind?_legible]

@[simp] theorem docComment?_legible (declaration : Declaration) (anchor : Int) :
    docComment? declaration stream.legible anchor = docComment? declaration stream anchor := by
  -- the search is not followed here: what it finds is the one comment that is attached
  ext i
  constructor
  · intro h
    exact docComment?_of_attached ((attached_legible stream _ _ _).1 (attached_of_docComment? h))
  · intro h
    exact docComment?_of_attached ((attached_legible stream _ _ _).2 (attached_of_docComment? h))

@[simp] theorem checkRun_legible (declaration : Declaration) (anchor : Int) (name : String)
    (line : Int) (enclosing : Option String) :
    Check.run stream.legible declaration anchor name line enclosing
      = Check.run stream declaration anchor name line enclosing := by
  unfold Check.run
  rw [docComment?_legible]

/-- A constant is named by an identifier, and that can be read. -/
@[simp] theorem constantNameFrom_legible (found : Option Token) (index : Int) :
    constantNameFrom stream.legible found index = constantNameFrom stream found index := by
  fun_induction constantNameFrom stream found index with
  | case1 found index token hat hkind ih =>
    have htoken : token.legible = token := Token.legible_of_isLegible (by rw [hkind]; rfl)
    rw [constantNameFrom, TokenStream.at?_legible, hat]
    dsimp only [Option.map_some]
    rw [htoken, hkind]
    exact ih
  | case2 found index token hat hkind ih =>
    rw [constantNameFrom, TokenStream.at?_legible, hat]
    dsimp only [Option.map_some]
    rw [Token.kind_legible, hkind]
    exact ih
  | case3 found index token hat hword hblank =>
    rw [constantNameFrom, TokenStream.at?_legible, hat]
    dsimp only [Option.map_some]
    rw [Token.kind_legible]
    split
    next h => exact absurd h hword
    next h => exact absurd h hblank
    next => rfl
  | case4 found index hat =>
    rw [constantNameFrom, TokenStream.at?_legible, hat]
    rfl

/-- An ampersand can be read, and whatever may be the name. -/
@[simp] theorem functionNameToken?_legible (cursor : Int) :
    functionNameToken? stream.legible cursor
      = (functionNameToken? stream cursor).map Token.legible := by
  unfold functionNameToken?
  simp only [TokenStream.skipBlankForward_legible, TokenStream.at?_legible]
  cases stream.at? (stream.skipBlankForward cursor) with
  | none => rfl
  | some token =>
    dsimp only [Option.map_some]
    rw [Token.kind_legible]
    by_cases hkind : token.kind = .operator
    · have htoken : token.legible = token := Token.legible_of_isLegible (by rw [hkind]; rfl)
      rw [htoken]
      split
      next => rfl
      next => rw [Option.map_some, htoken]
    · rw [if_neg fun h => hkind h.1, if_neg fun h => hkind h.1]
      rfl

@[simp] theorem isFunctionImport_legible (cursor : Int) :
    isFunctionImport stream.legible cursor = isFunctionImport stream cursor := by
  unfold isFunctionImport
  rw [TokenStream.skipBlankBackward_legible, TokenStream.at?_legible, Option.any_map]
  exact congrArg (Option.any · _) (funext fun t => t.isWord_legible "use")

@[simp] theorem fileComment_legible : fileComment stream.legible = fileComment stream := by
  have hpass : ∀ (here : Nat × Int) (kind : TokenKind),
      passOpening stream.legible here kind = passOpening stream here kind := by
    intro here kind
    unfold passOpening
    rw [TokenStream.at?_legible]
    cases stream.at? here.1 with
    | none => rfl
    | some t =>
      dsimp only [Option.map_some]
      rw [Token.kind_legible, Token.line_legible]
  simp only [fileComment_eq, hpass, TokenStream.kind?_legible]

end Searches

/-! ## What is noticed, but for the names of constants -/

/-- The check with its name struck out, if it is of a constant. -/
def Check.withoutConstant (c : Check) : Check :=
  if c.declaration = .constant then { c with name := "" } else c

/-- The event, the name of a constant struck out. -/
def Event.withoutConstant : Event → Event
  | .check c => .check c.withoutConstant
  | e => e

/-- A step, the names of constants struck out. -/
def Stepped.withoutConstants (r : Stepped) : Stepped := (r.1, r.2.map Event.withoutConstant)

/-- Two steps that branch alike agree if their branches do. -/
theorem Stepped.withoutConstants_ite {p q : Prop} [Decidable p] [Decidable q] {a b c d : Stepped}
    (h : p ↔ q) (hthen : a.withoutConstants = c.withoutConstants)
    (helse : b.withoutConstants = d.withoutConstants) :
    (if p then a else b).withoutConstants = (if q then c else d).withoutConstants := by
  by_cases hp : p
  · rw [if_pos hp, if_pos (h.1 hp), hthen]
  · rw [if_neg hp, if_neg (mt h.2 hp), helse]

section Steps

variable (stream : TokenStream) (s : SurveyState) (t : Token)

/-- The name of a class is an identifier. -/
theorem stepContext_legible (declaration : Declaration) :
    stepContext stream.legible s declaration t.legible = stepContext stream s declaration t := by
  unfold stepContext
  simp only [TokenStream.skipBlankForward_legible, TokenStream.at?_legible, checkRun_legible,
    Token.line_legible]
  cases stream.at? (stream.skipBlankForward s.cursor) with
  | none => rfl
  | some found =>
    dsimp only [Option.map_some]
    rw [Token.kind_legible, Token.line_legible]
    by_cases hkind : found.kind = .identifier
    · rw [Token.legible_of_isLegible (by rw [hkind]; rfl)]
    · rw [if_neg hkind, if_neg hkind]

/-- So is the name of a function. -/
theorem stepFunction_legible :
    stepFunction stream.legible s t.legible = stepFunction stream s t := by
  unfold stepFunction
  simp only [isFunctionImport_legible, functionNameToken?_legible, checkRun_legible,
    bodyFrom_legible, TokenStream.kind?_legible, Token.line_legible]
  cases functionNameToken? stream s.cursor with
  | none => rfl
  | some found =>
    dsimp only [Option.map_some]
    rw [Token.kind_legible, Token.line_legible]
    by_cases hkind : found.kind = .identifier
    · rw [Token.legible_of_isLegible (by rw [hkind]; rfl)]
    · rw [if_neg hkind, if_neg hkind]

/-- The name of a property is its own text. -/
theorem stepVariable_legible (hkind : t.kind = .variableName) :
    stepVariable stream.legible s t.legible = stepVariable stream s t := by
  rw [Token.legible_of_isLegible (by rw [hkind]; rfl)]
  unfold stepVariable
  simp only [checkRun_legible]

theorem stepConst_legible : stepConst stream.legible s t.legible = stepConst stream s t := by
  unfold stepConst
  simp only [constantNameFrom_legible, checkRun_legible, Token.line_legible]

/-- **A call of `define`** is found by what is legible; the name of the constant is all that may
come from elsewhere. -/
theorem stepIdentifier_legible (defines : Bool) :
    (stepIdentifier stream.legible defines s t.legible).withoutConstants
      = (stepIdentifier stream defines s t).withoutConstants := by
  unfold stepIdentifier
  simp only [TokenStream.skipBlankForward_legible, TokenStream.kind?_legible, checkRun_legible,
    Token.isWord_legible, Token.line_legible]
  -- both calls go the same way, and their checks differ in the name alone
  refine Stepped.withoutConstants_ite Iff.rfl (Stepped.withoutConstants_ite Iff.rfl ?_ rfl) rfl
  rfl

/-- **A step leads to the same state and notices the same** in the legible part of a stream, the
names of constants apart. -/
theorem step_legible (defines : Bool) :
    (step stream.legible defines s).withoutConstants
      = (step stream defines s).withoutConstants := by
  unfold step
  rw [TokenStream.at?_legible]
  cases stream.at? s.cursor with
  | none => rfl
  | some t =>
    dsimp only [Option.map_some]
    rw [Token.kind_legible]
    split
    next => rw [stepContext_legible]
    next => rw [stepContext_legible]
    next => rw [stepFunction_legible]
    next hkind => rw [stepVariable_legible stream s t hkind]
    next => rw [stepConst_legible]
    next => exact stepIdentifier_legible stream s t defines
    all_goals rfl

end Steps

/-! ## A whole survey -/

/-- A visit, the names of constants struck out. -/
def Visit.withoutConstants (v : Visit) : Visit :=
  { v with events := v.events.map Event.withoutConstant }

@[simp] theorem Visit.after_withoutConstants (v : Visit) : v.withoutConstants.after = v.after := rfl

/-- A survey, the names of constants struck out. -/
def Survey.withoutConstants (s : Survey) : Survey :=
  { opening := s.opening.map Event.withoutConstant
    visits := s.visits.map Visit.withoutConstants
    final := s.final }

variable {defines : Bool}

/-- A visit is the same in the legible part, the names of constants apart. -/
theorem visit_legible (stream : TokenStream) (defines : Bool) (s : SurveyState) :
    (visit stream.legible defines s).withoutConstants
      = (visit stream defines s).withoutConstants := by
  obtain ⟨hstate, hevents⟩ := Prod.mk.inj (step_legible stream s defines)
  unfold visit Visit.withoutConstants
  dsimp only
  rw [hstate, hevents]

/-- **All visits are the same in the legible part,** the names of constants apart. -/
theorem visitsFrom_legible (stream : TokenStream) (defines : Bool) (s : SurveyState) :
    (visitsFrom stream.legible defines s).map Visit.withoutConstants
      = (visitsFrom stream defines s).map Visit.withoutConstants := by
  induction s using visitsFrom.induct stream defines with
  | case1 s hlt v ih =>
    have hvisit := visit_legible stream defines s
    -- what follows a visit depends on its states only
    have hafter : (visit stream.legible defines s).after = v.after := by
      rw [← Visit.after_withoutConstants, hvisit, Visit.after_withoutConstants]
    have hlt' : s.cursor < stream.legible.size := by rwa [TokenStream.size_legible]
    rw [visitsFrom.eq_def stream.legible, visitsFrom.eq_def stream, if_pos hlt, if_pos hlt']
    dsimp only
    rw [List.map_cons, List.map_cons, hvisit, hafter, ih]
  | case2 s hge =>
    have hge' : ¬ s.cursor < stream.legible.size := by rwa [TokenStream.size_legible]
    rw [visitsFrom.eq_def stream.legible, visitsFrom.eq_def stream, if_neg hge, if_neg hge']

/-- **The survey of a stream is that of its legible part,** the names of constants apart. -/
theorem survey_legible (stream : TokenStream) (defines : Bool) :
    (Survey.of stream.legible defines).withoutConstants
      = (Survey.of stream defines).withoutConstants := by
  have hstart : startState stream.legible = startState stream := by
    unfold startState
    rw [fileComment_legible]
  have hopening : startEvents stream.legible = startEvents stream := by
    unfold startEvents
    rw [fileComment_legible]
  have hvisits := visitsFrom_legible stream defines (startState stream)
  -- the last state is read off the visits, whatever these noticed
  have hlast : ∀ visits : List Visit, visits.getLast?.map Visit.after
      = (visits.map Visit.withoutConstants).getLast?.map Visit.after := by
    intro visits
    rw [List.getLast?_map, Option.map_map]
    rfl
  unfold Survey.of Survey.withoutConstants
  dsimp only
  rw [hstart, hopening, hlast, hvisits, ← hlast]

namespace Survey

/-- What is noticed without the names of constants is what the survey without them notices. -/
theorem events_withoutConstants (s : Survey) :
    s.withoutConstants.events = s.events.map Event.withoutConstant := by
  have hrelease : ∀ state : SurveyState,
      state.releaseEvents.map Event.withoutConstant = state.releaseEvents := by
    intro state
    unfold SurveyState.releaseEvents
    split <;> rfl
  have hclosing : s.closing.map Event.withoutConstant = s.closing := by
    unfold closing
    split <;> rfl
  have hvisit : ∀ v : Visit, eventsOfVisit v.withoutConstants
      = (eventsOfVisit v).map Event.withoutConstant := by
    intro v
    unfold eventsOfVisit
    rw [List.map_append, hrelease]
    rfl
  unfold events
  rw [List.map_append, List.map_append, hclosing, List.map_flatMap]
  unfold withoutConstants
  dsimp only
  rw [List.flatMap_map]
  simp only [hvisit]
  rfl

end Survey

/-! ## What comes of it -/

/-- The verdict with its sentence struck out. -/
def Verdict.untold : Verdict → Verdict
  | .documented kind => .documented kind
  | .undocumented kind line _ => .undocumented kind line ""

/-- The sentence does not count. -/
@[simp] theorem Counters.add_untold (c : Counters) (v : Verdict) : c.add v.untold = c.add v := by
  cases v <;> rfl

/-- A finding stands on the line of its verdict, whatever it says. -/
theorem Verdict.line_finding?_untold (reported : EntityKind → Bool) (file : String) (v : Verdict) :
    (v.untold.finding? reported file).map Finding.line
      = (v.finding? reported file).map Finding.line := by
  cases v with
  | documented kind => rfl
  | undocumented kind line message =>
    unfold untold finding?
    dsimp only
    split <;> rfl

/-- The verdicts of some events, their sentences struck out. -/
def untoldVerdicts (events : List Event) : List Verdict :=
  (events.filterMap Event.verdict?).map Verdict.untold

/-- **The name of a constant matters for the sentence alone.** -/
theorem untoldVerdicts_withoutConstant (events : List Event) :
    untoldVerdicts (events.map Event.withoutConstant) = untoldVerdicts events := by
  have hverdict : ∀ e : Event, e.withoutConstant.verdict?.map Verdict.untold
      = e.verdict?.map Verdict.untold := by
    intro e
    cases e with
    | check c =>
      unfold Event.withoutConstant Check.withoutConstant
      dsimp only
      split
      next =>
        unfold Event.verdict? Check.verdict
        dsimp only
        split <;> rfl
      next => rfl
    | replaced context | fileDocumented | fileUndocumented line => rfl
  unfold untoldVerdicts
  rw [List.map_filterMap, List.map_filterMap, List.filterMap_map]
  exact congrArg (fun f => events.filterMap f) (funext hverdict)

section Outcome

variable {events events' : List Event}

/-- The counts follow from the verdicts without their sentences. -/
theorem addEvents_congr (h : untoldVerdicts events = untoldVerdicts events') (c : Counters) :
    c.addEvents events = c.addEvents events' := by
  have hfold : ∀ events : List Event, c.addEvents events
      = (untoldVerdicts events).foldl Counters.add c := by
    intro events
    unfold Counters.addEvents untoldVerdicts
    rw [List.foldl_map]
    simp only [Counters.add_untold]
  rw [hfold, hfold, h]

/-- So do the lines of the findings. -/
theorem lines_findingsOf_congr (h : untoldVerdicts events = untoldVerdicts events')
    (reported : EntityKind → Bool) (file : String) :
    (findingsOf reported file events).map Finding.line
      = (findingsOf reported file events').map Finding.line := by
  have hlines : ∀ events : List Event, (findingsOf reported file events).map Finding.line
      = (untoldVerdicts events).filterMap fun v =>
          (v.finding? reported file).map Finding.line := by
    intro events
    unfold findingsOf untoldVerdicts
    rw [List.map_filterMap, List.filterMap_map]
    refine congrArg (fun f => List.filterMap f _) (funext fun v => ?_)
    exact (v.line_finding?_untold reported file).symm
  rw [hlines, hlines, h]

end Outcome

/-- Where calls of `define` are not looked at, no name is struck out. -/
theorem events_map_withoutConstant (stream : TokenStream) :
    (Survey.of stream false).events.map Event.withoutConstant = (Survey.of stream false).events := by
  refine (List.map_congr_left fun e he => ?_).trans (List.map_id _)
  cases e with
  | check c =>
    have hmem : c ∈ (Survey.of stream false).checks := List.mem_filterMap.2 ⟨.check c, he, rfl⟩
    unfold Event.withoutConstant Check.withoutConstant
    dsimp only
    rw [if_neg (declaration_ne_constant_of_survey hmem)]
    rfl
  | replaced context | fileDocumented | fileUndocumented line => rfl

/-! ## Two surveys -/

/-- The states of a visit: before the step, behind it, and with the leading comment released. -/
def Visit.states (v : Visit) : SurveyState × SurveyState × SurveyState :=
  (v.before, v.stepped, v.after)

/-- **Comments and layout cannot influence a survey.** The surveys of two streams that are read alike
go through the same states and end in the same one; they count the same, and have findings on the
same lines, under all settings. Where calls of `define` are not looked at, they have the same
findings. -/
theorem survey_of_readAlike {a b : TokenStream} (h : a.ReadAlike b) (settings : Settings)
    (file : String) :
    let sa := Survey.of a settings.defines
    let sb := Survey.of b settings.defines
    sa.visits.map Visit.states = sb.visits.map Visit.states ∧ sa.final = sb.final
      ∧ (∀ past : Counters, past.addEvents sa.events = past.addEvents sb.events)
      ∧ (findingsOf settings.reports file sa.events).map Finding.line
        = (findingsOf settings.reports file sb.events).map Finding.line
      ∧ (settings.defines = false →
        findingsOf settings.reports file sa.events
          = findingsOf settings.reports file sb.events) := by
  intro sa sb
  have hsurvey : sa.withoutConstants = sb.withoutConstants := calc
    sa.withoutConstants = (Survey.of a.legible settings.defines).withoutConstants :=
      (survey_legible a settings.defines).symm
    _ = (Survey.of b.legible settings.defines).withoutConstants := by
      rw [TokenStream.readAlike_iff.1 h]
    _ = sb.withoutConstants := survey_legible b settings.defines
  have hfinal : sa.withoutConstants.final = sb.withoutConstants.final := by rw [hsurvey]
  have hvisits : sa.visits.map Visit.withoutConstants = sb.visits.map Visit.withoutConstants :=
    congrArg Survey.visits hsurvey
  have hevents : sa.events.map Event.withoutConstant = sb.events.map Event.withoutConstant := by
    rw [← Survey.events_withoutConstants, hsurvey, Survey.events_withoutConstants]
  have hverdicts : untoldVerdicts sa.events = untoldVerdicts sb.events := by
    rw [← untoldVerdicts_withoutConstant, hevents, untoldVerdicts_withoutConstant]
  refine ⟨?_, hfinal, addEvents_congr hverdicts,
    lines_findingsOf_congr hverdicts settings.reports file, fun hdefines => ?_⟩
  · have hstates : ∀ visits : List Visit, visits.map Visit.states
        = (visits.map Visit.withoutConstants).map Visit.states := by
      intro visits
      rw [List.map_map]
      rfl
    rw [hstates, hvisits, ← hstates]
  · have hnames : ∀ stream : TokenStream,
        (Survey.of stream settings.defines).events.map Event.withoutConstant
          = (Survey.of stream settings.defines).events := by
      rw [hdefines]
      exact events_map_withoutConstant
    have hsame : sa.events = sb.events := by
      rw [← hnames a, ← hnames b]
      exact hevents
    rw [hsame]

/-- A constant that is defined under another name is missing on the same line. -/
theorem survey_of_readAlike_two_constants :
    let settings := Settings.default.set .checkDefines (.bool true)
    let sa := Survey.of (.ofSource "<?php define('A', 1);") settings.defines
    let sb := Survey.of (.ofSource "<?php define(\"BB\", 1);") settings.defines
    sa.visits.map Visit.states = sb.visits.map Visit.states
      ∧ (findingsOf settings.reports "a.php" sa.events).map Finding.line = [1, 1]
      ∧ (findingsOf settings.reports "a.php" sb.events).map Finding.line = [1, 1] := by
  intro settings sa sb
  have halike : (TokenStream.ofSource "<?php define('A', 1);").ReadAlike
      (.ofSource "<?php define(\"BB\", 1);") := by decide +kernel
  have hlines : (findingsOf settings.reports "a.php" sa.events).map Finding.line = [1, 1] := by
    decide +kernel
  obtain ⟨hstates, -, -, hsame, -⟩ := survey_of_readAlike halike settings "a.php"
  exact ⟨hstates, hlines, hsame.symm.trans hlines⟩

end DocCoverage
