/-
Where members are looked at. A property or a class constant belongs to the innermost class that was
begun, and a class is begun at its keyword, some tokens before the brace that opens its body. So there
are two places in which members are looked at: an opened body, and the header before it. In the first
the depth of the class is at least one; in the second it is zero, and a variable that stands there, such
as an argument for the constructor of an anonymous class, is taken for a property.

How deep the innermost class is follows the way: only a class keyword begins a class, and only braces
change the depth. Below the innermost class all bodies are opened, since a class that is begun takes the
place of one whose body never opened.
-/
import DocCoverage.Proofs.Survey.FunctionBody

set_option autoImplicit false

namespace DocCoverage

variable {stream : TokenStream} {defines : Bool} {s : SurveyState}

/-! ## Headers and bodies of classes -/

/-- **The place is in the header of a class:** the keyword of a class or an interface was visited
before, and no brace since. -/
def InClassHeader (stream : TokenStream) (visits : List Visit) (place : Int) : Prop :=
  ∃ k ∈ visits, k.before.cursor < place
    ∧ (stream.kind? k.before.cursor = some .classWord
      ∨ stream.kind? k.before.cursor = some .interfaceWord)
    ∧ ∀ w ∈ visits, k.before.cursor < w.before.cursor → w.before.cursor < place →
      stream.kind? w.before.cursor ≠ some .openBrace
        ∧ stream.kind? w.before.cursor ≠ some .closeBrace

/-- **The class was begun in a visit** before the place, in which a class or an interface of its name
was looked at; and it has opened its body if an opening brace was visited since. -/
structure Context.BegunIn (stream : TokenStream) (visits : List Visit) (place : Int)
    (context : Context) (k : Visit) : Prop where
  mem : k ∈ visits
  behind : k.before.cursor < place
  check : ∃ c, .check c ∈ k.events ∧ c.name = context.name
    ∧ (c.declaration = .classDecl ∨ c.declaration = .interfaceDecl)
  opened : 1 ≤ context.depth ↔ ∃ b ∈ visits, k.before.cursor < b.before.cursor
    ∧ b.before.cursor < place ∧ stream.kind? b.before.cursor = some .openBrace

section Way

variable (h : OnTheWay stream defines s) (hlt : s.cursor < stream.size)

include h hlt

/-- A class keyword takes the survey into a header. -/
theorem inClassHeader_of_keyword
    (hkeyword : stream.kind? s.cursor = some .classWord
      ∨ stream.kind? s.cursor = some .interfaceWord) :
    InClassHeader stream (Survey.of stream defines).visits
      (visit stream defines s).after.cursor := by
  refine ⟨visit stream defines s, h.visit_mem hlt, cursor_lt_after _, hkeyword, ?_⟩
  intro w hw hbehind hbefore
  have hle := (h.lt_after_iff hlt hw).1 hbefore
  have hplace : (visit stream defines s).before.cursor = s.cursor := rfl
  omega

/-- A brace takes it out of one. -/
theorem not_inClassHeader_of_brace
    (hbrace : stream.kind? s.cursor = some .openBrace ∨ stream.kind? s.cursor = some .closeBrace) :
    ¬ InClassHeader stream (Survey.of stream defines).visits
      (visit stream defines s).after.cursor := by
  rintro ⟨k, hk, hbefore, hkeyword, hno⟩
  have hle := (h.lt_after_iff hlt hk).1 hbefore
  rcases Int.lt_or_eq_of_le hle with hearlier | hhere
  -- the brace was visited behind the keyword
  · have hbraces := hno _ (h.visit_mem hlt) hearlier (cursor_lt_after _)
    rcases hbrace with hopen | hclose
    · exact hbraces.1 hopen
    · exact hbraces.2 hclose
  · rw [hhere] at hkeyword
    rcases hbrace with hopen | hclose
    · rw [hopen] at hkeyword
      rcases hkeyword with h' | h' <;> cases h'
    · rw [hclose] at hkeyword
      rcases hkeyword with h' | h' <;> cases h'

/-- All other tokens leave it where it is. -/
theorem inClassHeader_after_iff
    (hother : ∀ kind ∈ stream.kind? s.cursor, kind ≠ .classWord ∧ kind ≠ .interfaceWord
      ∧ kind ≠ .openBrace ∧ kind ≠ .closeBrace) :
    InClassHeader stream (Survey.of stream defines).visits (visit stream defines s).after.cursor
      ↔ InClassHeader stream (Survey.of stream defines).visits s.cursor := by
  have hpassed : s.cursor < (visit stream defines s).after.cursor := cursor_lt_after _
  constructor
  · rintro ⟨k, hk, hbefore, hkeyword, hno⟩
    have hle := (h.lt_after_iff hlt hk).1 hbefore
    have hne : k.before.cursor ≠ s.cursor := by
      intro hhere
      rw [hhere] at hkeyword
      rcases hkeyword with hclass | hinterface
      · exact (hother _ hclass).1 rfl
      · exact (hother _ hinterface).2.1 rfl
    refine ⟨k, hk, by omega, hkeyword, ?_⟩
    intro w hw hbehind hw'
    exact hno w hw hbehind (by omega)
  · rintro ⟨k, hk, hbefore, hkeyword, hno⟩
    refine ⟨k, hk, by omega, hkeyword, ?_⟩
    intro w hw hbehind hw'
    have hle := (h.lt_after_iff hlt hw).1 hw'
    rcases Int.lt_or_eq_of_le hle with hearlier | hhere
    · exact hno w hw hbehind hearlier
    -- the token that was visited last is no brace
    · rw [hhere]
      constructor
      · intro hopen
        exact (hother _ hopen).2.2.1 rfl
      · intro hclose
        exact (hother _ hclose).2.2.2 rfl

variable {context context' : Context} {k : Visit}

/-- A class that was begun stays so behind a token that is no opening brace, as long as its body is
opened or not as before. -/
theorem Context.BegunIn.passed
    (hbegun : context.BegunIn stream (Survey.of stream defines).visits s.cursor k)
    (hkind : stream.kind? s.cursor ≠ some .openBrace) (hname : context'.name = context.name)
    (hdepth : 1 ≤ context'.depth ↔ 1 ≤ context.depth) :
    context'.BegunIn stream (Survey.of stream defines).visits
      (visit stream defines s).after.cursor k := by
  have hpassed : s.cursor < (visit stream defines s).after.cursor := cursor_lt_after _
  have hbehind := hbegun.behind
  refine ⟨hbegun.mem, by omega, hname ▸ hbegun.check, ?_⟩
  rw [hdepth, hbegun.opened]
  constructor
  · rintro ⟨b, hb, hfirst, hlast, hopen⟩
    exact ⟨b, hb, hfirst, by omega, hopen⟩
  · rintro ⟨b, hb, hfirst, hlast, hopen⟩
    have hle := (h.lt_after_iff hlt hb).1 hlast
    have hne : b.before.cursor ≠ s.cursor := by
      intro hhere
      rw [hhere] at hopen
      exact hkind hopen
    exact ⟨b, hb, hfirst, by omega, hopen⟩

/-- Behind an opening brace a class that was begun has opened its body. -/
theorem Context.BegunIn.passedOpening
    (hbegun : context.BegunIn stream (Survey.of stream defines).visits s.cursor k)
    (hkind : stream.kind? s.cursor = some .openBrace) (hname : context'.name = context.name)
    (hdepth : 1 ≤ context'.depth) :
    context'.BegunIn stream (Survey.of stream defines).visits
      (visit stream defines s).after.cursor k := by
  have hpassed : s.cursor < (visit stream defines s).after.cursor := cursor_lt_after _
  have hbehind := hbegun.behind
  refine ⟨hbegun.mem, by omega, hname ▸ hbegun.check, ?_⟩
  constructor
  · intro _
    exact ⟨visit stream defines s, h.visit_mem hlt, hbehind, hpassed, hkind⟩
  · intro _
    exact hdepth

/-- A class is begun in the visit of its keyword. -/
theorem Context.begunIn_visit {c : Check}
    (hcheck : .check c ∈ (step stream defines s).2) (hname : c.name = context.name)
    (hdeclaration : c.declaration = .classDecl ∨ c.declaration = .interfaceDecl)
    (hdepth : context.depth = 0) :
    context.BegunIn stream (Survey.of stream defines).visits
      (visit stream defines s).after.cursor (visit stream defines s) := by
  refine ⟨h.visit_mem hlt, cursor_lt_after _, ⟨c, hcheck, hname, hdeclaration⟩, ?_⟩
  constructor
  · intro hopened
    omega
  -- no brace was visited since
  · rintro ⟨b, hb, hfirst, hlast, -⟩
    have hle := (h.lt_after_iff hlt hb).1 hlast
    have hplace : (visit stream defines s).before.cursor = s.cursor := rfl
    omega

end Way

/-! ## The classes that are open -/

namespace SurveyState

/-- A class begun is the innermost one. -/
theorem context?_enter (s : SurveyState) (context : Context) :
    (s.enter context).context? = some context := by
  unfold enter context?
  split
  · dsimp only
    split <;> rfl
  · rfl

/-- What is open then is the class begun, or was open before. -/
theorem mem_contexts_of_enter {context c : Context} (h : c ∈ (s.enter context).contexts) :
    c = context ∨ c ∈ s.contexts := by
  unfold enter at h
  rcases hcontexts : s.contexts with _ | ⟨top, outer⟩
  · rw [hcontexts] at h
    exact Or.inl (List.mem_singleton.1 h)
  · rw [hcontexts] at h
    dsimp only at h
    split at h
    · exact (List.mem_cons.1 h).imp_right (List.mem_cons_of_mem top)
    · exact List.mem_cons.1 h

/-- Behind an opening brace the same classes are open, all of them with their bodies. -/
theorem exists_of_mem_openBrace (hnested : Nested s.contexts) {c' : Context}
    (h : c' ∈ s.openBrace.contexts) : ∃ c ∈ s.contexts, c'.name = c.name ∧ 1 ≤ c'.depth := by
  dsimp only [openBrace] at h
  rcases hcontexts : s.contexts with _ | ⟨top, outer⟩
  · rw [hcontexts] at h
    cases h
  · rw [hcontexts] at h hnested
    obtain ⟨htop, houter⟩ := nested_cons.1 hnested
    rcases List.mem_cons.1 h with rfl | hc
    · refine ⟨top, List.mem_cons_self, rfl, ?_⟩
      dsimp only
      omega
    · exact ⟨c', List.mem_cons_of_mem top hc, rfl, houter c' hc⟩

/-- Behind a closing brace the classes that are open were so before, with their bodies or without. -/
theorem exists_of_mem_closeBrace {c' : Context} (h : c' ∈ s.closeBrace.contexts) :
    ∃ c ∈ s.contexts, c'.name = c.name ∧ (1 ≤ c'.depth ↔ 1 ≤ c.depth) := by
  dsimp only [closeBrace] at h
  rcases hcontexts : s.contexts with _ | ⟨top, outer⟩
  · rw [hcontexts] at h
    cases h
  · rw [hcontexts] at h
    dsimp only at h
    by_cases hlast : top.depth ≤ 1
    · rw [if_pos hlast] at h
      exact ⟨c', List.mem_cons_of_mem top h, rfl, Iff.rfl⟩
    · rw [if_neg hlast] at h
      rcases List.mem_cons.1 h with rfl | hc
      · refine ⟨top, List.mem_cons_self, rfl, ?_⟩
        dsimp only
        omega
      · exact ⟨c', List.mem_cons_of_mem top hc, rfl, Iff.rfl⟩

/-- Behind a closing brace the innermost class has opened its body. -/
theorem opened_closeBrace (hnested : Nested s.contexts) :
    ∀ c ∈ s.closeBrace.context?, 1 ≤ c.depth := by
  intro c hc
  dsimp only [closeBrace, context?] at hc
  rcases hcontexts : s.contexts with _ | ⟨top, outer⟩
  · rw [hcontexts] at hc
    cases hc
  · rw [hcontexts] at hc hnested
    obtain ⟨-, houter⟩ := nested_cons.1 hnested
    dsimp only at hc
    by_cases hlast : top.depth ≤ 1
    · rw [if_pos hlast] at hc
      exact houter c (List.mem_of_mem_head? hc)
    · rw [if_neg hlast] at hc
      obtain rfl := Option.some.inj hc
      dsimp only
      omega

/-- A function leaves the classes that are open. -/
theorem contexts_stepFunction (stream : TokenStream) (s : SurveyState) (keyword : Token) :
    (stepFunction stream s keyword).1.contexts = s.contexts := by
  unfold stepFunction
  split
  · rfl
  · exact contexts_claim _ _

end SurveyState

/-- **What the way tells of the classes that are open:** in which visits they were begun, and that the
innermost one has not opened its body exactly if the survey is in a header. -/
structure TellsClasses (stream : TokenStream) (defines : Bool) (s : SurveyState) : Prop where
  onTheWay : OnTheWay stream defines s
  begun : ∀ c ∈ s.contexts, ∃ k, c.BegunIn stream (Survey.of stream defines).visits s.cursor k
  header : (∃ top ∈ s.context?, top.depth = 0)
    ↔ InClassHeader stream (Survey.of stream defines).visits s.cursor

namespace TellsClasses

/-- Where a survey begins no class is open, and none has been visited. -/
theorem start (stream : TokenStream) (defines : Bool) :
    TellsClasses stream defines (startState stream) := by
  have hnone : (startState stream).contexts = [] := by
    unfold startState
    dsimp only
    split <;> rfl
  refine ⟨OnTheWay.start stream defines, fun c hc => ?_, ?_⟩
  · rw [hnone] at hc
    cases hc
  · rw [SurveyState.context?, hnone]
    constructor
    · rintro ⟨top, htop, -⟩
      cases htop
    · rintro ⟨k, hk, hbefore, -⟩
      have hle := le_cursor_of_mem_visitsFrom (s := startState stream) hk
      omega

/-- A token that neither begins a class nor is a brace leaves the classes as they are. -/
theorem after_same (h : TellsClasses stream defines s) (hlt : s.cursor < stream.size)
    (hcontexts : (step stream defines s).1.contexts = s.contexts)
    (hother : ∀ kind ∈ stream.kind? s.cursor, kind ≠ .classWord ∧ kind ≠ .interfaceWord
      ∧ kind ≠ .openBrace ∧ kind ≠ .closeBrace) :
    TellsClasses stream defines (visit stream defines s).after := by
  have hafter : (visit stream defines s).after.contexts = s.contexts := by
    rw [DocCoverage.after_visit, SurveyState.contexts_release, hcontexts]
  refine ⟨h.onTheWay.after_visit hlt, fun c hc => ?_, ?_⟩
  · rw [hafter] at hc
    obtain ⟨k, hk⟩ := h.begun c hc
    have hopen : stream.kind? s.cursor ≠ some .openBrace := fun hkind => (hother _ hkind).2.2.1 rfl
    exact ⟨k, hk.passed h.onTheWay hlt hopen rfl Iff.rfl⟩
  · rw [inClassHeader_after_iff h.onTheWay hlt hother, ← h.header, SurveyState.context?,
      SurveyState.context?, hafter]

/-- **Every visit keeps to what the way tells.** -/
theorem after_visit (h : TellsClasses stream defines s) (hlt : s.cursor < stream.size) :
    TellsClasses stream defines (visit stream defines s).after := by
  have hway := h.onTheWay
  have hnested := hway.sound.nested
  have hcontexts : (visit stream defines s).after.contexts = (step stream defines s).1.contexts := by
    rw [DocCoverage.after_visit, SurveyState.contexts_release]
  cases turn_of_step stream defines s with
  | context declaration keyword hkeyword hstep =>
    have hclass := hkeyword.imp And.right And.right
    obtain ⟨context, next, hbegins, -, hdepth, -⟩ := stepContext_begins stream s declaration keyword
    have hentered : (visit stream defines s).after.contexts = (s.enter context).contexts := by
      rw [hcontexts, hstep, hbegins, SurveyState.contexts_claim]
      rfl
    refine ⟨hway.after_visit hlt, fun c hc => ?_, ?_⟩
    · rw [hentered] at hc
      rcases SurveyState.mem_contexts_of_enter hc with rfl | hbefore
      · have hcheck : .check (Check.run stream declaration s.cursor c.name c.line none)
            ∈ (step stream defines s).2 := by
          rw [hstep, hbegins]
          exact List.mem_cons_self
        have hdeclaration : declaration = .classDecl ∨ declaration = .interfaceDecl :=
          hkeyword.imp And.left And.left
        exact ⟨_, Context.begunIn_visit hway hlt hcheck rfl hdeclaration hdepth⟩
      · obtain ⟨k, hk⟩ := h.begun c hbefore
        have hopen : stream.kind? s.cursor ≠ some .openBrace := by
          rcases hclass with hkind | hkind <;> rw [hkind] <;> decide
        exact ⟨k, hk.passed hway hlt hopen rfl Iff.rfl⟩
    · have htop : (visit stream defines s).after.context? = some context := by
        rw [← s.context?_enter context, SurveyState.context?, hentered, SurveyState.context?]
      have hin := inClassHeader_of_keyword hway hlt hclass
      exact ⟨fun _ => hin, fun _ => ⟨context, htop, hdepth⟩⟩
  | function keyword hkind hstep =>
    apply h.after_same hlt
    · rw [hstep]
      exact SurveyState.contexts_stepFunction stream s keyword
    · rw [hkind]
      rintro kind ⟨⟩
      decide
  | openBrace hkind hstep =>
    have hopened : (visit stream defines s).after.contexts = s.openBrace.contexts := by
      rw [hcontexts, hstep]
      rfl
    refine ⟨hway.after_visit hlt, fun c' hc' => ?_, ?_⟩
    · rw [hopened] at hc'
      obtain ⟨c, hc, hname, hdepth⟩ := SurveyState.exists_of_mem_openBrace hnested hc'
      obtain ⟨k, hk⟩ := h.begun c hc
      exact ⟨k, hk.passedOpening hway hlt hkind hname hdepth⟩
    · have hout := not_inClassHeader_of_brace hway hlt (Or.inl hkind)
      constructor
      · rintro ⟨top, htop, hzero⟩
        rw [SurveyState.context?, hopened] at htop
        have hge := SurveyState.opened_openBrace hnested.innermost top htop
        omega
      · intro hin
        exact absurd hin hout
  | closeBrace hkind hstep =>
    have hclosed : (visit stream defines s).after.contexts = s.closeBrace.contexts := by
      rw [hcontexts, hstep]
      rfl
    refine ⟨hway.after_visit hlt, fun c' hc' => ?_, ?_⟩
    · rw [hclosed] at hc'
      obtain ⟨c, hc, hname, hdepth⟩ := SurveyState.exists_of_mem_closeBrace hc'
      obtain ⟨k, hk⟩ := h.begun c hc
      exact ⟨k, hk.passed hway hlt (by rw [hkind]; decide) hname hdepth⟩
    · have hout := not_inClassHeader_of_brace hway hlt (Or.inr hkind)
      constructor
      · rintro ⟨top, htop, hzero⟩
        rw [SurveyState.context?, hclosed] at htop
        have hge := SurveyState.opened_closeBrace hnested top htop
        omega
      · intro hin
        exact absurd hin hout
  | plain hplain hbare =>
    apply h.after_same hlt
    · have hsame : (step stream defines s).1.bare.contexts = s.advance.bare.contexts :=
        congrArg SurveyState.contexts hbare
      exact hsame
    · intro kind hkind
      have hno := hplain kind hkind
      refine ⟨?_, ?_, ?_, ?_⟩ <;> rintro rfl <;> cases hno

/-- What the way tells before each visit of a survey. -/
theorem of_mem {w : Visit} (hw : w ∈ (Survey.of stream defines).visits) :
    TellsClasses stream defines w.before :=
  (forall_visitsFrom (fun _ hlt hs => hs.after_visit hlt) (startState stream)
    (start stream defines) w hw).2.2

end TellsClasses

/-! ## Members -/

/-- A property or a class constant is looked at within the innermost class. -/
theorem enclosing_of_step {c : Check} (h : .check c ∈ (step stream defines s).2)
    (hmember : c.declaration = .classVariable ∨ c.declaration = .classConstant) :
    ∃ top, s.context? = some top ∧ c.enclosing = some top.name := by
  have hinnermost : s.contexts.isEmpty = false → c.enclosing = s.enclosing? →
      ∃ top, s.context? = some top ∧ c.enclosing = some top.name := by
    intro hinside henclosing
    rcases hcontexts : s.contexts with _ | ⟨top, outer⟩
    · rw [hcontexts] at hinside
      cases hinside
    · have htop : s.context? = some top := by
        rw [SurveyState.context?, hcontexts]
        rfl
      refine ⟨top, htop, ?_⟩
      rw [henclosing, SurveyState.enclosing?, htop]
      rfl
  obtain ⟨t, -, hchecked⟩ := checked_of_step h
  cases hchecked with
  | context declaration hdeclaration hstep =>
    rw [hstep] at h
    rw [declaration_of_stepContext h] at hmember
    rcases hdeclaration with rfl | rfl <;> rcases hmember with hno | hno <;> cases hno
  | function hdeclaration =>
    rw [hdeclaration] at hmember
    rcases hmember with hno | hno <;> cases hno
  | property hinside houtside hcheck =>
    exact hinnermost hinside (by rw [hcheck]; rfl)
  | classConstant name hname hinside hcheck =>
    exact hinnermost hinside (by rw [hcheck]; rfl)
  | constant name hdefines hclasses houtside hcheck =>
    rw [hcheck] at hmember
    rcases hmember with hno | hno <;> cases hno

/-- In a class a variable is looked at, unless it is in a function's body. -/
theorem property_of_variable (hkind : stream.kind? s.cursor = some .variableName)
    (hinside : s.contexts.isEmpty = false) (houtside : s.functionNesting ≤ 0) :
    ∃ c, .check c ∈ (step stream defines s).2 ∧ c.declaration = .classVariable := by
  obtain ⟨t, hat, ht⟩ := Option.map_eq_some_iff.1 hkind
  have hstep : step stream defines s = stepVariable stream s t := by
    unfold step
    rw [hat]
    dsimp only
    rw [ht]
  rw [hstep, stepVariable, hinside, if_pos (by simp [houtside])]
  exact ⟨_, List.mem_singleton_self _, rfl⟩

/-- **Members are looked at in opened bodies and in headers.** A property or a class constant is
attributed to the innermost class. The class was begun in a visit of its keyword, and its depth is at
least one exactly if the opening brace of its body was visited since; that is so everywhere but in a
header. In a header a variable is looked at as a property all the same, unless it is in a function's
body. -/
theorem members_in_bodies_and_headers (stream : TokenStream) (defines : Bool) :
    let visits := (Survey.of stream defines).visits
    (∀ w ∈ visits, ∀ c, .check c ∈ w.events →
        c.declaration = .classVariable ∨ c.declaration = .classConstant →
        ∃ top k, w.before.context? = some top ∧ c.enclosing = some top.name
          ∧ top.BegunIn stream visits w.before.cursor k
          ∧ (1 ≤ top.depth ↔ ¬ InClassHeader stream visits w.before.cursor))
      ∧ ∀ w ∈ visits, stream.kind? w.before.cursor = some .variableName →
        InClassHeader stream visits w.before.cursor →
        ((∃ c, .check c ∈ w.events ∧ c.declaration = .classVariable)
          ↔ w.before.functionNesting ≤ 0) := by
  intro visits
  constructor
  · intro w hw c hcheck hmember
    have htells := TellsClasses.of_mem hw
    rw [(OnTheWay.of_mem hw).1] at hcheck
    obtain ⟨top, htop, henclosing⟩ := enclosing_of_step hcheck hmember
    obtain ⟨k, hk⟩ := htells.begun top (List.mem_of_mem_head? htop)
    refine ⟨top, k, htop, henclosing, hk, ?_⟩
    -- the depth is never below zero, and zero in a header only
    have hge : 0 ≤ top.depth := htells.onTheWay.sound.nested.innermost top htop
    rw [← htells.header]
    constructor
    · rintro hopened ⟨other, hother, hzero⟩
      obtain rfl := Option.some.inj (htop.symm.trans hother)
      omega
    · intro hout
      by_contra hclosed
      exact hout ⟨top, htop, by omega⟩
  · intro w hw hkind hin
    have htells := TellsClasses.of_mem hw
    have hevents : w.events = (step stream defines w.before).2 :=
      congrArg Visit.events (OnTheWay.of_mem hw).1
    rw [hevents]
    constructor
    · rintro ⟨c, hcheck, hproperty⟩
      by_contra hbody
      exact (declaration_of_step_of_pos (by omega) hcheck).1 hproperty
    · intro houtside
      obtain ⟨top, htop, -⟩ := htells.header.2 hin
      have hinside : w.before.contexts.isEmpty = false := by
        cases hcontexts : w.before.contexts with
        | nil =>
          rw [SurveyState.context?, hcontexts] at htop
          cases htop
        | cons first outer => rfl
      exact property_of_variable hkind hinside houtside

/-- A property in the body of its class: the opening brace was visited before it. -/
theorem members_in_bodies_and_headers_of_class :
    let stream := TokenStream.ofSource "<?php class A \x7b var $x; \x7d"
    let visits := (Survey.of stream false).visits
    ∃ w ∈ visits, .check ⟨.classVariable, 9, "$x", 1, some "A", none⟩ ∈ w.events
      ∧ ∃ top k, w.before.context? = some top ∧ top.name = "A"
        ∧ top.BegunIn stream visits w.before.cursor k ∧ 1 ≤ top.depth := by
  intro stream visits
  obtain ⟨w, hw, hcheck, hdepth⟩ : ∃ w ∈ visits,
      .check ⟨.classVariable, 9, "$x", 1, some "A", none⟩ ∈ w.events
        ∧ ∀ top ∈ w.before.context?, 1 ≤ top.depth := by
    decide +kernel
  obtain ⟨top, k, htop, henclosing, hbegun, -⟩ :=
    (members_in_bodies_and_headers stream false).1 w hw _ hcheck (Or.inl rfl)
  exact ⟨w, hw, hcheck, top, k, htop, (Option.some.inj henclosing).symm, hbegun, hdepth top htop⟩

/-- **A property that is none:** the argument for the constructor of an anonymous class is looked at
before the body of the class is opened. -/
theorem property_in_header :
    let stream := TokenStream.ofSource "<?php new class($x) \x7b\x7d;"
    ∃ w ∈ (Survey.of stream false).visits,
      .check ⟨.classVariable, 5, "$x", 1, some anonymousClass, none⟩ ∈ w.events
        ∧ ∃ top ∈ w.before.context?, top.depth = 0 ∧ top.name = anonymousClass := by
  decide +kernel

end DocCoverage
