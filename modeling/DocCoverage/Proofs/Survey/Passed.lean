/-
No declaration is lost. A survey does not come to every token: behind the keyword of a class it jumps
to the name, and behind that of a function to the body. What lies between is passed over, and a jump
that went too far would drop the declarations there, while one that stopped short would take the
parameters of a function for properties.

Neither happens. The places that are passed over are the white space before the name of a class and
the header of a function, and nothing else; and of classes, interfaces and functions as many are
counted as there are keywords visited, whatever stands around them.
-/
import DocCoverage.Proofs.Survey.FunctionBody
import DocCoverage.Proofs.Survey.Lines

set_option autoImplicit false

namespace DocCoverage

variable {stream : TokenStream} {defines : Bool} {s : SurveyState} {declaration : Declaration}

/-! ## What a survey passes over -/

/-- The function keyword in a place imports a function: the nearest token before it that is not white
space is the word `use`. -/
def ImportsFunction (stream : TokenStream) (place : Int) : Prop :=
  ∃ (j : Int) (t : Token), j < place ∧ stream.at? j = some t ∧ t.isWord "use" = true
    ∧ ∀ k, j < k → k < place → stream.kind? k = some .whitespace

/-- The place holds white space between the keyword of a class or an interface, which the visit is
of, and the identifier that names it. -/
structure PassedToName (stream : TokenStream) (v : Visit) (i : Int) : Prop where
  keyword : stream.kind? v.before.cursor = some .classWord
    ∨ stream.kind? v.before.cursor = some .interfaceWord
  behind : v.before.cursor < i
  blank : stream.kind? i = some .whitespace
  named : ∃ (j : Int) (name : Token) (c : Check), i < j ∧ stream.at? j = some name
    ∧ name.kind = .identifier
    ∧ (∀ k, v.before.cursor < k → k < j → stream.kind? k = some .whitespace)
    ∧ .check c ∈ v.events ∧ c.name = name.text

/-- The place is in the header of a function, the keyword of which the visit is of. -/
structure PassedInHeader (stream : TokenStream) (v : Visit) (i : Int) : Prop where
  keyword : stream.kind? v.before.cursor = some .functionWord
  declares : ¬ ImportsFunction stream v.before.cursor
  behind : v.before.cursor < i
  before_body : i < bodyFrom stream 0 (v.before.cursor + 1)

/-- **The place is passed over** in a visit. -/
def PassedOver (stream : TokenStream) (v : Visit) (i : Int) : Prop :=
  PassedToName stream v i ∨ PassedInHeader stream v i

/-- An import is recognised by the nearest token before the keyword. -/
theorem isFunctionImport_iff {place : Int} :
    isFunctionImport stream place = true ↔ ImportsFunction stream place := by
  unfold isFunctionImport
  rw [Option.any_eq_true]
  constructor
  · rintro ⟨t, hat, huse⟩
    obtain ⟨hle, hblank⟩ := blank_of_skipBlankBackward stream place
    refine ⟨stream.skipBlankBackward place - 1, t, by omega, hat, huse, ?_⟩
    intro k hbehind hbefore
    exact hblank k (by omega) hbefore
  · rintro ⟨j, t, hlt, hat, huse, hblank⟩
    have hword : t.kind = .identifier := by
      simp only [Token.isWord, Bool.and_eq_true, beq_iff_eq] at huse
      exact huse.1
    have hother : stream.kind? j ≠ some .whitespace := by
      rw [TokenStream.kind?, hat, Option.map_some, hword]
      decide
    have hback : stream.skipBlankBackward place = j + 1 := skipBlankBackward_eq hlt hother hblank
    refine ⟨t, ?_, huse⟩
    rw [hback, show j + 1 - 1 = j by omega]
    exact hat

instance (stream : TokenStream) (place : Int) : Decidable (ImportsFunction stream place) :=
  decidable_of_iff _ isFunctionImport_iff

/-- A keyword that imports nothing is not recognised as an import. -/
theorem isFunctionImport_eq_false {place : Int} (h : ¬ ImportsFunction stream place) :
    isFunctionImport stream place = false := by
  rw [← isFunctionImport_iff] at h
  exact Bool.eq_false_iff.2 h

/-- Going on over white space stops at the first token of another class. -/
theorem skipBlankForward_eq_of_blank {index j : Int} (hlt : index < j)
    (hother : stream.kind? j ≠ some .whitespace)
    (hblank : ∀ k, index < k → k < j → stream.kind? k = some .whitespace) :
    stream.skipBlankForward index = j := by
  have hpassed := lt_skipBlankForward stream index
  rcases Int.lt_trichotomy (stream.skipBlankForward index) j with hshort | heq | hfar
  -- it does not stop short, where there still is white space
  · have hstop : stream.kind? (stream.skipBlankForward index) ≠ some .whitespace := by
      clear hpassed hshort hblank hlt
      induction index using TokenStream.skipBlankForward.induct stream with
      | case1 index hkind ih =>
        rw [TokenStream.skipBlankForward, dif_pos hkind]
        exact ih
      | case2 index hkind =>
        rw [TokenStream.skipBlankForward, dif_neg hkind]
        exact hkind
    exact absurd (hblank _ hpassed hshort) hstop
  · exact heq
  -- nor does it go too far, since what it passes is white space
  · exact absurd (blank_of_skipBlankForward hlt hfar) hother

/-- **From the keyword of a class** a survey goes to the name that white space leads to, or else to
the next token. -/
theorem cursor_stepContext (stream : TokenStream) (s : SurveyState) (declaration : Declaration)
    (keyword : Token) :
    (∃ (name : Token) (c : Check), stream.at? (stream.skipBlankForward s.cursor) = some name
        ∧ name.kind = .identifier
        ∧ .check c ∈ (stepContext stream s declaration keyword).2 ∧ c.name = name.text
        ∧ (stepContext stream s declaration keyword).1.cursor = stream.skipBlankForward s.cursor)
      ∨ stream.kind? (stream.skipBlankForward s.cursor) ≠ some .identifier
        ∧ (stepContext stream s declaration keyword).1.cursor = s.cursor + 1 := by
  unfold stepContext TokenStream.kind?
  dsimp only
  rw [SurveyState.cursor_claim, SurveyState.cursor_moveTo]
  rcases stream.at? (stream.skipBlankForward s.cursor) with _ | name
  · right
    exact ⟨nofun, rfl⟩
  by_cases hname : name.kind = .identifier
  · left
    simp only [if_pos hname]
    exact ⟨name, _, rfl, hname, List.mem_cons_self, rfl, trivial⟩
  · right
    simp only [if_neg hname]
    exact ⟨fun h => hname (Option.some.inj h), trivial⟩

/-- From the keyword of a function that is declared a survey goes to the body. -/
theorem cursor_stepFunction (s : SurveyState) (keyword : Token)
    (hdeclares : ¬ ImportsFunction stream s.cursor) :
    (stepFunction stream s keyword).1.cursor = bodyFrom stream 0 (s.cursor + 1) := by
  obtain ⟨line, hbegins⟩ :=
    stepFunction_begins stream s keyword (isFunctionImport_eq_false hdeclares)
  rw [hbegins, SurveyState.cursor_claim, SurveyState.cursor_moveTo]

/-- An import is passed over like any word. -/
theorem stepFunction_of_import (s : SurveyState) (keyword : Token)
    (himport : ImportsFunction stream s.cursor) :
    stepFunction stream s keyword = (s.advance, []) := by
  rw [stepFunction, if_pos (isFunctionImport_iff.2 himport)]

/-- The cursor behind a visit is where the step went. -/
theorem cursor_after_visit (s : SurveyState) :
    (visit stream defines s).after.cursor = (step stream defines s).1.cursor := by
  rw [after_visit, SurveyState.cursor_release]

section Visit

variable {v : Visit} {keyword : Token} {i : Int}

/-- **At the keyword of a class** the places passed over are those before the next visit. -/
theorem passedToName_iff (hv : v = visit stream defines s)
    (hkeyword : stream.kind? s.cursor = some .classWord
      ∨ stream.kind? s.cursor = some .interfaceWord)
    (hstep : step stream defines s = stepContext stream s declaration keyword) :
    PassedToName stream v i ↔ s.cursor < i ∧ i < v.after.cursor := by
  have hplace : v.before.cursor = s.cursor := by rw [hv]; rfl
  have hafter : v.after.cursor = (stepContext stream s declaration keyword).1.cursor := by
    rw [hv, cursor_after_visit, hstep]
  have hevents : v.events = (stepContext stream s declaration keyword).2 := by
    rw [hv, visit, hstep]
  -- a name that white space leads to is the token that is found
  have hfound : PassedToName stream v i → ∃ j, i < j ∧ stream.skipBlankForward s.cursor = j
      ∧ stream.kind? j = some .identifier := by
    intro h
    obtain ⟨j, name, -, hi, hj, hword, hblank, -⟩ := h.named
    have hkind : stream.kind? j = some .identifier := by
      rw [TokenStream.kind?, hj, Option.map_some, hword]
    have hbehind := h.behind
    rw [hplace] at hbehind hblank
    exact ⟨j, hi, skipBlankForward_eq_of_blank (by omega) (by rw [hkind]; decide) hblank, hkind⟩
  rw [hafter]
  constructor
  · intro h
    obtain ⟨j, hi, heq, hkind⟩ := hfound h
    refine ⟨hplace ▸ h.behind, ?_⟩
    rcases cursor_stepContext stream s declaration keyword with
      ⟨_, _, _, _, _, _, hcursor⟩ | ⟨hnone, -⟩
    · omega
    · exact absurd (heq ▸ hkind) hnone
  · rintro ⟨hbehind, hbefore⟩
    rcases cursor_stepContext stream s declaration keyword with
      ⟨name, c, hname, hword, hcheck, hcalled, hcursor⟩ | ⟨-, hcursor⟩
    · rw [hcursor] at hbefore
      have hblank : ∀ k, v.before.cursor < k → k < stream.skipBlankForward s.cursor →
          stream.kind? k = some .whitespace := by
        intro k hk hk'
        exact blank_of_skipBlankForward (by omega) hk'
      exact {
        keyword := by rw [hplace]; exact hkeyword
        behind := by omega
        blank := hblank i (by omega) hbefore
        named := by
          rw [← hevents] at hcheck
          exact ⟨_, name, c, hbefore, hname, hword, hblank, hcheck, hcalled⟩ }
    · omega

/-- **At the keyword of a function** the places passed over are those before the next visit. -/
theorem passedInHeader_iff (hv : v = visit stream defines s)
    (hkeyword : stream.kind? s.cursor = some .functionWord)
    (hstep : step stream defines s = stepFunction stream s keyword) :
    PassedInHeader stream v i ↔ s.cursor < i ∧ i < v.after.cursor := by
  have hplace : v.before.cursor = s.cursor := by rw [hv]; rfl
  have hafter : v.after.cursor = (stepFunction stream s keyword).1.cursor := by
    rw [hv, cursor_after_visit, hstep]
  rw [hafter]
  by_cases himport : ImportsFunction stream s.cursor
  -- an import is one token, and nothing is passed over with it
  · rw [stepFunction_of_import s keyword himport]
    constructor
    · intro h
      exact absurd (hplace ▸ himport) h.declares
    · rintro ⟨hbehind, hbefore⟩
      have hnext : i < s.cursor + 1 := hbefore
      omega
  · rw [cursor_stepFunction s keyword himport, ← hplace]
    constructor
    · intro h
      exact ⟨h.behind, h.before_body⟩
    · rintro ⟨hbehind, hbefore⟩
      exact ⟨hplace ▸ hkeyword, hplace ▸ himport, hbehind, hbefore⟩

/-- At any other token nothing is passed over. -/
theorem not_passedOver (hclass : stream.kind? v.before.cursor ≠ some .classWord)
    (hinterface : stream.kind? v.before.cursor ≠ some .interfaceWord)
    (hfunction : stream.kind? v.before.cursor ≠ some .functionWord) : ¬ PassedOver stream v i := by
  rintro (hname | hheader)
  · rcases hname.keyword with h | h
    · exact hclass h
    · exact hinterface h
  · exact hfunction hheader.keyword

end Visit

/-- **Between one visit and the next** lie exactly the places that are passed over in the first. -/
theorem passedOver_visit_iff (stream : TokenStream) (defines : Bool) (s : SurveyState) (i : Int) :
    PassedOver stream (visit stream defines s) i
      ↔ s.cursor < i ∧ i < (visit stream defines s).after.cursor := by
  -- where the survey goes on by one, there is no place between
  have hnext : (step stream defines s).1.cursor = s.cursor + 1 →
      ¬ PassedOver stream (visit stream defines s) i →
      (PassedOver stream (visit stream defines s) i
        ↔ s.cursor < i ∧ i < (visit stream defines s).after.cursor) := by
    intro hcursor hnone
    rw [cursor_after_visit, hcursor]
    constructor
    · intro h
      exact absurd h hnone
    · intro h
      omega
  have hother : stream.kind? s.cursor ≠ some .classWord → stream.kind? s.cursor ≠ some .interfaceWord →
      stream.kind? s.cursor ≠ some .functionWord → ¬ PassedOver stream (visit stream defines s) i :=
    not_passedOver (v := visit stream defines s)
  cases turn_of_step stream defines s with
  | context d keyword hkeyword hstep =>
    have hclass := hkeyword.imp And.right And.right
    have hheader : ¬ PassedInHeader stream (visit stream defines s) i := by
      intro h
      have hfunction : stream.kind? s.cursor = some .functionWord := h.keyword
      rcases hclass with h' | h' <;> rw [h'] at hfunction <;> cases hfunction
    rw [PassedOver, or_iff_left hheader]
    exact passedToName_iff rfl hclass hstep
  | function keyword hkind hstep =>
    have hname : ¬ PassedToName stream (visit stream defines s) i := by
      intro h
      have hclass : stream.kind? s.cursor = some .classWord
          ∨ stream.kind? s.cursor = some .interfaceWord := h.keyword
      rw [hkind] at hclass
      rcases hclass with h' | h' <;> cases h'
    rw [PassedOver, or_iff_right hname]
    exact passedInHeader_iff rfl hkind hstep
  | openBrace hkind hstep =>
    apply hnext
    · rw [hstep]
      rfl
    · apply hother <;> rw [hkind] <;> decide
  | closeBrace hkind hstep =>
    apply hnext
    · rw [hstep]
      rfl
    · apply hother <;> rw [hkind] <;> decide
  | plain hplain hbare =>
    apply hnext
    · exact congrArg SurveyState.cursor hbare
    · apply hother <;> exact fun hkind => absurd (hplain _ hkind) (by decide)

/-- **Every place from a state on is visited, or passed over** in a visit. -/
theorem exists_passedOver {i : Int} (s : SurveyState) (hge : s.cursor ≤ i) (hlt : i < stream.size)
    (hnever : ∀ v ∈ visitsFrom stream defines s, v.before.cursor ≠ i) :
    ∃ v ∈ visitsFrom stream defines s, PassedOver stream v i := by
  induction s using visitsFrom.induct stream defines with
  | case1 s hin v ih =>
    rw [visitsFrom, if_pos hin] at hnever ⊢
    obtain ⟨hhere, hlater⟩ := List.forall_mem_cons.1 hnever
    have hbehind : s.cursor < i := by
      have hne : s.cursor ≠ i := hhere
      omega
    rcases Int.lt_or_le i v.after.cursor with hpassed | hnext
    · have hover : PassedOver stream v i :=
        (passedOver_visit_iff stream defines s i).2 ⟨hbehind, hpassed⟩
      exact ⟨v, List.mem_cons_self, hover⟩
    · obtain ⟨w, hw, hover⟩ := ih hnext hlater
      exact ⟨w, List.mem_cons_of_mem v hw, hover⟩
  | case2 s hend => omega

/-- **What is passed over is never visited.** -/
theorem ne_cursor_of_passedOver {v w : Visit} {i : Int}
    (hv : v ∈ (Survey.of stream defines).visits) (hw : w ∈ (Survey.of stream defines).visits)
    (hover : PassedOver stream v i) : w.before.cursor ≠ i := by
  obtain ⟨hvisit, hlt, hway⟩ := OnTheWay.of_mem hv
  rw [hvisit, passedOver_visit_iff] at hover
  obtain ⟨hbehind, hbefore⟩ := hover
  rintro rfl
  have hle := (hway.lt_after_iff hlt hw).1 hbefore
  omega

/-! ## What a survey counts -/

/-- **A declaration begins in a place:** the keyword of a class, an interface or a function is there,
and it does not import a function. No keyword of its own begins any other declaration. -/
def Declaration.BeginsAt (stream : TokenStream) (place : Int) : Declaration → Prop
  | .classDecl => stream.kind? place = some .classWord
  | .interfaceDecl => stream.kind? place = some .interfaceWord
  | .function => stream.kind? place = some .functionWord ∧ ¬ ImportsFunction stream place
  | .classVariable | .classConstant | .constant => False

instance (stream : TokenStream) (place : Int) :
    (declaration : Declaration) → Decidable (declaration.BeginsAt stream place)
  | .classDecl => inferInstanceAs (Decidable (stream.kind? place = some .classWord))
  | .interfaceDecl => inferInstanceAs (Decidable (stream.kind? place = some .interfaceWord))
  | .function =>
    inferInstanceAs
      (Decidable (stream.kind? place = some .functionWord ∧ ¬ ImportsFunction stream place))
  | .classVariable | .classConstant | .constant => inferInstanceAs (Decidable False)

/-- Where a class, an interface or a function begins, a survey turns. -/
theorem isTurn_of_beginsAt {place : Int} (h : declaration.BeginsAt stream place) :
    ∃ kind, stream.kind? place = some kind ∧ kind ≠ .openBrace ∧ kind ≠ .closeBrace
      ∧ kind.isTurn = true := by
  cases declaration with
  | classDecl => exact ⟨.classWord, h, by decide, by decide, rfl⟩
  | interfaceDecl => exact ⟨.interfaceWord, h, by decide, by decide, rfl⟩
  | function => exact ⟨.functionWord, h.1, by decide, by decide, rfl⟩
  | classVariable | classConstant | constant => exact absurd h id

/-- The checks among what is noticed at a class keyword: the one of the class. -/
theorem checks_stepContext (stream : TokenStream) (s : SurveyState) (declaration : Declaration)
    (keyword : Token) :
    ∃ c, (stepContext stream s declaration keyword).2.filterMap Event.check? = [c]
      ∧ c.declaration = declaration := by
  obtain ⟨context, next, hbegins, -⟩ := stepContext_begins stream s declaration keyword
  refine ⟨Check.run stream declaration s.cursor context.name context.line none, ?_, rfl⟩
  rw [hbegins]
  by_cases hreplaced : s.replaced?.isSome = true
  · rw [if_pos hreplaced]
    rfl
  · rw [if_neg hreplaced]
    rfl

/-- The checks among what is noticed at the keyword of a function that is declared: the one of the
function. -/
theorem checks_stepFunction (s : SurveyState) (keyword : Token)
    (hdeclares : ¬ ImportsFunction stream s.cursor) :
    ∃ c, (stepFunction stream s keyword).2.filterMap Event.check? = [c]
      ∧ c.declaration = .function := by
  obtain ⟨line, hbegins⟩ :=
    stepFunction_begins stream s keyword (isFunctionImport_eq_false hdeclares)
  rw [hbegins]
  exact ⟨_, rfl, rfl⟩

/-- **A step looks at a class, an interface or a function where it begins,** once, and nowhere
else. -/
theorem countP_checks_step (stream : TokenStream) (defines : Bool) (s : SurveyState)
    (hmember : declaration.isMember = false) :
    ((step stream defines s).2.filterMap Event.check?).countP (·.declaration == declaration)
      = if declaration.BeginsAt stream s.cursor then 1 else 0 := by
  have hnone : ∀ kind, stream.kind? s.cursor = some kind →
      kind = .openBrace ∨ kind = .closeBrace ∨ kind.isTurn = false →
      ¬ declaration.BeginsAt stream s.cursor := by
    intro kind hkind hother hbegins
    obtain ⟨kind', hkind', hopen, hclose, hturn⟩ := isTurn_of_beginsAt hbegins
    have heq : kind = kind' := Option.some.inj (hkind.symm.trans hkind')
    rw [heq, hturn] at hother
    rcases hother with h | h | h
    · exact hopen h
    · exact hclose h
    · cases h
  cases turn_of_step stream defines s with
  | context d keyword hkeyword hstep =>
    obtain ⟨c, hchecks, hdeclaration⟩ := checks_stepContext stream s d keyword
    have hbegins : declaration.BeginsAt stream s.cursor ↔ d = declaration := by
      rcases hkeyword with ⟨rfl, hkind⟩ | ⟨rfl, hkind⟩ <;> cases declaration <;>
        simp [Declaration.BeginsAt, hkind]
    rw [hstep, hchecks, List.countP_singleton, hdeclaration]
    simp [hbegins]
  | function keyword hkind hstep =>
    have hbegins : declaration.BeginsAt stream s.cursor
        ↔ declaration = .function ∧ ¬ ImportsFunction stream s.cursor := by
      cases declaration <;> simp [Declaration.BeginsAt, hkind]
    by_cases himport : ImportsFunction stream s.cursor
    · rw [hstep, stepFunction_of_import s keyword himport]
      simp [hbegins, himport]
    · obtain ⟨c, hchecks, hdeclaration⟩ := checks_stepFunction s keyword himport
      rw [hstep, hchecks, List.countP_singleton, hdeclaration]
      by_cases hfunction : declaration = .function
      · subst hfunction
        simp [hbegins, himport]
      · have hne : Declaration.function ≠ declaration := Ne.symm hfunction
        simp [hbegins, hfunction, hne]
  | openBrace hkind hstep =>
    rw [hstep, if_neg (hnone _ hkind (Or.inl rfl))]
    rfl
  | closeBrace hkind hstep =>
    rw [hstep, if_neg (hnone _ hkind (Or.inr (Or.inl rfl)))]
    rfl
  | plain hplain hbare hmembers =>
    rw [if_neg, List.countP_eq_zero]
    · intro c hc heq
      have hc' := hmembers c (mem_filterMap_check?_iff.1 hc)
      rw [beq_iff_eq.1 heq, hmember] at hc'
      cases hc'
    · intro hbegins
      obtain ⟨kind, hkind, -, -, hturn⟩ := isTurn_of_beginsAt hbegins
      rw [hplain kind hkind] at hturn
      cases hturn

/-- **A run of steps** looks at as many classes, interfaces or functions as begin where it comes. -/
theorem countP_checksFrom (stream : TokenStream) (defines : Bool) (s : SurveyState)
    (hmember : declaration.isMember = false) :
    (checksFrom stream defines s).countP (·.declaration == declaration)
      = (visitsFrom stream defines s).countP
          (fun v => declaration.BeginsAt stream v.before.cursor) := by
  induction s using visitsFrom.induct stream defines with
  | case1 s hlt v ih =>
    rw [checksFrom_visit hlt, visitsFrom, if_pos hlt, List.countP_append, List.countP_cons,
      countP_checks_step stream defines s hmember, ih, Nat.add_comm]
    simp only [decide_eq_true_eq]
    rfl
  | case2 s hge =>
    rw [checksFrom_end (by omega), visitsFrom, if_neg hge]
    rfl

/-- A verdict raises the total of its own kind by one and no other. -/
theorem Counters.total_tally_add (c : Counters) (verdict : Verdict) (kind : EntityKind) :
    ((c.add verdict).tally kind).total
      = (c.tally kind).total + if verdict.kind == kind then 1 else 0 := by
  cases verdict with
  | documented other =>
    rw [Counters.add, Counters.tally_addFound]
    by_cases hkind : kind = other
    · subst hkind
      simp [Tally.total, Verdict.kind]
      omega
    · have hne : other ≠ kind := Ne.symm hkind
      simp [hkind, hne, Verdict.kind]
  | undocumented other line message =>
    rw [Counters.add, Counters.tally_addMissing]
    by_cases hkind : kind = other
    · subst hkind
      simp [Tally.total, Verdict.kind]
      omega
    · have hne : other ≠ kind := Ne.symm hkind
      simp [hkind, hne, Verdict.kind]

/-- **Verdicts raise the total of a kind** by as many as are on it. -/
theorem Counters.total_tally_foldl (verdicts : List Verdict) (c : Counters) (kind : EntityKind) :
    ((verdicts.foldl Counters.add c).tally kind).total
      = (c.tally kind).total + verdicts.countP (·.kind == kind) := by
  induction verdicts generalizing c with
  | nil => simp
  | cons verdict rest ih =>
    rw [List.foldl_cons, ih, Counters.total_tally_add, List.countP_cons]
    by_cases hkind : (verdict.kind == kind) = true
    · rw [if_pos hkind, if_pos hkind]
      omega
    · rw [if_neg hkind, if_neg hkind]
      omega

/-- The verdicts on a kind of declaration are as many as its checks. -/
theorem countP_verdicts (events : List Event) (declaration : Declaration) :
    (events.filterMap Event.verdict?).countP (·.kind == .declared declaration)
      = (events.filterMap Event.check?).countP (·.declaration == declaration) := by
  have hchecks :=
    congrArg (List.countP (·.kind == .declared declaration)) (verdicts_of_checks events)
  rw [List.countP_filter, List.countP_map] at hchecks
  calc (events.filterMap Event.verdict?).countP (·.kind == .declared declaration)
    _ = (events.filterMap Event.verdict?).countP
          (fun v => v.kind == .declared declaration && v.kind != .file) := by
      apply List.countP_congr
      intro v _
      cases hkind : v.kind <;> simp
    _ = (events.filterMap Event.check?).countP (·.declaration == declaration) := by
      rw [hchecks]
      apply List.countP_congr
      intro c _
      simp [kind_verdict]

/-! ## The whole survey -/

/-- **No declaration is lost, and none is counted twice.** Of the places from where a survey begins
on, those that no visit is of are exactly the ones passed over: white space between the keyword of a
class or an interface and its name, or the header of a function. The others are visited one after the
other. The tallies of classes, interfaces and functions are raised by as many as are visited of the
first two keywords, and of the third without the imports. And nothing is looked at in the header of a
function, so that no parameter is taken for a property. -/
theorem no_declaration_lost (stream : TokenStream) (defines : Bool) (file : String)
    (past : Journal) :
    let survey := Survey.of stream defines
    let notes : Journal := survey.events.map (Note.event file)
    let before := Journal.counters past
    let after := Journal.counters (past ++ notes)
    (∀ i, (startState stream).cursor ≤ i → i < stream.size →
        ((∀ v ∈ survey.visits, v.before.cursor ≠ i) ↔ ∃ v ∈ survey.visits, PassedOver stream v i))
      ∧ (survey.visits.map fun v => v.before.cursor).Pairwise (· < ·)
      ∧ (∀ declaration : Declaration, declaration.isMember = false →
          (after.tally (.declared declaration)).total
            = (before.tally (.declared declaration)).total
              + survey.visits.countP fun v => declaration.BeginsAt stream v.before.cursor)
      ∧ ∀ v ∈ survey.visits, ∀ i, PassedInHeader stream v i → ∀ c ∈ survey.checks, c.anchor ≠ i := by
  intro survey notes before after
  refine ⟨fun i hge hlt => ⟨fun hnever => ?_, ?_⟩, ?_, fun declaration hmember => ?_, ?_⟩
  · exact exists_passedOver (startState stream) hge hlt hnever
  · rintro ⟨v, hv, hover⟩ w hw
    exact ne_cursor_of_passedOver hv hw hover
  · exact pairwise_visitsFrom stream defines (startState stream)
  · have hafter : after = before.addEvents survey.events :=
      Journal.counters_append_events past file survey.events
    rw [hafter, Counters.addEvents, Counters.total_tally_foldl, countP_verdicts,
      ← Survey.checks_eq_filterMap, checks_eq_checksFrom, countP_checksFrom stream defines _ hmember]
    rfl
  · intro v hv i hheader c hc hanchor
    -- a check is made under the cursor, which no place in a header ever is
    obtain ⟨w, hw, -, hplace⟩ := exists_visit_of_check hc
    exact ne_cursor_of_passedOver hv hw (Or.inr hheader) (hplace.symm.trans hanchor)

/-- A class with a method: the parameter of the method, token 11, stands in its header. It is not
visited and not looked at, and one class and one function are counted. -/
theorem no_declaration_lost_of_method :
    let stream := TokenStream.ofSource "<?php class A \x7b function f($x) \x7b\x7d \x7d"
    let survey := Survey.of stream false
    let after := Journal.counters (survey.events.map (Note.event "a.php"))
    stream.kind? 11 = some .variableName
      ∧ (∀ v ∈ survey.visits, v.before.cursor ≠ 11) ∧ (∀ c ∈ survey.checks, c.anchor ≠ 11)
      ∧ (after.tally (.declared .classDecl)).total = 1
      ∧ (after.tally (.declared .function)).total = 1 := by
  intro stream survey after
  obtain ⟨hplaces, -, htotals, hheaders⟩ := no_declaration_lost stream false "a.php" []
  obtain ⟨v, hv, hkeyword, hdeclares, hbehind, hbefore⟩ : ∃ v ∈ survey.visits,
      stream.kind? v.before.cursor = some .functionWord ∧ ¬ ImportsFunction stream v.before.cursor
        ∧ v.before.cursor < 11 ∧ 11 < bodyFrom stream 0 (v.before.cursor + 1) := by
    decide +kernel
  have hheader : PassedInHeader stream v 11 := ⟨hkeyword, hdeclares, hbehind, hbefore⟩
  have hinside : (startState stream).cursor ≤ 11 ∧ (11 : Int) < stream.size := by decide +kernel
  have hkeywords :
      survey.visits.countP (fun v => Declaration.classDecl.BeginsAt stream v.before.cursor) = 1
        ∧ survey.visits.countP (fun v => Declaration.function.BeginsAt stream v.before.cursor) = 1 := by
    decide +kernel
  refine ⟨by decide +kernel, (hplaces 11 hinside.1 hinside.2).2 ⟨v, hv, Or.inr hheader⟩,
    hheaders v hv 11 hheader, ?_, ?_⟩
  · exact (htotals .classDecl rfl).trans (by rw [hkeywords.1]; rfl)
  · exact (htotals .function rfl).trans (by rw [hkeywords.2]; rfl)

end DocCoverage
