/-
Which words are checked as constants. Where calls of `define` are looked at, a constant is checked at
every visited word `define` that stands outside of classes and function bodies and has an opening
parenthesis behind it, and nowhere else.

What stands before the word plays no part. The reading of a file tells a keyword that names a member
from one that does not, but `define` is no keyword, so it is an identifier in both places, and a survey
does not look back from it. Hence a method of that name, called outside of classes and functions, is
checked as a constant; and only where one is called does a check follow an access operator.
-/
import DocCoverage.Proofs.Survey.Passed
import DocCoverage.Proofs.Token.Words

set_option autoImplicit false

namespace DocCoverage

open Text

variable {stream : TokenStream} {defines : Bool} {s : SurveyState}

/-! ## Calls of `define` -/

/-- The token is an identifier whose lower-case form is `define`. -/
def Token.SaysDefine (t : Token) : Prop := t.kind = .identifier ∧ lower t.text = "define"

/-- **A constant is defined at the cursor:** the word `define` stands there, white space leads from it
to an opening parenthesis, and no class or interface and no function body is open. -/
structure CallsDefine (stream : TokenStream) (s : SurveyState) : Prop where
  word : ∃ t, stream.at? s.cursor = some t ∧ t.SaysDefine
  argument : ∃ j, s.cursor < j ∧ stream.kind? j = some .openParen
    ∧ ∀ k, s.cursor < k → k < j → stream.kind? k = some .whitespace
  noClass : s.contexts = []
  noBody : s.functionNesting ≤ 0

/-- The word is recognised by its lower-case form in the full sense, which for its letters is that of
ASCII. -/
theorem Token.isWord_define_iff {t : Token} : t.isWord "define" = true ↔ t.SaysDefine := by
  rw [SaysDefine, lower_eq_iff (by simp [keywordLetters]), isWord, Bool.and_eq_true, beq_iff_eq,
    beq_iff_eq]

/-- What white space leads to is the next token of another class. -/
theorem kind?_skipBlankForward_iff {place : Int} {kind : TokenKind} (hkind : kind ≠ .whitespace) :
    stream.kind? (stream.skipBlankForward place) = some kind
      ↔ ∃ j, place < j ∧ stream.kind? j = some kind
        ∧ ∀ k, place < k → k < j → stream.kind? k = some .whitespace := by
  constructor
  · intro h
    exact ⟨_, lt_skipBlankForward stream place, h, fun k => blank_of_skipBlankForward⟩
  · rintro ⟨j, hlt, hj, hblank⟩
    have hother : stream.kind? j ≠ some .whitespace := by
      rw [hj]
      exact fun h => hkind (Option.some.inj h)
    rw [skipBlankForward_eq_of_blank hlt hother hblank, hj]

/-! ## One step -/

/-- At an identifier a constant is checked if it is defined there. -/
theorem constant_of_stepIdentifier {t : Token} (hat : stream.at? s.cursor = some t) :
    (∃ c, .check c ∈ (stepIdentifier stream defines s t).2 ∧ c.declaration = .constant)
      ↔ defines = true ∧ CallsDefine stream s := by
  have hcondition : (defines && t.isWord "define" && s.contexts.isEmpty && !s.inFunctionBody) = true
      ↔ defines = true ∧ t.SaysDefine ∧ s.contexts = [] ∧ s.functionNesting ≤ 0 := by
    simp [SurveyState.inFunctionBody, Token.isWord_define_iff, and_assoc]
  have hparen : stream.kind? (stream.skipBlankForward s.cursor) = some .openParen ↔ _ :=
    kind?_skipBlankForward_iff (by decide)
  unfold stepIdentifier
  dsimp only
  constructor
  · rintro ⟨c, hc, -⟩
    split at hc
    next hdefine =>
      split at hc
      next hopen =>
        obtain ⟨hdefines, hword, hclass, hbody⟩ := hcondition.1 hdefine
        exact ⟨hdefines, ⟨t, hat, hword⟩, hparen.1 hopen, hclass, hbody⟩
      next => cases hc
    next => cases hc
  · rintro ⟨hdefines, ⟨t', hat', hword⟩, hargument, hclass, hbody⟩
    obtain rfl := Option.some.inj (hat.symm.trans hat')
    rw [if_pos (hcondition.2 ⟨hdefines, hword, hclass, hbody⟩), if_pos (hparen.2 hargument)]
    exact ⟨_, List.mem_singleton_self _, rfl⟩

/-- **A step checks a constant** exactly where one is defined, if such calls are looked at. -/
theorem constant_of_step_iff :
    (∃ c, .check c ∈ (step stream defines s).2 ∧ c.declaration = .constant)
      ↔ defines = true ∧ CallsDefine stream s := by
  rcases hat : stream.at? s.cursor with _ | t
  · have hstep : step stream defines s = (s.advance, []) := by rw [step, hat]
    rw [hstep]
    constructor
    · rintro ⟨c, hc, -⟩
      cases hc
    · rintro ⟨-, ⟨t, hat', -⟩, -⟩
      rw [hat] at hat'
      cases hat'
  by_cases hkind : t.kind = .identifier
  · have hstep : step stream defines s = stepIdentifier stream defines s t := by
      rw [step, hat]
      dsimp only
      rw [hkind]
    rw [hstep]
    exact constant_of_stepIdentifier hat
  -- no other token is the anchor of a constant
  constructor
  · rintro ⟨c, hc, hconstant⟩
    exfalso
    unfold step at hc
    rw [hat] at hc
    dsimp only at hc
    split at hc
    next =>
      rw [declaration_of_stepContext hc] at hconstant
      cases hconstant
    next =>
      rw [declaration_of_stepContext hc] at hconstant
      cases hconstant
    next =>
      rw [declaration_of_stepFunction hc] at hconstant
      cases hconstant
    next =>
      unfold stepVariable at hc
      split at hc
      · rw [Event.check.inj (List.mem_singleton.1 hc)] at hconstant
        cases hconstant
      · cases hc
    next =>
      unfold stepConst at hc
      split at hc
      · cases hc
      · rw [Event.check.inj (List.mem_singleton.1 hc)] at hconstant
        cases hconstant
    next hword => exact hkind hword
    all_goals cases hc
  · rintro ⟨-, ⟨t', hat', hword, -⟩, -⟩
    obtain rfl := Option.some.inj (hat.symm.trans hat')
    exact absurd hword hkind

/-! ## A whole survey -/

/-- What a visit checks is checked by the survey. -/
theorem mem_checks_of_visit {v : Visit} {c : Check} (hv : v ∈ (Survey.of stream defines).visits)
    (hc : .check c ∈ v.events) : c ∈ (Survey.of stream defines).checks := by
  rw [checks_eq_checksFrom]
  exact List.mem_flatMap.2 ⟨v, hv, mem_filterMap_check?_iff.2 hc⟩

/-- **A survey checks a constant in a place** exactly if it looks at calls of `define` and visits one
there. -/
theorem constant_of_survey_iff {place : Int} :
    (∃ c ∈ (Survey.of stream defines).checks, c.declaration = .constant ∧ c.anchor = place)
      ↔ defines = true ∧ ∃ v ∈ (Survey.of stream defines).visits,
          v.before.cursor = place ∧ CallsDefine stream v.before := by
  have hevents : ∀ v ∈ (Survey.of stream defines).visits,
      v.events = (step stream defines v.before).2 := by
    intro v hv
    rw [(OnTheWay.of_mem hv).1]
    rfl
  constructor
  · rintro ⟨c, hc, hconstant, hanchor⟩
    obtain ⟨v, hv, hmade, hplace⟩ := exists_visit_of_check hc
    rw [hevents v hv] at hmade
    obtain ⟨hdefines, hcalls⟩ := constant_of_step_iff.1 ⟨c, hmade, hconstant⟩
    exact ⟨hdefines, v, hv, hplace.symm.trans hanchor, hcalls⟩
  · rintro ⟨hdefines, v, hv, rfl, hcalls⟩
    obtain ⟨c, hmade, hconstant⟩ := constant_of_step_iff.2 ⟨hdefines, hcalls⟩
    have hanchor := (lookedAt_of_mem hmade).anchor_eq
    rw [← hevents v hv] at hmade
    exact ⟨c, mem_checks_of_visit hv hmade, hconstant, hanchor⟩

/-- The word is no keyword, so what comes before it does not change its class. -/
theorem wordKind_define (previous : Option Token) {text : String} (h : lower text = "define") :
    wordKind previous text = .identifier := by
  have hother : ∀ entry ∈ keywords, entry.1 ≠ "define" := by decide
  apply wordKind_eq_identifier
  intro hkeyword
  exact hother _ hkeyword h

/-- **Which words are checked as constants.** In every file the word `define`, in any case, is an
identifier, whether it names a member or not. A constant is checked at exactly those of them that are
visited outside of classes and function bodies and have an opening parenthesis behind them, if such calls
are looked at at all. So no check of a constant follows an access operator exactly if no such call does:
a method of that name is checked like the function. -/
theorem constants_at_define_calls (source : String) (defines : Bool) :
    let stream := TokenStream.ofSource source
    let survey := Survey.of stream defines
    let before := fun place : Int => stream.tokens.toList.take place.toNat
    (∀ earlier token later, stream.tokens.toList = earlier ++ token :: later →
        ReadAsWord earlier token → lower token.text = "define" → token.SaysDefine)
      ∧ (∀ place, (∃ c ∈ survey.checks, c.declaration = .constant ∧ c.anchor = place)
          ↔ defines = true ∧ ∃ v ∈ survey.visits,
            v.before.cursor = place ∧ CallsDefine stream v.before)
      ∧ ((∀ c ∈ survey.checks, c.declaration = .constant → ¬ NamesMember (before c.anchor))
          ↔ (defines = true → ∀ v ∈ survey.visits, CallsDefine stream v.before →
            ¬ NamesMember (before v.before.cursor))) := by
  intro stream survey before
  refine ⟨?_, fun place => constant_of_survey_iff, ?_⟩
  · intro earlier token later htokens hword hdefine
    rw [TokenStream.toList_ofSource] at htokens
    obtain ⟨c, rest, -, htoken, -⟩ := Reading.read_at htokens
    rw [htoken, readAsWord_token_iff] at hword
    refine ⟨?_, hdefine⟩
    rw [htoken, Reading.token_of_word hword.1 hword.2] at hdefine ⊢
    exact wordKind_define _ hdefine
  · constructor
    · intro hchecks hdefines v hv hcalls
      obtain ⟨c, hc, hconstant, hanchor⟩ :=
        constant_of_survey_iff.2 ⟨hdefines, v, hv, rfl, hcalls⟩
      rw [← hanchor]
      exact hchecks c hc hconstant
    · intro hcalls c hc hconstant
      obtain ⟨hdefines, v, hv, hplace, hcall⟩ := constant_of_survey_iff.1 ⟨c, hc, hconstant, rfl⟩
      rw [← hplace]
      exact hcalls hdefines v hv hcall

/-- A method `define` of an object is called, and its first argument is checked as a constant, behind
the access operator. -/
theorem method_checked_as_constant :
    let stream := TokenStream.ofSource "<?php $c->define('A', 1);"
    ∃ c ∈ (Survey.of stream true).checks, c.declaration = .constant ∧ c.name = "A" ∧ c.anchor = 3
      ∧ c.doc = none ∧ NamesMember (stream.tokens.toList.take 3) := by
  intro stream
  obtain ⟨c, hc, hcheck⟩ : ∃ c ∈ (Survey.of stream true).checks,
      c.declaration = .constant ∧ c.name = "A" ∧ c.anchor = 3 ∧ c.doc = none := by decide +kernel
  have hmember : NamesMember (stream.tokens.toList.take 3) :=
    ⟨⟨.operator, "->", 1⟩, by decide +kernel, rfl, Or.inl rfl⟩
  exact ⟨c, hc, hcheck.1, hcheck.2.1, hcheck.2.2.1, hcheck.2.2.2, hmember⟩

end DocCoverage
