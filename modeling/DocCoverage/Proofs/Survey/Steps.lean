/-
What a step of a survey can do, said once. There are seven ways to go on from a state, and what is
known of surveys as a whole is proved by going through them: each says which token is under the
cursor, the state that the step leads to, and what it notices.

Of the two jumps, the one behind a class keyword passes white space only. The one behind a function
keyword passes a whole header, with any doc comments in it; it ends at a brace, at a semicolon or at
the end of the file, and none of them is a modifier.

A state and what is noticed do not tell what was checked. For that there are the five ways to check,
one for each kind of anchor, with what had to hold. And for what happens at a class, a function or a
brace, and at no other token, there are the turns.
-/
import DocCoverage.Proofs.Entity.Attachment
import DocCoverage.Proofs.Survey.Places

set_option autoImplicit false

namespace DocCoverage

variable {stream : TokenStream} {s s' : SurveyState} {events : List Event}

/-! ## Where a jump ends -/

/-- Going on over white space passes white space only. -/
theorem blank_of_skipBlankForward {index j : Int} (hfrom : index < j)
    (hto : j < stream.skipBlankForward index) : stream.kind? j = some .whitespace := by
  induction index using TokenStream.skipBlankForward.induct stream with
  | case1 index hkind ih =>
    rw [TokenStream.skipBlankForward, dif_pos hkind] at hto
    rcases Int.lt_or_le (index + 1) j with hlt | hge
    · exact ih hlt hto
    · have hj : j = index + 1 := by omega
      rw [hj, hkind]
  | case2 index hkind =>
    rw [TokenStream.skipBlankForward, dif_neg hkind] at hto
    omega

/-- A header ends at the end of the file at the latest. -/
theorem bodyFrom_le_size (depth : Nat) {index : Int} (h : index ≤ stream.size) :
    bodyFrom stream depth index ≤ stream.size := by
  fun_induction bodyFrom stream depth index
  case case1 ih | case2 ih | case4 ih | case6 ih | case7 ih => exact ih (by omega)
  case case3 | case5 | case8 => exact h

/-- A header that ends before the file does ends at a brace or a semicolon. -/
theorem kind?_bodyFrom (depth : Nat) {index : Int}
    (h : bodyFrom stream depth index < stream.size) :
    stream.kind? (bodyFrom stream depth index) = some .openBrace
      ∨ stream.kind? (bodyFrom stream depth index) = some .semicolon := by
  fun_induction bodyFrom stream depth index
  case case1 ih | case2 ih | case4 ih | case6 ih | case7 ih => exact ih h
  case case3 hkind => exact Or.inl hkind
  case case5 hkind => exact Or.inr hkind
  case case8 hend => exact absurd h hend

/-! ## Where a name is found -/

/-- From one position through another there are words and white space only. -/
def Names (stream : TokenStream) (first last : Int) : Prop :=
  ∀ i, first ≤ i → i ≤ last →
    stream.kind? i = some .identifier ∨ stream.kind? i = some .whitespace

/-- The name of a constant is the one found before, or words and white space lead to it. -/
theorem names_of_constantNameFrom {found : Option Token} {index : Int} {t : Token}
    (h : constantNameFrom stream found index = some t) :
    found = some t ∨ ∃ j, index ≤ j ∧ stream.at? j = some t ∧ Names stream index j := by
  fun_induction constantNameFrom stream found index with
  | case1 found index token hat hkind ih =>
    have hhere : stream.kind? index = some .identifier := by
      rw [TokenStream.kind?, hat, Option.map_some, hkind]
    refine Or.inr ?_
    rcases ih h with htoken | ⟨j, hle, hj, hnames⟩
    · refine ⟨index, Int.le_refl _, hat.trans htoken, fun i hfirst hlast => ?_⟩
      rw [Int.le_antisymm hlast hfirst]
      exact Or.inl hhere
    · refine ⟨j, by omega, hj, fun i hfirst hlast => ?_⟩
      rcases Int.lt_or_le index i with hlt | hge
      · exact hnames i hlt hlast
      · rw [Int.le_antisymm hge hfirst]
        exact Or.inl hhere
  | case2 found index token hat hkind ih =>
    have hhere : stream.kind? index = some .whitespace := by
      rw [TokenStream.kind?, hat, Option.map_some, hkind]
    refine (ih h).imp id ?_
    rintro ⟨j, hle, hj, hnames⟩
    refine ⟨j, by omega, hj, fun i hfirst hlast => ?_⟩
    rcases Int.lt_or_le index i with hlt | hge
    · exact hnames i hlt hlast
    · rw [Int.le_antisymm hge hfirst]
      exact Or.inr hhere
  | case3 found index token hat hword hblank => exact Or.inl h
  | case4 found index hat => exact Or.inl h

/-- **A header goes on** over everything but an opening brace and a semicolon. -/
theorem lt_bodyFrom (depth : Nat) {index j : Int} (hle : index ≤ j) (hlt : j < stream.size)
    (hplain : ∀ i, index ≤ i → i ≤ j →
      stream.kind? i ≠ some .openBrace ∧ stream.kind? i ≠ some .semicolon) :
    j < bodyFrom stream depth index := by
  fun_induction bodyFrom stream depth index
  case case1 index hin hkind ih | case2 index hin hkind ih | case7 index hin _ _ _ _ ih =>
    -- the token at the front is passed; it may be the last one asked for
    rcases Int.lt_or_le index j with hlater | hlast
    · exact ih hlater fun i hfirst hi => hplain i (by omega) hi
    · exact Int.lt_of_lt_of_le (by omega) (le_bodyFrom stream _ (index + 1))
  case case3 index hin hkind | case4 index hin hkind _ _ =>
    exact absurd hkind (hplain index (Int.le_refl _) hle).1
  case case5 index hin hkind | case6 index hin hkind _ _ =>
    exact absurd hkind (hplain index (Int.le_refl _) hle).2
  case case8 hend => omega

/-- White space is passed to the next token, so what stands there is all there is to see. -/
theorem forall_skipBlankForward {P : Option TokenKind → Prop} (index : Int)
    (hblank : P (some .whitespace)) (hend : P (stream.kind? (stream.skipBlankForward index))) :
    ∀ i, index < i → i ≤ stream.skipBlankForward index → P (stream.kind? i) := by
  intro i hfirst hlast
  rcases Int.lt_or_le i (stream.skipBlankForward index) with hlt | hge
  · rw [blank_of_skipBlankForward hfirst hlt]
    exact hblank
  · rw [Int.le_antisymm hlast hge]
    exact hend

/-- **The name of a function stands before its body.** -/
theorem at?_functionNameToken? {cursor : Int} {t : Token}
    (h : functionNameToken? stream cursor = some t) (hkind : t.kind = .identifier) :
    ∃ j, stream.at? j = some t ∧ cursor < j ∧ j < bodyFrom stream 0 (cursor + 1) := by
  unfold functionNameToken? at h
  dsimp only at h
  -- neither a brace nor a semicolon: white space, an ampersand, and the name itself
  let Plain : Option TokenKind → Prop := fun kind =>
    kind ≠ some .openBrace ∧ kind ≠ some .semicolon
  have hblank : Plain (some .whitespace) := ⟨by decide, by decide⟩
  have hnext := lt_skipBlankForward stream cursor
  cases hat : stream.at? (stream.skipBlankForward cursor) with
  | none =>
    rw [hat] at h
    cases h
  | some token =>
    have hthere : stream.kind? (stream.skipBlankForward cursor) = some token.kind := by
      rw [TokenStream.kind?, hat, Option.map_some]
    rw [hat] at h
    dsimp only at h
    split at h
    next hand =>
      have hname := lt_skipBlankForward stream (stream.skipBlankForward cursor)
      have hfirst := forall_skipBlankForward (P := Plain) cursor hblank
        (by rw [hthere, hand.1]; exact ⟨by decide, by decide⟩)
      have hsecond := forall_skipBlankForward (P := Plain)
        (stream.skipBlankForward cursor) hblank
        (by rw [TokenStream.kind?, h, Option.map_some, hkind]; exact ⟨by decide, by decide⟩)
      refine ⟨_, h, by omega,
        lt_bodyFrom 0 (by omega) (TokenStream.bounds_of_at? h).2 fun i hi hj => ?_⟩
      rcases Int.lt_or_le (stream.skipBlankForward cursor) i with hlt | hge
      · exact hsecond i hlt hj
      · exact hfirst i (by omega) hge
    next =>
      obtain rfl := Option.some.inj h
      have hfirst := forall_skipBlankForward (P := Plain) cursor hblank
        (by rw [hthere, hkind]; exact ⟨by decide, by decide⟩)
      exact ⟨_, hat, hnext,
        lt_bodyFrom 0 (by omega) (TokenStream.bounds_of_at? hat).2
          fun i hi hj => hfirst i (by omega) hj⟩

/-! ## The ways to go on -/

/-- The tokens at which declarations are looked at: their keywords, or their names. -/
def TokenKind.isAnchor : TokenKind → Bool
  | .classWord | .interfaceWord | .functionWord | .variableName | .constWord | .identifier => true
  | _ => false

/-- **A declaration is looked at in a place:** its keyword or name stands there, and its doc comment
is searched from there. -/
structure Check.LookedAt (stream : TokenStream) (place : Int) (c : Check) : Prop where
  anchor_eq : c.anchor = place
  doc_eq : c.doc = docComment? c.declaration stream place
  isAnchor : ∃ kind, stream.kind? place = some kind ∧ kind.isAnchor = true

/-- No anchor may stand between a doc comment and a declaration behind it. -/
theorem TokenKind.isModifier_of_isAnchor {kind : TokenKind} (h : kind.isAnchor = true) :
    kind.isModifier = false := by
  cases kind <;> first | rfl | exact absurd h Bool.false_ne_true

namespace Check.LookedAt

variable {place : Int} {c : Check}

/-- The token in a place where a declaration is looked at is an anchor. -/
theorem kind_ne (h : c.LookedAt stream place) {kind : TokenKind} (hkind : kind.isAnchor = false) :
    stream.kind? place ≠ some kind := by
  obtain ⟨anchor, hat, hanchor⟩ := h.isAnchor
  rw [hat]
  rintro ⟨⟩
  rw [hkind] at hanchor
  exact Bool.false_ne_true hanchor

/-- The doc comment found is attached to the place. -/
theorem attached (h : c.LookedAt stream place) {i : Int} (hdoc : c.doc = some i) :
    Attached c.declaration stream place i := by
  rw [h.doc_eq] at hdoc
  exact attached_of_docComment? hdoc

/-- **A declaration hides the comments before it:** none of them is attached to a place behind. -/
theorem not_attached_across (h : c.LookedAt stream place) {declaration : Declaration}
    {anchor i : Int} (hi : i < place) (hanchor : place < anchor) :
    ¬ Attached declaration stream anchor i := by
  intro hattached
  obtain ⟨kind, hkind, hmodifier⟩ := isModifier_of_attached hattached hi hanchor
  obtain ⟨kind', hkind', hanchor'⟩ := h.isAnchor
  have heq : kind = kind' := Option.some.inj (hkind.symm.trans hkind')
  rw [heq, TokenKind.isModifier_of_isAnchor hanchor'] at hmodifier
  exact Bool.false_ne_true hmodifier

end Check.LookedAt

/-- **The ways to go on from a state,** with what is noticed. -/
inductive Moves (stream : TokenStream) (s : SurveyState) : SurveyState → List Event → Prop
  /-- The token is passed over, or there is none. -/
  | pass (hdoc : stream.kind? s.cursor ≠ some .docComment)
      (hopen : stream.kind? s.cursor ≠ some .openBrace) : Moves stream s s.advance []
  /-- A doc comment is remembered. -/
  | docComment (hkind : stream.kind? s.cursor = some .docComment) :
      Moves stream s { s.advance with lastDocComment := s.cursor } []
  | openBrace (hkind : stream.kind? s.cursor = some .openBrace) :
      Moves stream s s.openBrace.advance []
  | closeBrace (hkind : stream.kind? s.cursor = some .closeBrace) :
      Moves stream s s.closeBrace.advance []
  /-- A property, a class constant or a constant is looked at. -/
  | member (c : Check) (hcheck : c.LookedAt stream s.cursor) :
      Moves stream s (s.advance.claim c.doc) [.check c]
  /-- A class is looked at and begun. -/
  | context (c : Check) (context : Context) (next : Int) (replaced : Option Event)
      (hcheck : c.LookedAt stream s.cursor) (hdepth : context.depth = 0)
      (hnext : next = stream.skipBlankForward s.cursor ∧ next < stream.size
        ∨ next = s.cursor + 1)
      (hreplaced : ∀ e ∈ replaced, e = .replaced context) :
      Moves stream s (((s.enter context).moveTo next).claim c.doc) (.check c :: replaced.toList)
  /-- A function is looked at, and its header passed. -/
  | function (c : Check) (body : Int) (hcheck : c.LookedAt stream s.cursor)
      (hbody : body = bodyFrom stream 0 (s.cursor + 1)) :
      Moves stream s (((s.afterHeader (stream.kind? body)).moveTo body).claim c.doc) [.check c]

/-- A declaration is looked at where its anchor is under the cursor. -/
theorem lookedAt_run {t : Token} (hat : stream.at? s.cursor = some t)
    (hanchor : t.kind.isAnchor = true) (declaration : Declaration) (name : String) (line : Int)
    (enclosing : Option String) :
    (Check.run stream declaration s.cursor name line enclosing).LookedAt stream s.cursor where
  anchor_eq := rfl
  doc_eq := rfl
  isAnchor := ⟨t.kind, congrArg (Option.map Token.kind) hat, hanchor⟩

/-- A token that is neither a doc comment nor an opening brace may be passed over. -/
theorem moves_pass {t : Token} (hat : stream.at? s.cursor = some t) (hdoc : t.kind ≠ .docComment)
    (hopen : t.kind ≠ .openBrace) : Moves stream s s.advance [] := by
  have hkind : stream.kind? s.cursor = some t.kind := congrArg (Option.map Token.kind) hat
  refine Moves.pass ?_ ?_
  · rw [hkind]
    exact fun h => hdoc (Option.some.inj h)
  · rw [hkind]
    exact fun h => hopen (Option.some.inj h)

/-- A class keyword begins a class. -/
theorem moves_stepContext {t : Token} (hat : stream.at? s.cursor = some t)
    (hanchor : t.kind.isAnchor = true) (declaration : Declaration) :
    Moves stream s (stepContext stream s declaration t).1
      (stepContext stream s declaration t).2 := by
  obtain ⟨context, next, hbegins, -, hdepth, hnext⟩ := stepContext_begins stream s declaration t
  have hcheck := lookedAt_run hat hanchor declaration context.name context.line none
  rw [hbegins]
  by_cases hreplaced : s.replaced?.isSome = true
  · rw [if_pos hreplaced]
    exact Moves.context _ context next (some (.replaced context)) hcheck hdepth hnext
      (fun e he => (Option.some.inj he).symm)
  · rw [if_neg hreplaced]
    exact Moves.context _ context next none hcheck hdepth hnext
      (fun e he => absurd he (Option.not_mem_none e))

/-- The step at the keyword of a class or an interface checks that declaration and nothing else. -/
theorem declaration_of_stepContext {declaration : Declaration} {keyword : Token} {c : Check}
    (h : .check c ∈ (stepContext stream s declaration keyword).2) :
    c.declaration = declaration := by
  obtain ⟨context, next, hbegins, -⟩ := stepContext_begins stream s declaration keyword
  rw [hbegins] at h
  rcases List.mem_cons.1 h with hfirst | hreplaced
  · rw [Event.check.inj hfirst]
    rfl
  · by_cases hin : s.replaced?.isSome = true
    · rw [if_pos hin] at hreplaced
      cases List.mem_singleton.1 hreplaced
    · rw [if_neg hin] at hreplaced
      cases hreplaced

/-- A function keyword begins a function, unless it imports one. -/
theorem moves_stepFunction {t : Token} (hat : stream.at? s.cursor = some t)
    (hkind : t.kind = .functionWord) :
    Moves stream s (stepFunction stream s t).1 (stepFunction stream s t).2 := by
  cases himport : isFunctionImport stream s.cursor with
  | true =>
    rw [stepFunction, if_pos himport]
    exact moves_pass hat (by rw [hkind]; decide) (by rw [hkind]; decide)
  | false =>
    obtain ⟨line, hbegins⟩ := stepFunction_begins stream s t himport
    have hcheck := lookedAt_run hat (by rw [hkind]; rfl) .function
      (wordName closure (functionNameToken? stream s.cursor)) line s.enclosing?
    have hmoves := Moves.function _ (bodyFrom stream 0 (s.cursor + 1)) hcheck rfl
    rw [hbegins]
    exact hmoves

/-- **Every step is one of the ways to go on.** -/
theorem moves_step (stream : TokenStream) (defines : Bool) (s : SurveyState) :
    Moves stream s (step stream defines s).1 (step stream defines s).2 := by
  unfold step
  rcases hat : stream.at? s.cursor with _ | t
  · have hnone : stream.kind? s.cursor = none := congrArg (Option.map Token.kind) hat
    exact Moves.pass (by rw [hnone]; nofun) (by rw [hnone]; nofun)
  have hkind? : stream.kind? s.cursor = some t.kind := congrArg (Option.map Token.kind) hat
  dsimp only
  split
  next hkind => exact moves_stepContext hat (by rw [hkind]; rfl) _
  next hkind => exact moves_stepContext hat (by rw [hkind]; rfl) _
  next hkind => exact moves_stepFunction hat hkind
  next hkind =>
    rw [stepVariable]
    split
    · exact Moves.member _ (lookedAt_run hat (by rw [hkind]; rfl) _ _ _ _)
    · exact moves_pass hat (by rw [hkind]; decide) (by rw [hkind]; decide)
  next hkind =>
    rw [stepConst]
    split
    · exact moves_pass hat (by rw [hkind]; decide) (by rw [hkind]; decide)
    · exact Moves.member _ (lookedAt_run hat (by rw [hkind]; rfl) _ _ _ _)
  next hkind =>
    have hpass : Moves stream s s.advance [] :=
      moves_pass hat (by rw [hkind]; decide) (by rw [hkind]; decide)
    rw [stepIdentifier]
    split
    · dsimp only
      split
      · exact Moves.member _ (lookedAt_run hat (by rw [hkind]; rfl) _ _ _ _)
      · exact hpass
    · exact hpass
  next hkind => exact Moves.docComment (hkind?.trans (congrArg some hkind))
  next hkind => exact Moves.openBrace (hkind?.trans (congrArg some hkind))
  next hkind => exact Moves.closeBrace (hkind?.trans (congrArg some hkind))
  next hdoc hopen _ => exact moves_pass hat hdoc hopen

/-! ## The ways to check -/

@[simp] theorem Check.declaration_run (declaration : Declaration) (anchor : Int) (name : String)
    (line : Int) (enclosing : Option String) :
    (Check.run stream declaration anchor name line enclosing).declaration = declaration := rfl

@[simp] theorem Check.line_run (declaration : Declaration) (anchor : Int) (name : String)
    (line : Int) (enclosing : Option String) :
    (Check.run stream declaration anchor name line enclosing).line = line := rfl

/-- **The ways to check a declaration** at the token `t`: what the whole step is, what had to hold
for it, and what is checked. -/
inductive Checked (stream : TokenStream) (defines : Bool) (s : SurveyState) (t : Token) (c : Check) :
    Prop
  | context (declaration : Declaration)
      (hdeclaration : declaration = .classDecl ∨ declaration = .interfaceDecl)
      (hstep : step stream defines s = stepContext stream s declaration t)
  | function (hdeclaration : c.declaration = .function)
      (hstep : step stream defines s = stepFunction stream s t)
  /-- A variable in a class, outside of function bodies. -/
  | property (hinside : s.contexts.isEmpty = false) (houtside : s.functionNesting ≤ 0)
      (hcheck : c = Check.run stream .classVariable s.cursor t.text t.line s.enclosing?)
      (hstep : step stream defines s = (s.advance.claim c.doc, [.check c]))
  /-- A constant keyword in a class. -/
  | classConstant (name : Option Token) (hname : name = constantNameFrom stream none (s.cursor + 1))
      (hinside : s.contexts.isEmpty = false)
      (hcheck : c = Check.run stream .classConstant s.cursor (name.elim "" (·.text))
        (name.elim t.line (·.line)) s.enclosing?)
      (hstep : step stream defines s = (s.advance.claim c.doc, [.check c]))
  /-- A call of `define` outside of classes and functions, if such calls are looked at. -/
  | constant (name : String) (hdefines : defines = true) (hclasses : s.contexts.isEmpty = true)
      (houtside : s.inFunctionBody = false)
      (hcheck : c = Check.run stream .constant s.cursor name t.line none)
      (hstep : step stream defines s = (s.advance.claim c.doc, [.check c]))

/-- The step at a function keyword checks a function and nothing else. -/
theorem declaration_of_stepFunction {keyword : Token} {c : Check}
    (h : .check c ∈ (stepFunction stream s keyword).2) : c.declaration = .function := by
  cases himport : isFunctionImport stream s.cursor with
  | true =>
    rw [stepFunction, if_pos himport] at h
    cases h
  | false =>
    obtain ⟨line, hbegins⟩ := stepFunction_begins stream s keyword himport
    rw [hbegins] at h
    rw [Event.check.inj (List.mem_singleton.1 h)]
    rfl

/-- **Every check comes about in one of the ways to check,** at the token under the cursor. -/
theorem checked_of_step {defines : Bool} {c : Check} (h : .check c ∈ (step stream defines s).2) :
    ∃ t, stream.at? s.cursor = some t ∧ Checked stream defines s t c := by
  -- the step is read with a name for its result, which stays the whole step in what is shown
  generalize hstep : step stream defines s = result at h
  have hread := hstep
  unfold step at hread
  rcases hat : stream.at? s.cursor with _ | t
  · rw [hat] at hread
    subst hread
    cases h
  rw [hat] at hread
  dsimp only at hread
  refine ⟨t, rfl, ?_⟩
  split at hread <;> subst hread
  next => exact .context .classDecl (Or.inl rfl) hstep
  next => exact .context .interfaceDecl (Or.inr rfl) hstep
  next => exact .function (declaration_of_stepFunction h) hstep
  next =>
    unfold stepVariable at h hstep
    split at h
    next hproperty =>
      rw [if_pos hproperty] at hstep
      rw [Bool.and_eq_true, Bool.not_eq_true', decide_eq_true_eq] at hproperty
      obtain rfl := Event.check.inj (List.mem_singleton.1 h)
      exact .property hproperty.1 hproperty.2 rfl hstep
    next => cases h
  next =>
    unfold stepConst at h hstep
    split at h
    next => cases h
    next hinside =>
      rw [if_neg hinside] at hstep
      obtain rfl := Event.check.inj (List.mem_singleton.1 h)
      exact .classConstant _ rfl (Bool.eq_false_iff.2 hinside) rfl hstep
  next =>
    unfold stepIdentifier at h hstep
    split at h
    next hdefine =>
      rw [if_pos hdefine] at hstep
      simp only [Bool.and_eq_true, Bool.not_eq_true'] at hdefine
      obtain ⟨⟨⟨hdefines, -⟩, hclasses⟩, houtside⟩ := hdefine
      dsimp only at h hstep
      split at h
      next hparen =>
        rw [if_pos hparen] at hstep
        obtain rfl := Event.check.inj (List.mem_singleton.1 h)
        exact .constant _ hdefines hclasses houtside rfl hstep
      next => cases h
    next => cases h
  all_goals cases h

/-! ## The doc comments remembered -/

namespace SurveyState

@[simp] theorem cursor_enter (s : SurveyState) (context : Context) :
    (s.enter context).cursor = s.cursor := by
  unfold enter
  split <;> rfl

@[simp] theorem lastDocComment_enter (s : SurveyState) (context : Context) :
    (s.enter context).lastDocComment = s.lastDocComment := by
  unfold enter
  split <;> rfl

@[simp] theorem fileDocComment_enter (s : SurveyState) (context : Context) :
    (s.enter context).fileDocComment = s.fileDocComment := by
  unfold enter
  split <;> rfl

/-- A claimed comment is the one remembered last. -/
@[simp] theorem lastDocComment_claim (s : SurveyState) (doc : Option Int) :
    (s.claim doc).lastDocComment = doc.getD s.lastDocComment := by
  cases doc <;> rfl

@[simp] theorem fileDocComment_claim (s : SurveyState) (doc : Option Int) :
    (s.claim doc).fileDocComment = s.fileDocComment := by
  cases doc <;> rfl

end SurveyState

/-- **What a step does to the comment remembered last:** it keeps it and notices nothing, or the
comment under the cursor takes its place, or a declaration is looked at there, which may claim one.
Nothing else is noticed that is a check or comes with a verdict. -/
inductive Recalls (stream : TokenStream) (s : SurveyState) : Int → List Event → Prop
  | same (hdoc : stream.kind? s.cursor ≠ some .docComment) :
      Recalls stream s s.lastDocComment []
  | seen (hkind : stream.kind? s.cursor = some .docComment) : Recalls stream s s.cursor []
  | check (c : Check) (others : List Event) (hcheck : c.LookedAt stream s.cursor)
      (hchecks : others.filterMap Event.check? = [])
      (hverdicts : others.filterMap Event.verdict? = []) :
      Recalls stream s (c.doc.getD s.lastDocComment) (.check c :: others)

/-- No step touches the comment that is held for the file. -/
theorem Moves.fileDocComment_eq (h : Moves stream s s' events) :
    s'.fileDocComment = s.fileDocComment := by
  cases h with
  | pass => rfl
  | docComment => rfl
  | openBrace => rfl
  | closeBrace => rfl
  | member c => rw [SurveyState.fileDocComment_claim]; rfl
  | context c context next =>
    rw [SurveyState.fileDocComment_claim]
    exact s.fileDocComment_enter context
  | function c body => rw [SurveyState.fileDocComment_claim]; rfl

/-- **What each way to go on does to the comment remembered last.** -/
theorem Moves.recalls (h : Moves stream s s' events) :
    Recalls stream s s'.lastDocComment events := by
  cases h with
  | pass hdoc => exact Recalls.same hdoc
  | docComment hkind => exact Recalls.seen hkind
  | openBrace hkind => exact Recalls.same (by rw [hkind]; decide)
  | closeBrace hkind => exact Recalls.same (by rw [hkind]; decide)
  | member c hcheck =>
    rw [SurveyState.lastDocComment_claim]
    exact Recalls.check c [] hcheck rfl rfl
  | context c context next replaced hcheck hdepth hnext hreplaced =>
    have hsilent : replaced.toList.filterMap Event.check? = []
        ∧ replaced.toList.filterMap Event.verdict? = [] := by
      rcases replaced with _ | e
      · exact ⟨rfl, rfl⟩
      · rw [hreplaced e rfl]
        exact ⟨rfl, rfl⟩
    have hlast : ((s.enter context).moveTo next).lastDocComment = s.lastDocComment :=
      s.lastDocComment_enter context
    rw [SurveyState.lastDocComment_claim, hlast]
    exact Recalls.check c replaced.toList hcheck hsilent.1 hsilent.2
  | function c body hcheck =>
    rw [SurveyState.lastDocComment_claim]
    exact Recalls.check c [] hcheck rfl rfl

/-! ## The turns

The classes that are open and the declarations that are looked at change at few tokens. What is said
of them goes through the turns a survey takes there; at all other tokens it only moves on by one. -/

section Turns

variable {defines : Bool}

/-- The tokens at which a survey turns: they begin a class or a function, or they are braces. -/
def TokenKind.isTurn : TokenKind → Bool
  | .classWord | .interfaceWord | .functionWord | .openBrace | .closeBrace => true
  | _ => false

/-- A property, a class constant or a constant: behind it a survey goes on with the next token. -/
def Declaration.isMember : Declaration → Bool
  | .classVariable | .classConstant | .constant => true
  | _ => false

/-- **The turns a step can take,** told apart by the token under the cursor. At a plain token nothing
changes but the place and the doc comments remembered, and members are all that may be checked. -/
inductive Turn (stream : TokenStream) (defines : Bool) (s : SurveyState) : Prop
  | context (declaration : Declaration) (keyword : Token)
      (hkeyword : declaration = .classDecl ∧ stream.kind? s.cursor = some .classWord
        ∨ declaration = .interfaceDecl ∧ stream.kind? s.cursor = some .interfaceWord)
      (hstep : step stream defines s = stepContext stream s declaration keyword)
  | function (keyword : Token) (hkind : stream.kind? s.cursor = some .functionWord)
      (hstep : step stream defines s = stepFunction stream s keyword)
  | openBrace (hkind : stream.kind? s.cursor = some .openBrace)
      (hstep : step stream defines s = (s.openBrace.advance, []))
  | closeBrace (hkind : stream.kind? s.cursor = some .closeBrace)
      (hstep : step stream defines s = (s.closeBrace.advance, []))
  | plain (hplain : ∀ kind ∈ stream.kind? s.cursor, kind.isTurn = false)
      (hbare : (step stream defines s).1.bare = s.advance.bare)
      (hmembers : ∀ c, .check c ∈ (step stream defines s).2 → c.declaration.isMember = true)

/-- Where a step only moves on, or claims on the way what a member has found, the turn is plain. -/
theorem Turn.of_moved {t : Token} (checks : List Check) (hat : stream.at? s.cursor = some t)
    (hplain : t.kind.isTurn = false) (doc : Option Int)
    (hstep : step stream defines s = (s.advance.claim doc, checks.map Event.check))
    (hmembers : ∀ c ∈ checks, c.declaration.isMember = true) : Turn stream defines s := by
  refine .plain (fun kind hkind => ?_) ?_ (fun c hc => ?_)
  · rw [TokenStream.kind?, hat] at hkind
    rw [← Option.some.inj hkind]
    exact hplain
  · rw [hstep]
    exact SurveyState.bare_claim _ _
  · rw [hstep] at hc
    obtain ⟨c', hc', heq⟩ := List.mem_map.1 hc
    rw [← Event.check.inj heq]
    exact hmembers c' hc'

/-- **Every step takes one of the turns.** -/
theorem turn_of_step (stream : TokenStream) (defines : Bool) (s : SurveyState) :
    Turn stream defines s := by
  obtain ⟨result, hstep⟩ : ∃ result, step stream defines s = result := ⟨_, rfl⟩
  have hread := hstep
  unfold step at hread
  rcases hat : stream.at? s.cursor with _ | t
  · rw [hat] at hread
    subst hread
    refine .plain (fun kind hkind => ?_) (by rw [hstep]) (fun c hc => ?_)
    · rw [TokenStream.kind?, hat] at hkind
      cases hkind
    · rw [hstep] at hc
      cases hc
  have hkind? : stream.kind? s.cursor = some t.kind := congrArg (Option.map Token.kind) hat
  have hpass : t.kind.isTurn = false → result = (s.advance, []) → Turn stream defines s := by
    intro hplain hnothing
    apply Turn.of_moved [] hat hplain none
    · rw [hstep, hnothing]
      rfl
    · intro c hc
      cases hc
  have hcheck : ∀ c : Check, t.kind.isTurn = false → c.declaration.isMember = true →
      result = (s.advance.claim c.doc, [.check c]) → Turn stream defines s := by
    intro c hplain hmember hone
    apply Turn.of_moved [c] hat hplain c.doc
    · rw [hstep, hone]
      rfl
    · intro c' hc'
      rw [List.mem_singleton.1 hc']
      exact hmember
  rw [hat] at hread
  dsimp only at hread
  split at hread
  next hkind =>
    rw [hkind] at hkind?
    exact .context .classDecl t (Or.inl ⟨rfl, hkind?⟩) (hstep.trans hread.symm)
  next hkind =>
    rw [hkind] at hkind?
    exact .context .interfaceDecl t (Or.inr ⟨rfl, hkind?⟩) (hstep.trans hread.symm)
  next hkind =>
    rw [hkind] at hkind?
    exact .function t hkind? (hstep.trans hread.symm)
  next hkind =>
    unfold stepVariable at hread
    split at hread
    · exact hcheck _ (by rw [hkind]; rfl) rfl hread.symm
    · exact hpass (by rw [hkind]; rfl) hread.symm
  next hkind =>
    unfold stepConst at hread
    split at hread
    · exact hpass (by rw [hkind]; rfl) hread.symm
    · exact hcheck _ (by rw [hkind]; rfl) rfl hread.symm
  next hkind =>
    unfold stepIdentifier at hread
    dsimp only at hread
    split at hread
    · split at hread
      · exact hcheck _ (by rw [hkind]; rfl) rfl hread.symm
      · exact hpass (by rw [hkind]; rfl) hread.symm
    · exact hpass (by rw [hkind]; rfl) hread.symm
  next hkind =>
    subst hread
    refine .plain (fun kind hkind' => ?_) (by rw [hstep]; rfl) (fun c hc => ?_)
    · rw [hkind?] at hkind'
      rw [← Option.some.inj hkind', hkind]
      rfl
    · rw [hstep] at hc
      cases hc
  next hkind => exact .openBrace (hkind?.trans (congrArg some hkind)) (hstep.trans hread.symm)
  next hkind => exact .closeBrace (hkind?.trans (congrArg some hkind)) (hstep.trans hread.symm)
  next hclass hinterface hfunction _ _ _ _ hopen hclose =>
    apply hpass
    · unfold TokenKind.isTurn
      split <;> first | rfl | contradiction
    · exact hread.symm

end Turns

end DocCoverage
