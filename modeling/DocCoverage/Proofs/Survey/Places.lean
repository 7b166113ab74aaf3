/-
What a survey does at each kind of token. The place of a survey is said by the tokens behind it, and
a step leads from there to behind some more of them: over one token, over a class header, up to the
end of a function's header. What a step looks up in the stream is read off the tokens ahead.
-/
import DocCoverage.Proofs.Survey.Braces

set_option autoImplicit false

namespace DocCoverage

variable {stream : TokenStream} {defines : Bool} {past ahead : List Token} {t : Token}

/-! ## What is left behind some tokens -/

/-- **What is left to look at behind the tokens `past`**, nearest first, in a state whose own place
does not matter. -/
def subjectsAt (stream : TokenStream) (defines : Bool) (past : List Token) (s : SurveyState) :
    List Subject :=
  subjectsFrom stream defines (s.moveTo past.length)

/-- A step that leads behind some tokens, the doc comments it remembers apart. -/
theorem subjectsAt_of_step {s s' : SurveyState} {behind : List Token} {events : List Event}
    (h : stream.Cut past (t :: ahead))
    (hstep : (step stream defines (s.moveTo past.length)).bare
      = Stepped.bare (s'.moveTo behind.length, events)) :
    subjectsAt stream defines past s
      = events.filterMap Event.subject? ++ subjectsAt stream defines behind s' := by
  obtain ⟨hstate, hevents⟩ := Prod.mk.inj hstep
  have hat : stream.at? (s.moveTo past.length).cursor = some t := h.at?_here
  rw [subjectsAt, subjectsFrom_step hat, hevents, subjectsFrom_congr hstate, subjectsAt]

/-- A step that notices nothing and changes nothing but the place. -/
theorem subjectsAt_next {s s' : SurveyState} (h : stream.Cut past (t :: ahead))
    (hstep : (step stream defines (s.moveTo past.length)).bare
      = Stepped.bare (s'.advance.moveTo (past.length + 1), [])) :
    subjectsAt stream defines past s = subjectsAt stream defines (t :: past) s' := by
  have hnone : subjectsAt stream defines past s
      = [].filterMap Event.subject? ++ subjectsAt stream defines (t :: past) s' :=
    subjectsAt_of_step h hstep
  exact hnone

/-- A step at the token ahead. -/
theorem step_here (s : SurveyState) (h : stream.Cut past (t :: ahead)) :
    step stream defines (s.moveTo past.length)
      = match t.kind with
        | .classWord => stepContext stream (s.moveTo past.length) .classDecl t
        | .interfaceWord => stepContext stream (s.moveTo past.length) .interfaceDecl t
        | .functionWord => stepFunction stream (s.moveTo past.length) t
        | .variableName => stepVariable stream (s.moveTo past.length) t
        | .constWord => stepConst stream (s.moveTo past.length) t
        | .identifier => stepIdentifier stream defines (s.moveTo past.length) t
        | .docComment =>
          ({ (s.moveTo past.length).advance with lastDocComment := past.length }, [])
        | .openBrace => ((s.moveTo past.length).openBrace.advance, [])
        | .closeBrace => ((s.moveTo past.length).closeBrace.advance, [])
        | _ => ((s.moveTo past.length).advance, []) := by
  have hat : stream.at? (s.moveTo past.length).cursor = some t := h.at?_here
  unfold step
  rw [hat]
  rfl

/-- An opening brace is passed, and opened. -/
theorem subjectsAt_openBrace (s : SurveyState) (h : stream.Cut past (t :: ahead))
    (hkind : t.kind = .openBrace) :
    subjectsAt stream defines past s = subjectsAt stream defines (t :: past) s.openBrace := by
  refine subjectsAt_next h ?_
  rw [step_here s h, hkind]
  rfl

/-- A closing brace is passed, and closed. -/
theorem subjectsAt_closeBrace (s : SurveyState) (h : stream.Cut past (t :: ahead))
    (hkind : t.kind = .closeBrace) :
    subjectsAt stream defines past s = subjectsAt stream defines (t :: past) s.closeBrace := by
  refine subjectsAt_next h ?_
  rw [step_here s h, hkind]
  rfl

/-- The token is of a class that a survey passes over whatever is open, but for the doc comments it
remembers. -/
def Token.isPlain (t : Token) : Bool :=
  match t.kind with
  | .classWord | .interfaceWord | .functionWord | .variableName | .constWord | .identifier
  | .openBrace | .closeBrace => false
  | _ => true

/-- **A plain token** is passed, and nothing is looked at. -/
theorem subjectsAt_plain (s : SurveyState) (h : stream.Cut past (t :: ahead))
    (hplain : t.isPlain = true) :
    subjectsAt stream defines past s = subjectsAt stream defines (t :: past) s := by
  refine subjectsAt_next h ?_
  rw [step_here s h]
  unfold Token.isPlain at hplain
  cases hkind : t.kind <;> rw [hkind] at hplain <;>
    first | exact absurd hplain Bool.false_ne_true | rfl

/-- What is left does not depend on the place of the state, nor on the doc comments it remembers. -/
theorem subjectsAt_congr {s s' : SurveyState} (hcontexts : s.contexts = s'.contexts)
    (hcount : s.functionNesting = s'.functionNesting) :
    subjectsAt stream defines past s = subjectsAt stream defines past s' := by
  refine subjectsFrom_congr ?_
  dsimp only [SurveyState.bare, SurveyState.moveTo]
  rw [hcontexts, hcount]

/-! ## Looking ahead and behind

What a step looks up in the stream, said on the tokens around its place. -/

/-- The function keyword of an import stands behind the word `use`. -/
theorem isFunctionImport_eq (h : stream.Cut past ahead) :
    isFunctionImport stream past.length = behindUse past := by
  rw [isFunctionImport, h.at?_skipBlankBackward, behindUse]

/-- The constant's name is the last identifier of the run ahead, or else the one found before. -/
theorem constantNameFrom_eq (found : Option Token) (h : stream.Cut past ahead) :
    constantNameFrom stream found past.length = (lastWord? ahead).or found := by
  have hat := h.at?_here
  induction ahead generalizing past found with
  | nil =>
    rw [constantNameFrom, hat]
    rfl
  | cons u rest ih =>
    have hnext : ∀ found', constantNameFrom stream found' (past.length + 1)
        = (lastWord? rest).or found' := fun found' => ih found' h.next h.next.at?_here
    rw [constantNameFrom, hat, lastWord?_cons, Token.isIdentifier, Token.isBlank]
    dsimp only [List.head?_cons]
    split
    next hkind =>
      rw [hnext, if_pos (beq_iff_eq.2 hkind), Option.or_assoc]
      rfl
    next hkind =>
      rw [hnext, hkind]
      rfl
    next hword hblank =>
      rw [if_neg (mt beq_iff_eq.1 hword), if_neg (mt beq_iff_eq.1 hblank)]
      rfl

/-- A call of `define` is a parenthesis, and its name the argument behind it. -/
theorem calledName?_eq (h : stream.Cut (t :: past) ahead) :
    (if stream.kind? (stream.skipBlankForward past.length) = some .openParen then
      some (definedName (stream.at? (stream.skipBlankForward
        (stream.skipBlankForward past.length))))
    else none) = calledName? ahead := by
  rw [TokenStream.kind?, h.at?_skipBlankForward]
  unfold calledName?
  rcases hnext : ahead.dropWhile Token.isBlank with _ | ⟨u, rest⟩
  · rfl
  · rw [h.at?_skipBlankForward_twice hnext]
    by_cases hparen : u.kind = .openParen
    · exact (if_pos (congrArg some hparen)).trans (if_pos hparen).symm
    · have hnone : ¬ some u.kind = some TokenKind.openParen :=
        fun hsome => hparen (Option.some.inj hsome)
      exact (if_neg hnone).trans (if_neg hparen).symm

/-- The token looked at for a function's name carries the name of the header. -/
theorem wordName_functionNameToken? (h : stream.Cut (t :: past) ahead) :
    wordName closure (functionNameToken? stream past.length) = functionName ahead := by
  unfold functionNameToken? functionName
  dsimp only
  rw [h.at?_skipBlankForward]
  rcases hnext : ahead.dropWhile Token.isBlank with _ | ⟨u, rest⟩
  · rfl
  · dsimp only [List.head?_cons]
    rw [h.at?_skipBlankForward_twice hnext]
    split <;> rfl

/-- A function's body is looked for up to the end of its header. -/
theorem bodyFrom_eq {header : List Token} {ending : Token} {depth : Nat}
    (h : stream.Cut past (header ++ ending :: ahead))
    (hheader : isFunctionHeader depth header = true)
    (hending : ending.kind = .openBrace ∨ ending.kind = .semicolon) :
    bodyFrom stream depth past.length = (header.reverse ++ past).length := by
  induction header generalizing past depth with
  | nil =>
    have hat : stream.kind? past.length = some ending.kind := h.kind?_here
    have hdepth : depth = 0 := eq_of_beq hheader
    rw [bodyFrom, if_pos (TokenStream.bounds_of_kind? hat).2, hat]
    rcases hending with hkind | hkind <;> rw [hkind] <;> exact if_pos hdepth
  | cons u rest ih =>
    have hat : stream.kind? past.length = some u.kind := h.kind?_here
    have hnext : ∀ depth', isFunctionHeader depth' rest = true →
        bodyFrom stream depth' (past.length + 1) = ((u :: rest).reverse ++ past).length := by
      intro depth' hrest
      have hbody := ih h.next hrest
      rw [List.reverse_cons, List.append_assoc]
      exact hbody
    rw [bodyFrom, if_pos (TokenStream.bounds_of_kind? hat).2, hat]
    rw [isFunctionHeader] at hheader
    -- the two functions distinguish the same classes of tokens, so the cases go together
    split at hheader
    next hkind =>
      rw [hkind]
      exact hnext _ hheader
    next hkind =>
      rw [hkind]
      exact hnext _ hheader
    next hkind =>
      obtain ⟨hdepth, hrest⟩ := Bool.and_eq_true_iff.1 hheader
      rw [hkind]
      exact (if_neg (bne_iff_ne.1 hdepth)).trans (hnext _ hrest)
    next hkind =>
      obtain ⟨hdepth, hrest⟩ := Bool.and_eq_true_iff.1 hheader
      rw [hkind]
      exact (if_neg (bne_iff_ne.1 hdepth)).trans (hnext _ hrest)
    next hopen hclose hbrace hsemicolon =>
      split
      next hkind => exact absurd (Option.some.inj hkind) hopen
      next hkind => exact absurd (Option.some.inj hkind) hclose
      next hkind => exact absurd (Option.some.inj hkind) hbrace
      next hkind => exact absurd (Option.some.inj hkind) hsemicolon
      next => exact hnext _ hheader

/-! ## Leaves -/

section Leaves

variable {scope : Scope} {s : SurveyState}

/-- A leaf that nothing is looked at on. -/
theorem subjectsAt_silent (h : stream.Cut past (t :: ahead))
    (hstep : (step stream defines (s.moveTo past.length)) = ((s.moveTo past.length).advance, [])) :
    subjectsAt stream defines past s = subjectsAt stream defines (t :: past) s := by
  refine subjectsAt_next h ?_
  rw [hstep]
  rfl

/-- A leaf that something is looked at on. -/
theorem subjectsAt_check {c : Check} (h : stream.Cut past (t :: ahead))
    (hstep : (step stream defines (s.moveTo past.length))
      = ((s.moveTo past.length).advance.claim c.doc, [.check c])) :
    subjectsAt stream defines past s = c.subject :: subjectsAt stream defines (t :: past) s := by
  have hbare : (step stream defines (s.moveTo past.length)).bare
      = Stepped.bare (s.moveTo (t :: past).length, [.check c]) := by
    rw [hstep, Stepped.bare_claim]
    rfl
  exact subjectsAt_of_step h hbare

/-- A variable is looked at where a class owns it and no function's body is around. -/
theorem subjectsAt_variable (hfits : scope.Fits s) (h : stream.Cut past (t :: ahead))
    (hkind : t.kind = .variableName) :
    subjectsAt stream defines past s
      = leafSubjects defines scope past.length t ahead
        ++ subjectsAt stream defines (t :: past) s := by
  have hguard : (!(s.moveTo past.length).contexts.isEmpty
      && decide ((s.moveTo past.length).functionNesting ≤ 0))
        = (scope.owner.isSome && !scope.inBody) := by
    rw [← Option.not_isNone, ← hfits.contexts_isEmpty, ← hfits.nesting_nonpos]
    rfl
  have hstep : step stream defines (s.moveTo past.length) = _ := step_here s h
  rw [hkind] at hstep
  dsimp only [stepVariable] at hstep
  unfold leafSubjects
  rw [hkind]
  by_cases hproperty : (scope.owner.isSome && !scope.inBody) = true
  · rw [hguard, if_pos hproperty] at hstep
    rw [subjectsAt_check h hstep, if_pos hproperty, ← hfits.owner]
    rfl
  · rw [hguard, if_neg hproperty] at hstep
    rw [subjectsAt_silent h hstep, if_neg hproperty]
    rfl

/-- A constant keyword is looked at where a class owns it. -/
theorem subjectsAt_const (hfits : scope.Fits s) (h : stream.Cut past (t :: ahead))
    (hkind : t.kind = .constWord) :
    subjectsAt stream defines past s
      = leafSubjects defines scope past.length t ahead
        ++ subjectsAt stream defines (t :: past) s := by
  have hguard : (s.moveTo past.length).contexts.isEmpty = scope.owner.isNone :=
    hfits.contexts_isEmpty
  have henclosing : (s.moveTo past.length).enclosing? = scope.owner := hfits.owner
  have hname : constantNameFrom stream none ((s.moveTo past.length).cursor + 1)
      = lastWord? ahead := (constantNameFrom_eq none h.next).trans Option.or_none
  have hstep : step stream defines (s.moveTo past.length) = _ := step_here s h
  rw [hkind] at hstep
  dsimp only [stepConst] at hstep
  rw [hguard, hname, henclosing] at hstep
  unfold leafSubjects
  rw [hkind]
  cases howner : scope.owner with
  | none =>
    rw [howner] at hstep
    exact subjectsAt_silent h hstep
  | some owner =>
    rw [howner] at hstep
    exact subjectsAt_check h hstep

/-- An identifier is looked at where it calls `define` outside of all classes and functions. -/
theorem subjectsAt_identifier (hfits : scope.Fits s) (h : stream.Cut past (t :: ahead))
    (hkind : t.kind = .identifier) :
    subjectsAt stream defines past s
      = leafSubjects defines scope past.length t ahead
        ++ subjectsAt stream defines (t :: past) s := by
  have hguard : (defines && t.isWord "define" && (s.moveTo past.length).contexts.isEmpty
      && !(s.moveTo past.length).inFunctionBody)
        = (defines && t.isWord "define" && scope.owner.isNone && !scope.inBody) := by
    rw [← hfits.contexts_isEmpty, ← hfits.inFunctionBody]
    rfl
  have hcall := calledName?_eq h.next
  have hstep : step stream defines (s.moveTo past.length) = _ := step_here s h
  rw [hkind] at hstep
  dsimp only [stepIdentifier] at hstep
  rw [hguard] at hstep
  unfold leafSubjects
  rw [hkind]
  dsimp only
  by_cases hwanted : (defines && t.isWord "define" && scope.owner.isNone && !scope.inBody) = true
  · rw [if_pos hwanted] at hstep ⊢
    -- the step asks for the parenthesis where the walk asks for the name
    by_cases hparen : stream.kind? (stream.skipBlankForward past.length) = some .openParen
    · rw [if_pos hparen] at hcall
      rw [← hcall]
      exact subjectsAt_check h (hstep.trans (if_pos hparen))
    · rw [if_neg hparen] at hcall
      rw [← hcall]
      exact subjectsAt_silent h (hstep.trans (if_neg hparen))
  · rw [if_neg hwanted] at hstep ⊢
    exact subjectsAt_silent h hstep

/-- **A leaf** is looked at as the walk does, and changes nothing but the place. -/
theorem subjectsAt_leaf (hfits : scope.Fits s) (h : stream.Cut past (t :: ahead))
    (hleaf : isLeaf past t = true) :
    subjectsAt stream defines past s
      = leafSubjects defines scope past.length t ahead
        ++ subjectsAt stream defines (t :: past) s := by
  cases hkind : t.kind
  case variableName => exact subjectsAt_variable hfits h hkind
  case constWord => exact subjectsAt_const hfits h hkind
  case identifier => exact subjectsAt_identifier hfits h hkind
  case functionWord =>
    -- a leaf only as the keyword of an import
    have himport : isFunctionImport stream (s.moveTo past.length).cursor = true := by
      rw [isLeaf, hkind] at hleaf
      exact (isFunctionImport_eq h).trans hleaf
    have hstep : step stream defines (s.moveTo past.length) = _ := step_here s h
    rw [hkind] at hstep
    dsimp only [stepFunction] at hstep
    rw [if_pos himport] at hstep
    rw [leafSubjects, hkind]
    exact subjectsAt_silent h hstep
  case openBrace | closeBrace | classWord | interfaceWord =>
    rw [isLeaf, hkind] at hleaf
    exact absurd hleaf Bool.false_ne_true
  all_goals
    have hplain : t.isPlain = true := by rw [Token.isPlain, hkind]
    rw [subjectsAt_plain s h hplain, leafSubjects, hkind]
    rfl

end Leaves

/-! ## Headers -/

/-- **A class header** is passed over: behind the keyword a class is open, so no identifier of it
declares anything. -/
theorem subjectsAt_classHeader {s : SurveyState} {header : List Token}
    (hopen : s.contexts.isEmpty = false) (h : stream.Cut past (header ++ ahead))
    (hheader : header.all Token.inClassHeader = true) :
    subjectsAt stream defines past s = subjectsAt stream defines (header.reverse ++ past) s := by
  induction header generalizing past with
  | nil => rfl
  | cons u rest ih =>
    rw [List.all_cons, Bool.and_eq_true] at hheader
    obtain ⟨hu, hrest⟩ := hheader
    have hcut : stream.Cut past (u :: (rest ++ ahead)) := h
    have hone : subjectsAt stream defines past s = subjectsAt stream defines (u :: past) s := by
      by_cases hword : u.kind = .identifier
      · have hstep : step stream defines (s.moveTo past.length) = _ := step_here s hcut
        rw [hword] at hstep
        dsimp only [stepIdentifier] at hstep
        -- a class is open, so not even `define` is looked at
        have hguard : (s.moveTo past.length).contexts.isEmpty = false := hopen
        rw [hguard, Bool.and_false, Bool.false_and, if_neg Bool.false_ne_true] at hstep
        exact subjectsAt_silent hcut hstep
      · refine subjectsAt_plain s hcut ?_
        unfold Token.inClassHeader at hu
        unfold Token.isPlain
        cases hkind : u.kind <;> rw [hkind] at hu hword <;>
          first | rfl | exact absurd rfl hword | exact absurd hu Bool.false_ne_true
    rw [hone, ih hcut.next hrest, List.reverse_cons, List.append_assoc]
    rfl

/-- **What a class keyword's step comes to:** a class of the name behind the keyword is begun and
looked at, and the cursor goes to that name or to the next token. -/
theorem stepContext_begins (stream : TokenStream) (s : SurveyState) (declaration : Declaration)
    (keyword : Token) :
    ∃ (context : Context) (next : Int),
      stepContext stream s declaration keyword
        = (((s.enter context).moveTo next).claim
              (Check.run stream declaration s.cursor context.name context.line none).doc,
            .check (Check.run stream declaration s.cursor context.name context.line none)
              :: (if s.replaced?.isSome then [.replaced context] else []))
      ∧ context.name
        = wordName anonymousClass (stream.at? (stream.skipBlankForward s.cursor))
      ∧ context.depth = 0
      ∧ (next = stream.skipBlankForward s.cursor ∧ next < stream.size ∨ next = s.cursor + 1) := by
  unfold stepContext
  dsimp only
  rcases hat : stream.at? (stream.skipBlankForward s.cursor) with _ | word
  · exact ⟨_, _, rfl, rfl, rfl, Or.inr rfl⟩
  · dsimp only [wordName]
    by_cases hword : word.kind = .identifier
    · simp only [if_pos hword]
      exact ⟨_, _, rfl, rfl, rfl, Or.inl ⟨rfl, (TokenStream.bounds_of_at? hat).2⟩⟩
    · simp only [if_neg hword]
      exact ⟨_, _, rfl, rfl, rfl, Or.inr rfl⟩

/-- Where the cursor goes from a class keyword: behind some white space, of which there may be
none. -/
theorem passed_of_next {keyword : Token} {next : Int} (h : stream.Cut past (keyword :: ahead))
    (hnext : next = stream.skipBlankForward past.length ∨ next = past.length + 1) :
    ∃ passed rest, ahead = passed ++ rest ∧ passed.all Token.inClassHeader = true
      ∧ next = (passed.reverse ++ keyword :: past).length := by
  rcases hnext with hname | hone
  · refine ⟨ahead.takeWhile Token.isBlank, ahead.dropWhile Token.isBlank,
      List.takeWhile_append_dropWhile.symm, ?_, hname.trans h.next.skipBlankForward_eq⟩
    rw [List.all_eq_true]
    intro u hu
    have hblank : u.isBlank = true := List.all_eq_true.1 List.all_takeWhile u hu
    rw [Token.inClassHeader, eq_of_beq hblank]
  · exact ⟨[], ahead, rfl, rfl, hone⟩

/-- **The keyword of a class.** What is looked at has the name ahead, and a class of that name has
been begun. The jump to the name passes white space only, so it may be left out. -/
theorem subjectsAt_classKeyword (defines : Bool) (s : SurveyState) {keyword : Token}
    (h : stream.Cut past (keyword :: ahead))
    (hkeyword : keyword.kind = .classWord ∨ keyword.kind = .interfaceWord) :
    ∃ context : Context, context.name = firstWord anonymousClass ahead ∧ context.depth = 0 ∧
      subjectsAt stream defines past s
        = ⟨classDeclaration keyword, past.length, firstWord anonymousClass ahead, none⟩
          :: subjectsAt stream defines (keyword :: past) (s.enter context) := by
  obtain ⟨context, next, hbegins, hname, hdepth, hnext⟩ :=
    stepContext_begins stream (s.moveTo past.length) (classDeclaration keyword) keyword
  have hfirst : context.name = firstWord anonymousClass ahead := by
    rw [hname, SurveyState.cursor_moveTo, h.next.at?_skipBlankForward, firstWord]
  have hplaces : next = stream.skipBlankForward past.length ∨ next = past.length + 1 :=
    hnext.imp And.left id
  obtain ⟨passed, rest, hahead, hpassed, hplace⟩ := passed_of_next h hplaces
  have hstep : (step stream defines (s.moveTo past.length)).bare
      = Stepped.bare ((s.enter context).moveTo (passed.reverse ++ keyword :: past).length,
          .check (Check.run stream (classDeclaration keyword) past.length context.name context.line
            none) :: (if s.replaced?.isSome then [.replaced context] else [])) := by
    have hkind : step stream defines (s.moveTo past.length)
        = stepContext stream (s.moveTo past.length) (classDeclaration keyword) keyword := by
      rw [step_here s h, classDeclaration]
      rcases hkeyword with hclass | hinterface
      · rw [hclass]
        rfl
      · rw [hinterface]
        rfl
    -- beginning a class and moving the cursor do not disturb each other
    have henter : ((s.moveTo past.length).enter context).moveTo next
        = (s.enter context).moveTo (passed.reverse ++ keyword :: past).length := by
      rw [hplace]
      unfold SurveyState.enter SurveyState.moveTo
      cases s.contexts <;> rfl
    rw [hkind, hbegins, Stepped.bare_claim, henter]
    rfl
  have hcut : stream.Cut (keyword :: past) (passed ++ rest) := hahead ▸ h.next
  -- that another class is replaced is no check
  have hsubjects : (Event.check (Check.run stream (classDeclaration keyword) past.length
      context.name context.line none)
        :: (if s.replaced?.isSome then [Event.replaced context] else [])).filterMap Event.subject?
      = [⟨classDeclaration keyword, past.length, firstWord anonymousClass ahead, none⟩] := by
    rw [← hfirst]
    split <;> rfl
  refine ⟨context, hfirst, hdepth, ?_⟩
  rw [subjectsAt_of_step h hstep, hsubjects,
    subjectsAt_classHeader (s.isEmpty_contexts_enter context) hcut hpassed]
  rfl

/-- **What a function keyword's step comes to,** outside of an import: the function is looked at,
and the cursor goes to the end of its header. -/
theorem stepFunction_begins (stream : TokenStream) (s : SurveyState) (keyword : Token)
    (himport : isFunctionImport stream s.cursor = false) :
    ∃ line : Int,
      stepFunction stream s keyword
        = (((s.afterHeader (stream.kind? (bodyFrom stream 0 (s.cursor + 1)))).moveTo
            (bodyFrom stream 0 (s.cursor + 1))).claim
              (Check.run stream .function s.cursor
                (wordName closure (functionNameToken? stream s.cursor)) line s.enclosing?).doc,
          [.check (Check.run stream .function s.cursor
            (wordName closure (functionNameToken? stream s.cursor)) line s.enclosing?)]) := by
  unfold stepFunction
  rw [himport, if_neg Bool.false_ne_true]
  dsimp only
  rcases functionNameToken? stream s.cursor with _ | word
  · exact ⟨_, rfl⟩
  · dsimp only [wordName]
    by_cases hword : word.kind = .identifier
    · simp only [if_pos hword]
      exact ⟨_, rfl⟩
    · simp only [if_neg hword]
      exact ⟨_, rfl⟩

/-- **The keyword of a function.** The function is looked at within the innermost class, and what
comes next is the end of its header. -/
theorem subjectsAt_functionKeyword (s : SurveyState) {keyword ending : Token} {header : List Token}
    (h : stream.Cut past (keyword :: (header ++ ending :: ahead)))
    (hkeyword : keyword.kind = .functionWord) (huse : behindUse past = false)
    (hheader : isFunctionHeader 0 header = true)
    (hending : ending.kind = .openBrace ∨ ending.kind = .semicolon) :
    subjectsAt stream defines past s
      = ⟨.function, past.length, functionName header, s.enclosing?⟩
        :: subjectsAt stream defines (header.reverse ++ keyword :: past)
            (s.afterHeader (some ending.kind)) := by
  have himport : isFunctionImport stream (s.moveTo past.length).cursor = false :=
    (isFunctionImport_eq h).trans huse
  have hbody : bodyFrom stream 0 ((s.moveTo past.length).cursor + 1)
      = (header.reverse ++ keyword :: past).length := bodyFrom_eq h.next hheader hending
  have hend : stream.kind? (header.reverse ++ keyword :: past).length = some ending.kind :=
    h.next.moveOn.kind?_here
  obtain ⟨line, hbegins⟩ := stepFunction_begins stream (s.moveTo past.length) keyword himport
  -- in the stream more tokens follow the header, but none of them is taken for its name
  have hname : wordName closure (functionNameToken? stream (s.moveTo past.length).cursor)
      = functionName header :=
    (wordName_functionNameToken? h.next).trans (functionName_append header ahead hending)
  rw [hbody, hend, hname] at hbegins
  have hstep : step stream defines (s.moveTo past.length)
      = stepFunction stream (s.moveTo past.length) keyword := by
    rw [step_here s h, hkeyword]
  have hbare : (step stream defines (s.moveTo past.length)).bare
      = Stepped.bare ((s.afterHeader (some ending.kind)).moveTo
          (header.reverse ++ keyword :: past).length,
        [.check (Check.run stream .function past.length (functionName header) line
          s.enclosing?)]) := by
    rw [hstep, hbegins, Stepped.bare_claim]
    rfl
  rw [subjectsAt_of_step h hbare]
  rfl

end DocCoverage
