/-
What braces do to a survey's state. A survey counts braces twice: in the innermost class, and in one
count for all functions together. Where a scope is well kept, a pair of braces cancels out in both
counts, also where the first brace opens the body of a class or a function just begun; so behind a
class, a function or a block the survey is where it was before.
-/
import DocCoverage.Proofs.Survey.Tree

set_option autoImplicit false

namespace DocCoverage

/-! ## What is open

The invariant of the walk. Behind every item the state is the one before it, so what has to be known
of a state is the scope it stands for, and what a pair of braces needs in order to cancel out. -/

/-- **A state fits a scope:** its innermost class is the scope's and has opened its body, and the
count for functions is that of a body inside of one and that of no function outside. The count never
is that of a function still on the way to its body. -/
structure Scope.Fits (scope : Scope) (s : SurveyState) : Prop where
  owner : s.enclosing? = scope.owner
  opened : ∀ c ∈ s.context?, 1 ≤ c.depth
  inside : scope.inBody = true → 0 < s.functionNesting
  outside : scope.inBody = false → s.functionNesting = -1

/-- A survey begins outside of everything. -/
theorem Scope.fits_start : Scope.Fits {} {} where
  owner := rfl
  opened _ h := absurd h (Option.not_mem_none _)
  inside h := absurd h Bool.false_ne_true
  outside _ := rfl

namespace SurveyState

variable {s : SurveyState}

/-- The state once a function's keyword has been passed, on the way to its body. -/
def beginFunction (s : SurveyState) : SurveyState :=
  { s with functionNesting := if 0 < s.functionNesting then s.functionNesting else 0 }

/-- The state at the end of a function's header. One without a body leaves all functions, unless it
is in the body of another one. -/
def afterHeader (s : SurveyState) (ending : Option TokenKind) : SurveyState :=
  { s with
    functionNesting :=
      if ending = some .semicolon ∧ s.beginFunction.functionNesting = 0 then -1
      else s.beginFunction.functionNesting }

/-- In the body of another function, beginning one changes nothing. -/
theorem beginFunction_of_pos (h : 0 < s.functionNesting) : s.beginFunction = s := by
  unfold beginFunction
  rw [if_pos h]

/-- On the way to its body, a function is counted. -/
theorem functionNesting_beginFunction (s : SurveyState) : 0 ≤ s.beginFunction.functionNesting := by
  dsimp only [beginFunction]
  split <;> omega

/-- Beginning a class leaves the count for functions. -/
@[simp] theorem functionNesting_enter (s : SurveyState) (context : Context) :
    (s.enter context).functionNesting = s.functionNesting := by
  unfold enter
  split <;> rfl

/-- A class begun where the innermost one has opened its body goes on top of it. -/
theorem contexts_enter (hopened : ∀ c ∈ s.context?, 1 ≤ c.depth) (context : Context) :
    (s.enter context).contexts = context :: s.contexts := by
  unfold enter
  rcases hcontexts : s.contexts with _ | ⟨top, outer⟩
  · rfl
  · have htop : 1 ≤ top.depth := hopened top (by rw [context?, hcontexts]; rfl)
    dsimp only
    rw [if_neg (by omega)]

/-- Once a class has been begun, one is open. -/
theorem isEmpty_contexts_enter (s : SurveyState) (context : Context) :
    (s.enter context).contexts.isEmpty = false := by
  unfold enter
  split
  · dsimp only
    split <;> rfl
  · rfl

/-- A brace opens no class. -/
@[simp] theorem enclosing?_openBrace (s : SurveyState) : s.openBrace.enclosing? = s.enclosing? := by
  obtain ⟨cursor, contexts, nesting, last, file⟩ := s
  rcases contexts with _ | ⟨top, outer⟩ <;> rfl

/-- A brace opens the body of a class begun, and otherwise goes deeper in one. -/
theorem opened_openBrace (h : ∀ c ∈ s.context?, 0 ≤ c.depth) :
    ∀ c ∈ s.openBrace.context?, 1 ≤ c.depth := by
  intro c hc
  dsimp only [openBrace, context?] at hc
  rcases hcontexts : s.contexts with _ | ⟨top, outer⟩
  · rw [hcontexts] at hc
    exact absurd hc (Option.not_mem_none _)
  · rw [hcontexts] at hc
    have htop : 0 ≤ top.depth := h top (by rw [context?, hcontexts]; rfl)
    obtain rfl := Option.some.inj hc
    dsimp only
    omega

/-- **A pair of braces cancels out** for the innermost class, if it has opened its body. -/
theorem contexts_closeBrace_openBrace (hopened : ∀ c ∈ s.context?, 1 ≤ c.depth) :
    s.openBrace.closeBrace.contexts = s.contexts := by
  dsimp only [openBrace, closeBrace]
  rcases hcontexts : s.contexts with _ | ⟨top, outer⟩
  · rfl
  · have htop : 1 ≤ top.depth := hopened top (by rw [context?, hcontexts]; rfl)
    -- two deep at least, so the closing brace does not leave the class
    dsimp only
    rw [if_neg (by omega), Int.add_sub_cancel]

/-- **The braces of its body close a class** that was just begun. -/
theorem contexts_closeBrace_enter (hopened : ∀ c ∈ s.context?, 1 ≤ c.depth) {context : Context}
    (hdepth : context.depth = 0) :
    (s.enter context).openBrace.closeBrace.contexts = s.contexts := by
  dsimp only [openBrace, closeBrace]
  rw [contexts_enter hopened]
  -- one deep behind the opening brace, which is where the closing one leaves a class
  dsimp only
  rw [if_pos (by omega)]

/-- **A pair of braces cancels out** for the count of functions, where it is not that of a function
on the way to its body. -/
theorem functionNesting_closeBrace_openBrace
    (h : s.functionNesting = -1 ∨ 0 < s.functionNesting) :
    s.openBrace.closeBrace.functionNesting = s.functionNesting := by
  dsimp only [openBrace, closeBrace]
  rcases h with hnone | hsome
  · rw [hnone]
    rfl
  · rw [if_pos (show 0 ≤ s.functionNesting by omega), if_pos (by omega), Int.add_sub_cancel]

/-- **The braces of its body leave a function** that was just begun, and no other one. -/
theorem functionNesting_closeBrace_beginFunction
    (h : s.functionNesting = -1 ∨ 0 < s.functionNesting) :
    s.beginFunction.openBrace.closeBrace.functionNesting = s.functionNesting := by
  rcases h with hnone | hsome
  · dsimp only [openBrace, closeBrace, beginFunction]
    rw [hnone]
    rfl
  · rw [beginFunction_of_pos hsome, functionNesting_closeBrace_openBrace (Or.inr hsome)]

/-- Before its body a function has only been begun. -/
theorem afterHeader_openBrace (s : SurveyState) :
    s.afterHeader (some .openBrace) = s.beginFunction := by
  unfold afterHeader
  rw [if_neg (fun hbodiless => by cases hbodiless.1)]
  rfl

/-- **A function without a body leaves the count** as it was. -/
theorem functionNesting_afterHeader_semicolon
    (h : s.functionNesting = -1 ∨ 0 < s.functionNesting) :
    (s.afterHeader (some .semicolon)).functionNesting = s.functionNesting := by
  rcases h with hnone | hsome
  · have hbegun : s.beginFunction.functionNesting = 0 := by
      dsimp only [beginFunction]
      rw [hnone]
      rfl
    rw [hnone]
    exact if_pos ⟨rfl, hbegun⟩
  -- in the body of another function the count is that one's, which goes on
  · dsimp only [afterHeader]
    rw [beginFunction_of_pos hsome]
    exact if_neg (fun hbodiless => by omega)

end SurveyState

/-- **Behind an opening brace** the state fits the scope it opens. -/
theorem Scope.fits_openBrace {scope : Scope} {s : SurveyState} (howner : s.enclosing? = scope.owner)
    (hopened : ∀ c ∈ s.context?, 0 ≤ c.depth)
    (hinside : scope.inBody = true → 0 ≤ s.functionNesting)
    (houtside : scope.inBody = false → s.functionNesting = -1) : scope.Fits s.openBrace := by
  refine ⟨?_, SurveyState.opened_openBrace hopened, fun hbody => ?_, fun hbody => ?_⟩
  · rw [SurveyState.enclosing?_openBrace, howner]
  · have hcount := hinside hbody
    dsimp only [SurveyState.openBrace]
    rw [if_pos hcount]
    omega
  · have hcount := houtside hbody
    dsimp only [SurveyState.openBrace]
    rw [hcount]
    rfl

namespace Scope.Fits

variable {scope : Scope} {s : SurveyState}

/-- The count for functions is never that of a function on the way to its body. -/
theorem count (h : scope.Fits s) : s.functionNesting = -1 ∨ 0 < s.functionNesting := by
  cases hbody : scope.inBody with
  | false => exact Or.inl (h.outside hbody)
  | true => exact Or.inr (h.inside hbody)

/-- The state is in a function's body where the scope is. -/
theorem inFunctionBody (h : scope.Fits s) : s.inFunctionBody = scope.inBody := by
  cases hbody : scope.inBody with
  | false => exact decide_eq_false (by rw [h.outside hbody]; decide)
  | true => exact decide_eq_true (h.inside hbody)

/-- The count for functions is not above zero where the scope is outside of all bodies. -/
theorem nesting_nonpos (h : scope.Fits s) : decide (s.functionNesting ≤ 0) = !scope.inBody := by
  cases hbody : scope.inBody with
  | false => exact decide_eq_true (by rw [h.outside hbody]; decide)
  | true =>
    have hcount := h.inside hbody
    exact decide_eq_false (by omega)

/-- No class is open exactly where the scope has no owner. -/
theorem contexts_isEmpty (h : scope.Fits s) : s.contexts.isEmpty = scope.owner.isNone := by
  rw [← h.owner, SurveyState.enclosing?, SurveyState.context?]
  rcases s.contexts with _ | ⟨top, outer⟩ <;> rfl

/-- The innermost class has a depth that is not below zero. -/
theorem depth_nonneg (h : scope.Fits s) : ∀ c ∈ s.context?, 0 ≤ c.depth := by
  intro c hc
  have hdepth := h.opened c hc
  omega

/-- **In a block** the scope is the same. -/
theorem openBrace (h : scope.Fits s) : scope.Fits s.openBrace := by
  refine fits_openBrace h.owner h.depth_nonneg (fun hbody => ?_) h.outside
  have hcount := h.inside hbody
  omega

/-- **In the body of a class** the owner is the class, and a function's body around it goes on. -/
theorem enter (h : scope.Fits s) {context : Context} (hdepth : context.depth = 0) :
    Scope.Fits { scope with owner := some context.name } (s.enter context).openBrace := by
  have hcontext : (s.enter context).context? = some context := by
    rw [SurveyState.context?, SurveyState.contexts_enter h.opened]
    rfl
  refine fits_openBrace ?_ ?_ ?_ ?_
  · rw [SurveyState.enclosing?, hcontext]
    rfl
  · rw [hcontext]
    rintro c ⟨⟩
    omega
  · intro hbody
    have hcount := h.inside hbody
    rw [SurveyState.functionNesting_enter]
    omega
  · intro hbody
    rw [SurveyState.functionNesting_enter, h.outside hbody]

/-- **In the body of a function** the owner is the same. -/
theorem beginFunction (h : scope.Fits s) :
    Scope.Fits { scope with inBody := true } s.beginFunction.openBrace :=
  fits_openBrace h.owner h.depth_nonneg (fun _ => s.functionNesting_beginFunction)
    (fun hbody => absurd hbody.symm Bool.false_ne_true)

end Scope.Fits

end DocCoverage
