/-
No doc comment is credited twice. Each check looks backward on its own, and the survey jumps over
headers with doc comments in them; so what has to be known is that no check reaches back across an
earlier one, and that it reaches into nothing that was jumped over.

The first is a fact about the tokens: the keyword or name of a declaration is no modifier, and only
modifiers stand between a comment and what it is attached to. The second is an invariant: a comment
behind the place of the survey that a declaration ahead may claim is the one remembered last, or it
is the leading comment and none has been remembered since.
-/
import DocCoverage.Proofs.Survey.Reached

set_option autoImplicit false

namespace DocCoverage

variable {stream : TokenStream} {defines : Bool} {s s' : SurveyState} {events : List Event}

/-! ## Comments that may still be claimed -/

/-- **All that may still be claimed is remembered:** if a declaration ahead finds a comment behind
the survey's place, the comment is the one remembered last, or it is the leading comment and none is
remembered. -/
def SurveyState.Remembers (stream : TokenStream) (s : SurveyState) : Prop :=
  ∀ (c : Check) (anchor i : Int), c.LookedAt stream anchor → s.cursor ≤ anchor →
    c.doc = some i → i < s.cursor →
      s.lastDocComment = i ∨ (fileComment stream).doc = some i ∧ s.lastDocComment = -1

/-- The end of a header hides the comments in it from all declarations behind. -/
theorem not_attached_across_header {c : Check} {anchor body i : Int}
    (hend : body < stream.size →
      stream.kind? body = some .openBrace ∨ stream.kind? body = some .semicolon)
    (hcheck : c.LookedAt stream anchor) (hle : body ≤ anchor) (hi : i < body) :
    c.doc ≠ some i := by
  intro hdoc
  -- the header's end would be the anchor itself or one of the modifiers before it
  have hbetween : ∃ kind, stream.kind? body = some kind
      ∧ (kind.isAnchor = true ∨ kind.isModifier = true) := by
    rcases Int.lt_or_eq_of_le hle with hlt | rfl
    · obtain ⟨kind, hkind, hmodifier⟩ := isModifier_of_attached (hcheck.attached hdoc) hi hlt
      exact ⟨kind, hkind, Or.inr hmodifier⟩
    · obtain ⟨kind, hkind, hanchor⟩ := hcheck.isAnchor
      exact ⟨kind, hkind, Or.inl hanchor⟩
  obtain ⟨kind, hkind, hclass⟩ := hbetween
  rcases hend (TokenStream.bounds_of_kind? hkind).2 with hbrace | hsemicolon
  · rw [hkind] at hbrace
    obtain rfl := Option.some.inj hbrace
    rcases hclass with h | h <;> exact Bool.false_ne_true h
  · rw [hkind] at hsemicolon
    obtain rfl := Option.some.inj hsemicolon
    rcases hclass with h | h <;> exact Bool.false_ne_true h

/-- **No comment that a step jumps over is found from behind.** -/
theorem Moves.not_found_across (h : Moves stream s s' events) {c : Check} {anchor i : Int}
    (hcheck : c.LookedAt stream anchor) (hle : s'.cursor ≤ anchor) (hfrom : s.cursor < i)
    (hto : i < s'.cursor) : c.doc ≠ some i := by
  cases h with
  | pass => exact absurd hto (Int.not_lt.2 hfrom)
  | docComment => exact absurd hto (Int.not_lt.2 hfrom)
  | openBrace => exact absurd hto (Int.not_lt.2 hfrom)
  | closeBrace => exact absurd hto (Int.not_lt.2 hfrom)
  | member c' =>
    rw [SurveyState.cursor_claim] at hto
    exact absurd hto (Int.not_lt.2 hfrom)
  | context c' context next replaced hlooked hdepth hnext =>
    rw [SurveyState.cursor_claim, SurveyState.cursor_moveTo] at hto
    rcases hnext with ⟨hname, -⟩ | hone
    · intro hdoc
      have hblank := blank_of_skipBlankForward hfrom (hname ▸ hto)
      have hkind := (hcheck.attached hdoc).2.1
      rw [hblank] at hkind
      cases hkind
    · omega
  | function c' body hlooked hbody =>
    rw [SurveyState.cursor_claim, SurveyState.cursor_moveTo] at hle hto
    refine not_attached_across_header ?_ hcheck hle hto
    rw [hbody]
    exact kind?_bodyFrom 0

/-! ## What steps and surveys remember -/

namespace SurveyState.Remembers

/-- **A step remembers all that may still be claimed.** -/
theorem moves (h : s.Remembers stream) (hmoves : Moves stream s s' events)
    (hlt : s.cursor < s'.cursor) : s'.Remembers stream := by
  intro c anchor i hcheck hle hdoc hi
  have hattached := hcheck.attached hdoc
  have hkind := hattached.2.1
  have hrecalls := hmoves.recalls
  generalize s'.lastDocComment = last at hrecalls ⊢
  rcases Int.lt_trichotomy i s.cursor with hbehind | hhere | hahead
  -- behind the place already: the token there is a modifier, so nothing was claimed
  · obtain ⟨kind, hat, hmodifier⟩ := isModifier_of_attached hattached hbehind (by omega)
    cases hrecalls with
    | same => exact h c anchor i hcheck (by omega) hdoc hbehind
    | seen hseen =>
      rw [hat] at hseen
      obtain rfl := Option.some.inj hseen
      exact absurd hmodifier Bool.false_ne_true
    | check c' others hlooked =>
      exact absurd hattached (hlooked.not_attached_across hbehind (by omega))
  -- under the cursor: it has just been seen
  · rw [hhere] at hkind
    cases hrecalls with
    | same hother => exact absurd hkind hother
    | seen => exact Or.inl hhere.symm
    | check c' others hlooked => exact absurd hkind (hlooked.kind_ne rfl)
  · exact absurd hdoc (hmoves.not_found_across hcheck hle hahead hi)

/-- A release forgets nothing of it. -/
theorem release (h : s.Remembers stream) : s.release.Remembers stream := by
  unfold SurveyState.release
  split
  · exact h
  · exact h

end SurveyState.Remembers

/-- **In the beginning** only the leading comment may be claimed. -/
theorem remembers_startState (stream : TokenStream) : (startState stream).Remembers stream := by
  intro c anchor i hcheck _ hdoc hi
  have hkind := (hcheck.attached hdoc).2.1
  have hnonneg := (TokenStream.bounds_of_kind? hkind).1
  have hbehind : ¬ i < (fileComment stream).start := by
    intro hlt
    rcases kind?_opening stream i hnonneg hlt with hopening | hopening
    · rw [hkind] at hopening
      cases hopening
    · rw [hkind] at hopening
      cases hopening
  cases hleading : (fileComment stream).doc with
  | none =>
    rw [startState_of_none hleading] at hi
    exact absurd hi hbehind
  | some d =>
    obtain ⟨hd, -⟩ := fileComment_doc_eq_some hleading
    rw [startState_of_some hleading] at hi ⊢
    dsimp only at hi
    have hi' : d = i := by omega
    exact Or.inr ⟨congrArg some hi', rfl⟩

/-! ## Claims -/

/-- The checks among what a step notices: one at most, and that one under the cursor. -/
theorem Recalls.checks {last : Int} (h : Recalls stream s last events) :
    events.filterMap Event.check? = []
      ∨ ∃ c : Check, c.LookedAt stream s.cursor ∧ events.filterMap Event.check? = [c]
        ∧ last = c.doc.getD s.lastDocComment := by
  cases h with
  | same => exact Or.inl rfl
  | seen => exact Or.inl rfl
  | check c others hlooked hchecks =>
    refine Or.inr ⟨c, hlooked, ?_, rfl⟩
    rw [List.filterMap_cons_some (f := Event.check?) rfl, hchecks]

/-- A check that a step notices is made under the cursor. -/
theorem lookedAt_of_mem {c : Check} (h : Event.check c ∈ (step stream defines s).2) :
    c.LookedAt stream s.cursor := by
  have hmem := mem_filterMap_check?_iff.2 h
  rcases (moves_step stream defines s).recalls.checks with hnone | ⟨c', hlooked, hone, -⟩
  · rw [hnone] at hmem
    exact absurd hmem List.not_mem_nil
  · rw [hone, List.mem_singleton] at hmem
    rw [hmem]
    exact hlooked

/-- **A comment that is claimed is remembered,** or it is the leading comment and none is. -/
theorem SurveyState.Remembers.claimed (h : s.Remembers stream) {c : Check}
    (hcheck : c.LookedAt stream s.cursor) {i : Int} (hdoc : c.doc = some i) :
    s.lastDocComment = i ∨ (fileComment stream).doc = some i ∧ s.lastDocComment = -1 :=
  h c s.cursor i hcheck (Int.le_refl _) hdoc (hcheck.attached hdoc).1

/-- **The comment remembered last is never one farther back than before.** -/
theorem Moves.lastDocComment_le (h : Moves stream s s' events) (hsound : s.Sound stream)
    (hremembers : s.Remembers stream) : s.lastDocComment ≤ s'.lastDocComment := by
  have hrecalls := h.recalls
  generalize s'.lastDocComment = last at hrecalls ⊢
  cases hrecalls with
  | same => exact Int.le_refl _
  | seen hkind =>
    have hbounds := TokenStream.bounds_of_kind? hkind
    rcases hsound.last_doc with hnone | ⟨-, hbehind⟩ <;> omega
  | check c others hlooked =>
    cases hdoc : c.doc with
    | none => exact Int.le_refl _
    | some i =>
      have hbounds := TokenStream.bounds_of_kind? (hlooked.attached hdoc).2.1
      change s.lastDocComment ≤ i
      rcases hremembers.claimed hlooked hdoc with hsame | ⟨-, hnone⟩ <;> omega

/-- A release leaves the comment remembered last. -/
theorem SurveyState.lastDocComment_release (s : SurveyState) :
    s.release.lastDocComment = s.lastDocComment := by
  unfold SurveyState.release
  split <;> rfl

/-! ## Whole surveys -/

/-- What is kept of a state: it is sound, and all that may still be claimed is remembered. -/
theorem remembers_visit (defines : Bool) (hsound : s.Sound stream)
    (hremembers : s.Remembers stream) (hlt : s.cursor < stream.size) :
    ((visit stream defines s).after.Sound stream ∧ (visit stream defines s).after.Remembers stream)
      ∧ s.lastDocComment ≤ (visit stream defines s).after.lastDocComment := by
  have hmoves := moves_step stream defines s
  refine ⟨⟨(sound_visit defines hlt hsound).2.1, ?_⟩, ?_⟩
  · rw [after_visit]
    exact (hremembers.moves hmoves (cursor_lt_step s)).release
  · rw [after_visit, SurveyState.lastDocComment_release]
    exact hmoves.lastDocComment_le hsound hremembers

/-- The states before the visits from a state on, and the one at the end. -/
def statesFrom (stream : TokenStream) (defines : Bool) (s : SurveyState) : List SurveyState :=
  (visitsFrom stream defines s).map Visit.before ++ [endFrom stream defines s]

/-- **The comment remembered last only goes forward in a survey.** -/
theorem statesFrom_ordered (s : SurveyState) (hsound : s.Sound stream)
    (hremembers : s.Remembers stream) :
    (∀ t ∈ statesFrom stream defines s, s.lastDocComment ≤ t.lastDocComment)
      ∧ (statesFrom stream defines s).Pairwise
        fun t u => t.lastDocComment ≤ u.lastDocComment := by
  induction s using visitsFrom.induct stream defines with
  | case1 s hlt v ih =>
    obtain ⟨⟨hsound', hremembers'⟩, hle⟩ := remembers_visit defines hsound hremembers hlt
    obtain ⟨hahead, hordered⟩ := ih hsound' hremembers'
    have hstates : statesFrom stream defines s = s :: statesFrom stream defines v.after := by
      rw [statesFrom, endFrom_visit hlt, visitsFrom, if_pos hlt]
      rfl
    have hlater : ∀ t ∈ statesFrom stream defines v.after,
        s.lastDocComment ≤ t.lastDocComment := by
      intro t ht
      exact Int.le_trans hle (hahead t ht)
    rw [hstates]
    refine ⟨fun t ht => ?_, List.pairwise_cons.2 ⟨hlater, hordered⟩⟩
    rcases List.mem_cons.1 ht with rfl | ht
    · exact Int.le_refl _
    · exact hlater t ht
  | case2 s hge =>
    have hstates : statesFrom stream defines s = [s] := by
      rw [statesFrom, endFrom_end (by omega), visitsFrom, if_neg hge]
      rfl
    rw [hstates]
    refine ⟨fun t ht => ?_, List.pairwise_singleton _ _⟩
    rw [List.mem_singleton.1 ht]

/-- **The checks of a survey go forward:** each is made at or behind the place it is made from, and
behind all earlier ones. -/
theorem checksFrom_ordered (stream : TokenStream) (defines : Bool) (s : SurveyState) :
    (∀ c ∈ checksFrom stream defines s, s.cursor ≤ c.anchor ∧ c.LookedAt stream c.anchor)
      ∧ (checksFrom stream defines s).Pairwise fun c d => c.anchor < d.anchor := by
  induction s using visitsFrom.induct stream defines with
  | case1 s hlt v ih =>
    obtain ⟨hahead, hordered⟩ := ih
    have hpassed : s.cursor < v.after.cursor := cursor_lt_after v
    have hlater : ∀ c ∈ checksFrom stream defines v.after,
        s.cursor ≤ c.anchor ∧ c.LookedAt stream c.anchor := by
      intro c hc
      obtain ⟨hle, hlooked⟩ := hahead c hc
      exact ⟨by omega, hlooked⟩
    rw [checksFrom_visit hlt]
    rcases (moves_step stream defines s).recalls.checks with hnone | ⟨c, hlooked, hone, -⟩
    · rw [hnone, List.nil_append]
      exact ⟨hlater, hordered⟩
    · have hanchor := hlooked.anchor_eq
      rw [hone, List.singleton_append]
      refine ⟨fun d hd => ?_, List.pairwise_cons.2 ⟨fun d hd => ?_, hordered⟩⟩
      · rcases List.mem_cons.1 hd with rfl | hd
        · rw [hanchor]
          exact ⟨Int.le_refl _, hlooked⟩
        · exact hlater d hd
      · have hle := (hahead d hd).1
        omega
  | case2 s hge =>
    rw [checksFrom_end (by omega)]
    exact ⟨fun c hc => absurd hc List.not_mem_nil, List.Pairwise.nil⟩

/-- **No doc comment is credited twice.** No two checks of a survey find the same comment. A comment
found is the one remembered last before the step, or the leading comment while none is remembered;
so the comment remembered last never is one farther back than before, neither in a step nor from one
visit to any later one nor at the end. -/
theorem comments_credited_once (stream : TokenStream) (defines : Bool) :
    ((Survey.of stream defines).checks.Pairwise fun c d => ∀ i, c.doc = some i → d.doc ≠ some i)
      ∧ (∀ v ∈ (Survey.of stream defines).visits, ∀ c, Event.check c ∈ v.events →
          ∀ i, c.doc = some i →
            v.before.lastDocComment = i
              ∨ (fileComment stream).doc = some i ∧ v.before.lastDocComment = -1)
      ∧ (∀ v ∈ (Survey.of stream defines).visits,
          v.before.lastDocComment ≤ v.stepped.lastDocComment
            ∧ v.stepped.lastDocComment = v.after.lastDocComment)
      ∧ ((Survey.of stream defines).visits.map Visit.before
          ++ [(Survey.of stream defines).final]).Pairwise
            fun s t => s.lastDocComment ≤ t.lastDocComment := by
  have hstart := And.intro (sound_startState stream) (remembers_startState stream)
  have hkeep : ∀ s : SurveyState, s.cursor < stream.size → s.Sound stream ∧ s.Remembers stream →
      (visit stream defines s).after.Sound stream
        ∧ (visit stream defines s).after.Remembers stream :=
    fun s hlt h => (remembers_visit defines h.1 h.2 hlt).1
  have hvisits := forall_visitsFrom hkeep (startState stream) hstart
  refine ⟨?_, ?_, ?_, (statesFrom_ordered (startState stream) hstart.1 hstart.2).2⟩
  -- of two checks the later one would have to reach across the earlier one
  · obtain ⟨hlooked, hordered⟩ := checksFrom_ordered stream defines (startState stream)
    rw [checks_eq_checksFrom]
    refine hordered.imp_of_mem ?_
    intro c d hc hd hlt i hcdoc hddoc
    have hearlier := (hlooked c hc).2
    have hi : i < c.anchor := (hearlier.attached hcdoc).1
    exact hearlier.not_attached_across hi hlt ((hlooked d hd).2.attached hddoc)
  · intro v hv c hc i hdoc
    obtain ⟨hvisit, -, -, hremembers⟩ := hvisits v hv
    rw [hvisit] at hc
    exact hremembers.claimed (lookedAt_of_mem hc) hdoc
  · intro v hv
    obtain ⟨hvisit, -, hsound, hremembers⟩ := hvisits v hv
    have hmoves := moves_step stream defines v.before
    rw [hvisit]
    refine ⟨hmoves.lastDocComment_le hsound hremembers, ?_⟩
    rw [after_visit, SurveyState.lastDocComment_release]
    rfl

end DocCoverage
