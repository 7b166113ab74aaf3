/-
Findings come in the order of the file. The line of a finding is that of some token, but seldom of
the one under the cursor: a class or a function stands on the line of its name, a class constant on
that of the last word before its value, and the file on that of its opening. What is looked at later
could stand before a name that was looked up ahead.

It does not. A survey jumps to the name of a class, and past the name of a function to its body. Past
the name of a class constant it does not jump, but on the way there it meets words and white space
only, and inside a class neither makes a check. So every check is on the line of a token at its anchor
or behind, and before the anchors of all later checks; and the lines of tokens never go down.

The finding about the file is the first one, on the line of the opening or on the first line. Which of
the two depends on when the file turns out to have no comment, and they may differ.
-/
import DocCoverage.Proofs.Survey.LeadingComment
import DocCoverage.Proofs.Token.Lossless
import DocCoverage.Run.Visit

set_option autoImplicit false

namespace DocCoverage

/-! ## The lines of a file -/

/-- More tokens have no fewer line ends. -/
theorem count_joinedText_take_le (tokens : List Token) {m n : Nat} (h : m ≤ n) :
    (joinedText (tokens.take m)).toList.count '\n'
      ≤ (joinedText (tokens.take n)).toList.count '\n' := by
  have hsplit := List.take_append_drop m (tokens.take n)
  rw [List.take_take, Nat.min_eq_left h] at hsplit
  rw [← hsplit]
  unfold joinedText
  rw [List.map_append, String.join_append, String.toList_append, List.count_append]
  exact Nat.le_add_right _ _

namespace TokenStream

/-- **The lines of a stream are in order,** from the first one to the line `last`. -/
structure InOrder (s : TokenStream) (last : Nat) : Prop where
  ordered : ∀ {i j : Int} {t u : Token}, i ≤ j → s.at? i = some t → s.at? j = some u →
    t.line ≤ u.line
  pos : ∀ {i : Int} {t : Token}, s.at? i = some t → 1 ≤ t.line
  le_last : ∀ {i : Int} {t : Token}, s.at? i = some t → t.line ≤ last

/-- A token stands behind the line ends of those before it. -/
theorem line_ofSource {source : String} {i : Int} {t : Token}
    (h : (ofSource source).at? i = some t) :
    t.line = 1 + (joinedText ((ofSource source).tokens.toList.take i.toNat)).toList.count '\n' := by
  have hnonneg := (bounds_of_at? h).1
  rw [at?, if_pos hnonneg, ← Array.getElem?_toList, toList_ofSource] at h
  rw [toList_ofSource]
  obtain ⟨hlt, hat⟩ := List.getElem?_eq_some_iff.1 h
  have hsplit : ({} : Reading).tokens source.toList
      = (({} : Reading).tokens source.toList).take i.toNat
        ++ t :: (({} : Reading).tokens source.toList).drop (i.toNat + 1) := by
    rw [← hat, ← List.drop_eq_getElem_cons, List.take_append_drop]
  obtain ⟨c, left, -, htoken⟩ := Reading.resume_token hsplit
  rw [htoken]
  exact Reading.line_afterAll {} _

/-- **The lines of a file are in order,** and there is one more of them than line ends. -/
theorem inOrder_ofSource (source : String) :
    (ofSource source).InOrder (1 + source.toList.count '\n') where
  ordered := by
    intro i j t u hle ht hu
    rw [line_ofSource ht, line_ofSource hu]
    have hcount := count_joinedText_take_le (ofSource source).tokens.toList
      (show i.toNat ≤ j.toNat by omega)
    omega
  pos := by
    intro i t ht
    rw [line_ofSource ht]
    omega
  le_last := by
    intro i t ht
    have hall : joinedText (ofSource source).tokens.toList = source := by
      rw [toList_ofSource, Reading.joinedText_tokens, String.ofList_toList]
    have hcount := count_joinedText_take_le (ofSource source).tokens.toList
      (Nat.le_max_left i.toNat (ofSource source).tokens.toList.length)
    rw [List.take_of_length_le (Nat.le_max_right _ _), hall] at hcount
    rw [line_ofSource ht]
    omega

end TokenStream

variable {stream : TokenStream} {defines : Bool} {s : SurveyState}

/-! ## Where the line of a check comes from -/

/-- The check is on the line of the token at `j`. -/
def Check.OnLineOf (stream : TokenStream) (c : Check) (j : Int) : Prop :=
  ∃ t, stream.at? j = some t ∧ c.line = t.line

/-- **The line of a check is settled in its step:** it is that of a token at the cursor or behind,
and no farther than the cursor goes; or inside a class, with words and white space only from where
the cursor goes to that token. -/
def Check.LineSettled (stream : TokenStream) (s s' : SurveyState) (c : Check) : Prop :=
  ∃ j, c.OnLineOf stream j ∧ s.cursor ≤ j
    ∧ (j ≤ s'.cursor ∨ s'.contexts.isEmpty = false ∧ Names stream s'.cursor j)

section Step

variable {t : Token} {c : Check}

/-- A check on the line of the token under the cursor. -/
theorem lineSettled_here {s' : SurveyState} (hat : stream.at? s.cursor = some t)
    (hline : c.line = t.line) (hpassed : s.cursor < s'.cursor) : c.LineSettled stream s s' :=
  ⟨s.cursor, ⟨t, hat, hline⟩, Int.le_refl _, Or.inl (Int.le_of_lt hpassed)⟩

/-- A class is on the line of its name, to which the cursor goes, or of its keyword. -/
theorem lineSettled_stepContext (hat : stream.at? s.cursor = some t) (declaration : Declaration)
    (h : .check c ∈ (stepContext stream s declaration t).2) :
    c.LineSettled stream s (stepContext stream s declaration t).1 := by
  have hpassed : s.cursor < (stepContext stream s declaration t).1.cursor :=
    cursor_lt_stepContext s declaration t
  have hname := lt_skipBlankForward stream s.cursor
  unfold stepContext at h hpassed ⊢
  dsimp only at h hpassed ⊢
  have hcheck : ∀ {check : Check} {replaced : Bool} {context : Context},
      .check c ∈ Event.check check :: (if replaced then [Event.replaced context] else []) →
        c = check := by
    intro check replaced context hmem
    rcases List.mem_cons.1 hmem with hfirst | hrest
    · exact Event.check.inj hfirst
    · cases replaced with
      | true => cases List.mem_singleton.1 hrest
      | false => cases hrest
  obtain rfl := hcheck h
  rcases hfound : stream.at? (stream.skipBlankForward s.cursor) with _ | found
  · rw [hfound] at hpassed
    exact lineSettled_here hat rfl hpassed
  · rw [hfound] at hpassed
    dsimp only at hpassed ⊢
    by_cases hkind : found.kind = .identifier
    · simp only [if_pos hkind] at hpassed ⊢
      refine ⟨stream.skipBlankForward s.cursor, ⟨found, hfound, rfl⟩, by omega, Or.inl ?_⟩
      rw [SurveyState.cursor_claim, SurveyState.cursor_moveTo]
    · simp only [if_neg hkind] at hpassed ⊢
      exact lineSettled_here hat rfl hpassed

/-- A function is on the line of its name, which the cursor passes, or of its keyword. -/
theorem lineSettled_stepFunction (hat : stream.at? s.cursor = some t)
    (h : .check c ∈ (stepFunction stream s t).2) :
    c.LineSettled stream s (stepFunction stream s t).1 := by
  have hpassed : s.cursor < (stepFunction stream s t).1.cursor := cursor_lt_stepFunction s t
  unfold stepFunction at h hpassed ⊢
  split at h
  next => cases h
  next himport =>
    rw [if_neg himport] at hpassed ⊢
    dsimp only at h hpassed ⊢
    obtain rfl := Event.check.inj (List.mem_singleton.1 h)
    rcases hname : functionNameToken? stream s.cursor with _ | found
    · exact lineSettled_here hat rfl hpassed
    · dsimp only
      by_cases hkind : found.kind = .identifier
      · obtain ⟨j, hj, hlt, hbody⟩ := at?_functionNameToken? hname hkind
        simp only [if_pos hkind]
        refine ⟨j, ⟨found, hj, rfl⟩, Int.le_of_lt hlt, Or.inl ?_⟩
        rw [SurveyState.cursor_claim, SurveyState.cursor_moveTo]
        exact Int.le_of_lt hbody
      · simp only [if_neg hkind]
        exact lineSettled_here hat rfl hpassed

/-- A class constant is on the line of its name, to which words and white space lead, or of its
keyword. -/
theorem lineSettled_classConstant (hat : stream.at? s.cursor = some t) {name : Option Token}
    (hname : name = constantNameFrom stream none (s.cursor + 1))
    (hinside : s.contexts.isEmpty = false) (hline : c.line = name.elim (t.line : Int) (·.line)) :
    c.LineSettled stream s (s.advance.claim c.doc) := by
  rcases name with _ | found
  · exact lineSettled_here hat hline (s.cursor_lt_advance_claim _)
  · obtain ⟨j, hle, hj, hnames⟩ :=
      (names_of_constantNameFrom hname.symm).resolve_left (fun hnone => by cases hnone)
    refine ⟨j, ⟨found, hj, hline⟩, by omega, Or.inr ⟨?_, ?_⟩⟩
    · rw [SurveyState.contexts_claim]
      exact hinside
    · rw [SurveyState.cursor_claim]
      exact hnames

/-- **Every step settles the lines of its checks.** -/
theorem lineSettled_step (h : .check c ∈ (step stream defines s).2) :
    c.LineSettled stream s (step stream defines s).1 := by
  obtain ⟨t, hat, hchecked⟩ := checked_of_step h
  cases hchecked with
  | context declaration hdeclaration hstep =>
    rw [hstep] at h ⊢
    exact lineSettled_stepContext hat declaration h
  | function hdeclaration hstep =>
    rw [hstep] at h ⊢
    exact lineSettled_stepFunction hat h
  | property hinside houtside hcheck hstep =>
    rw [hstep]
    exact lineSettled_here hat (by rw [hcheck, Check.line_run]) (s.cursor_lt_advance_claim _)
  | classConstant name hname hinside hcheck hstep =>
    rw [hstep]
    exact lineSettled_classConstant hat hname hinside (by rw [hcheck, Check.line_run])
  | constant name hdefines hclasses houtside hcheck hstep =>
    rw [hstep]
    exact lineSettled_here hat (by rw [hcheck, Check.line_run]) (s.cursor_lt_advance_claim _)

end Step

/-! ## Where nothing is looked at -/

/-- Inside a class, words and white space are passed over. -/
theorem step_of_name (hinside : s.contexts.isEmpty = false)
    (hkind : stream.kind? s.cursor = some .identifier ∨ stream.kind? s.cursor = some .whitespace) :
    step stream defines s = (s.advance, []) := by
  unfold step
  rcases hat : stream.at? s.cursor with _ | t
  · rfl
  · have hhere : stream.kind? s.cursor = some t.kind := congrArg (Option.map Token.kind) hat
    dsimp only
    rw [hhere] at hkind
    rcases hkind with hword | hblank
    · rw [Option.some.inj hword]
      dsimp only
      unfold stepIdentifier
      rw [hinside, if_neg (by simp)]
    · rw [Option.some.inj hblank]

/-- **No check is made before a name that words and white space lead to.** -/
theorem lt_anchor_of_names {j : Int} (hinside : s.contexts.isEmpty = false)
    (hnames : Names stream s.cursor j) : ∀ d ∈ checksFrom stream defines s, j < d.anchor := by
  induction s using visitsFrom.induct stream defines with
  | case1 s hlt v ih =>
    rcases Int.lt_or_le j s.cursor with hbehind | hahead
    · intro d hd
      have hle := ((checksFrom_ordered stream defines s).1 d hd).1
      omega
    · have hstep : step stream defines s = (s.advance, []) :=
        step_of_name hinside (hnames s.cursor (Int.le_refl _) hahead)
      have hafter : v.after = s.advance.release := by rw [after_visit, hstep]
      have hcursor : v.after.cursor = s.cursor + 1 := by
        rw [hafter, SurveyState.cursor_release]
        rfl
      rw [checksFrom_visit hlt, hstep]
      refine ih ?_ fun i hfirst hlast => hnames i (by omega) hlast
      rw [hafter, SurveyState.contexts_release]
      exact hinside
  | case2 s hge =>
    rw [checksFrom_end (by omega)]
    exact fun d hd => absurd hd List.not_mem_nil

/-! ## The lines of all checks -/

/-- **The checks of a survey are in the order of their lines.** Each is on the line of a token at its
anchor or behind, and no later one is on an earlier line. -/
theorem checksFrom_lines {last : Nat} (defines : Bool) (hlines : stream.InOrder last)
    (s : SurveyState) :
    (∀ c ∈ checksFrom stream defines s, ∃ j, c.OnLineOf stream j ∧ c.anchor ≤ j)
      ∧ (checksFrom stream defines s).Pairwise fun c d => c.line ≤ d.line := by
  induction s using visitsFrom.induct stream defines with
  | case1 s hlt v ih =>
    obtain ⟨hplaced, hordered⟩ := ih
    rw [checksFrom_visit hlt]
    rcases (moves_step stream defines s).recalls.checks with hnone | ⟨c, hlooked, hone, -⟩
    · rw [hnone, List.nil_append]
      exact ⟨hplaced, hordered⟩
    · have hcheck : .check c ∈ (step stream defines s).2 := by
        rw [← mem_filterMap_check?_iff, hone]
        exact List.mem_singleton_self c
      obtain ⟨j, hline, hle, hsettled⟩ := lineSettled_step hcheck
      rw [hone, List.singleton_append]
      refine ⟨List.forall_mem_cons.2 ⟨⟨j, hline, hlooked.anchor_eq ▸ hle⟩, hplaced⟩,
        List.pairwise_cons.2 ⟨fun d hd => ?_, hordered⟩⟩
      -- whatever comes later is looked at behind the token that names this one
      have hbehind : j ≤ d.anchor := by
        rcases hsettled with hcursor | ⟨hinside, hnames⟩
        · have hanchor := ((checksFrom_ordered stream defines v.after).1 d hd).1
          have hplace : v.after.cursor = (step stream defines s).1.cursor := by
            rw [after_visit, SurveyState.cursor_release]
          omega
        · rw [← SurveyState.cursor_release, ← after_visit] at hnames
          rw [← SurveyState.contexts_release, ← after_visit] at hinside
          exact Int.le_of_lt (lt_anchor_of_names hinside hnames d hd)
      obtain ⟨k, ⟨u, hu, hdline⟩, hk⟩ := hplaced d hd
      obtain ⟨t, ht, hcline⟩ := hline
      rw [hcline, hdline]
      exact Int.ofNat_le.2 (hlines.ordered (by omega) ht hu)
  | case2 s hge =>
    rw [checksFrom_end (by omega)]
    exact ⟨fun c hc => absurd hc List.not_mem_nil, List.Pairwise.nil⟩

/-! ## The line of the file's own comment -/

/-- The line is that of the token right before the place, or the first one where there is none. -/
def LineBefore (stream : TokenStream) (place : Nat) (line : Int) : Prop :=
  place = 0 ∧ line = 1 ∨ ∃ t, stream.at? ((place : Int) - 1) = some t ∧ line = t.line

/-- A pass over the opening notes the line of the token it passes. -/
theorem lineBefore_passOpening {here : Nat × Int} (h : LineBefore stream here.1 here.2)
    (kind : TokenKind) :
    LineBefore stream (passOpening stream here kind).1 (passOpening stream here kind).2 := by
  unfold passOpening
  rcases hat : stream.at? here.1 with _ | t
  · exact h
  · by_cases hpass : t.kind = kind
    · have hplace : ((here.1 + 1 : Nat) : Int) - 1 = here.1 := by omega
      simp only [if_pos hpass]
      right
      exact ⟨t, by rw [hplace, hat], rfl⟩
    · simp only [if_neg hpass]
      exact h

/-- **The line noted in the opening** is that of the token passed last. -/
theorem lineBefore_fileComment (stream : TokenStream) :
    LineBefore stream (fileComment stream).start (fileComment stream).line := by
  have hbegin : LineBefore stream (0, 1).1 (0, 1).2 := Or.inl ⟨rfl, rfl⟩
  rw [fileComment_eq]
  exact lineBefore_passOpening (lineBefore_passOpening hbegin .inlineHtml) .openTag

/-- The line is the first one or that of some token before the place. -/
def OpeningLine (stream : TokenStream) (place : Int) (line : Int) : Prop :=
  line = 1 ∨ ∃ (i : Int) (t : Token), i < place ∧ stream.at? i = some t ∧ line = t.line

/-- **A missing comment of the file** is reported on the first line or on that of its opening. -/
theorem openingLine_missingCommentLine (stream : TokenStream) :
    OpeningLine stream (fileComment stream).start (missingCommentLine stream) := by
  unfold missingCommentLine
  split
  · exact Or.inl rfl
  · rcases lineBefore_fileComment stream with ⟨-, hfirst⟩ | ⟨t, hat, hline⟩
    · exact Or.inl hfirst
    · exact Or.inr ⟨_, t, by omega, hat, hline⟩

/-- A survey begins behind the opening. -/
theorem start_le_cursor (stream : TokenStream) :
    ((fileComment stream).start : Int) ≤ (startState stream).cursor := by
  cases hdoc : (fileComment stream).doc with
  | none =>
    rw [startState_of_none hdoc]
  | some d =>
    obtain ⟨hstart, -⟩ := fileComment_doc_eq_some hdoc
    rw [startState_of_some hdoc]
    dsimp only
    omega

namespace OpeningLine

variable {last : Nat} {place line : Int}

/-- No token from the place on stands on an earlier line. -/
theorem le_line (h : OpeningLine stream place line) (hlines : stream.InOrder last) {j : Int}
    {u : Token} (hj : place ≤ j) (hu : stream.at? j = some u) : line ≤ u.line := by
  rcases h with rfl | ⟨i, t, hi, ht, rfl⟩
  · have hpos := hlines.pos hu
    omega
  · exact Int.ofNat_le.2 (hlines.ordered (by omega) ht hu)

/-- It is a line of the file. -/
theorem bounds (h : OpeningLine stream place line) (hlines : stream.InOrder last)
    (hlast : 1 ≤ last) : 1 ≤ line ∧ line ≤ last := by
  rcases h with rfl | ⟨i, t, hi, ht, rfl⟩
  · omega
  · have hpos := hlines.pos ht
    have hle := hlines.le_last ht
    omega

end OpeningLine

/-! ## Findings -/

/-- The finding on a declaration is on the line of its check. -/
theorem line_of_finding {reported : EntityKind → Bool} {file : String} {c : Check} {f : Finding}
    (h : c.verdict.finding? reported file = some f) : f.line = c.line := by
  unfold Check.verdict at h
  split at h
  next => cases h
  next =>
    unfold Verdict.finding? at h
    dsimp only at h
    split at h
    next => rw [← Option.some.inj h]
    next => cases h

/-- The verdicts that are not about the file are those on checks. -/
theorem verdicts_of_checks (events : List Event) :
    (events.filterMap Event.verdict?).filter (fun v => v.kind != .file)
      = (events.filterMap Event.check?).map Check.verdict := by
  rw [List.filter_filterMap, List.map_filterMap]
  refine congrArg (fun f => events.filterMap f) (funext fun e => ?_)
  cases e with
  | check c =>
    have hkind : (c.verdict.kind != .file) = true := by
      rw [kind_verdict]
      rfl
    exact Option.filter_some_pos hkind
  | replaced context | fileDocumented | fileUndocumented line => rfl

/-- **The findings of a survey** are the one about the file, if there is one, and behind it those on
the checks in their order. -/
theorem findings_of_survey (stream : TokenStream) (defines : Bool) (reported : EntityKind → Bool)
    (file : String) :
    ∃ own : Option Finding,
      findingsOf reported file (Survey.of stream defines).events
          = own.toList ++ (checksFrom stream defines (startState stream)).filterMap
              (fun c => c.verdict.finding? reported file)
        ∧ ∀ f ∈ own, f.line = missingCommentLine stream := by
  obtain ⟨earlier, later, verdict, hverdicts, hcases⟩ := exists_verdict_about_file stream defines
  have hkind : verdict.kind = .file := by
    rcases hcases with ⟨-, rfl⟩ | ⟨-, rfl, -⟩ <;> rfl
  have hdeclared : ∀ checks : List Check,
      (checks.map Check.verdict).filter (fun v => v.kind != .file) = checks.map Check.verdict := by
    intro checks
    rw [List.filter_eq_self]
    intro v hv
    obtain ⟨c, -, rfl⟩ := List.mem_map.1 hv
    rw [kind_verdict]
    rfl
  have hchecks : (checksFrom stream defines (startState stream)).map Check.verdict
      = earlier.map Check.verdict ++ later.map Check.verdict := by
    rw [← checks_eq_checksFrom, Survey.checks_eq_filterMap, ← verdicts_of_checks, hverdicts,
      List.filter_append, List.filter_cons_of_neg (by rw [hkind]; decide), hdeclared, hdeclared]
  have hall : (checksFrom stream defines (startState stream)).filterMap
        (fun c => c.verdict.finding? reported file)
      = (earlier.map Check.verdict).filterMap (Verdict.finding? reported file)
        ++ (later.map Check.verdict).filterMap (Verdict.finding? reported file) := by
    rw [← List.filterMap_append, ← hchecks, List.filterMap_map]
    rfl
  rw [hall, findings_of_verdicts reported file hverdicts]
  refine ⟨verdict.finding? reported file, ?_⟩
  rcases hcases with ⟨-, rfl⟩ | ⟨-, rfl, hdocumented⟩
  · exact ⟨rfl, fun f hf => absurd hf (Option.not_mem_none f)⟩
  -- what was looked at before is documented, so the finding about the file is the first one
  · have hsilent : (earlier.map Check.verdict).filterMap (Verdict.finding? reported file) = [] := by
      rw [List.filterMap_eq_nil_iff]
      intro v hv
      obtain ⟨c, hc, rfl⟩ := List.mem_map.1 hv
      exact finding?_verdict_of_isSome _ _ (hdocumented c hc)
    rw [hsilent, List.nil_append, List.nil_append]
    refine ⟨rfl, fun f hf => ?_⟩
    unfold Verdict.fileUndocumented Verdict.finding? at hf
    dsimp only at hf
    split at hf
    next => rw [← Option.some.inj hf]
    next => exact absurd hf (Option.not_mem_none f)

/-- **Findings come in the order of the file.** The lines of the findings on one text never go down,
and each of them is a line of the text: they are counted from one, and there is one more than line
ends. -/
theorem findings_in_order (settings : Settings) (source file : String) :
    let findings := Journal.findings settings.reports (checkSource settings source file).notes
    (findings.map Finding.line).Pairwise (· ≤ ·)
      ∧ ∀ f ∈ findings, 1 ≤ f.line ∧ f.line ≤ 1 + source.toList.count '\n' := by
  intro findings
  let stream := TokenStream.ofSource source
  let last := 1 + source.toList.count '\n'
  let checks := checksFrom stream settings.defines (startState stream)
  let finding? := fun c : Check => c.verdict.finding? settings.reports file
  have hlines : stream.InOrder last := TokenStream.inOrder_ofSource source
  have hopening := openingLine_missingCommentLine stream
  obtain ⟨hplaced, hordered⟩ := checksFrom_lines settings.defines hlines
    (startState stream)
  -- a finding on a declaration is on the line of a check, and all checks are behind the opening
  have hdeclared : ∀ f ∈ checks.filterMap finding?,
      missingCommentLine stream ≤ f.line ∧ 1 ≤ f.line ∧ f.line ≤ last := by
    intro f hf
    obtain ⟨c, hc, hfinding⟩ := List.mem_filterMap.1 hf
    obtain ⟨j, ⟨t, ht, hline⟩, hj⟩ := hplaced c hc
    have hanchor := ((checksFrom_ordered stream settings.defines (startState stream)).1 c hc).1
    have hstart := start_le_cursor stream
    have hle := hopening.le_line hlines (show ((fileComment stream).start : Int) ≤ j by omega) ht
    have hpos := hlines.pos ht
    have hlast := hlines.le_last ht
    rw [line_of_finding hfinding, hline]
    omega
  obtain ⟨own, hsurvey, hown⟩ := findings_of_survey stream settings.defines settings.reports file
  have hfindings : findings = own.toList ++ checks.filterMap finding? := by
    rw [← hsurvey, ← Journal.findings_events]
    rfl
  rw [hfindings, List.pairwise_map]
  refine ⟨List.pairwise_append.2 ⟨?_, ?_, fun f hf g hg => ?_⟩, fun f hf => ?_⟩
  · cases own with
    | none => exact List.Pairwise.nil
    | some f => exact List.pairwise_singleton _ f
  · refine List.pairwise_filterMap.2 (hordered.imp fun {c d} hle f hf g hg => ?_)
    rw [line_of_finding hf, line_of_finding hg]
    exact hle
  · rw [hown f (Option.mem_toList.1 hf)]
    exact (hdeclared g hg).1
  · rcases List.mem_append.1 hf with hf | hf
    · rw [hown f (Option.mem_toList.1 hf)]
      exact hopening.bounds hlines (Nat.le_add_right 1 _)
    · exact (hdeclared f hf).2

/-! ## The finding about the file -/

/-- The line noted in the opening of a file counts the line ends before the token passed last. -/
theorem line_fileComment_ofSource (source : String) :
    (fileComment (TokenStream.ofSource source)).line
      = 1 + (joinedText ((TokenStream.ofSource source).tokens.toList.take
          ((fileComment (TokenStream.ofSource source)).start - 1))).toList.count '\n' := by
  rcases lineBefore_fileComment (TokenStream.ofSource source) with
    ⟨hplace, hline⟩ | ⟨t, hat, hline⟩
  · rw [hplace, hline]
    simp [joinedText]
  · have hplace : (((fileComment (TokenStream.ofSource source)).start : Int) - 1).toNat
        = (fileComment (TokenStream.ofSource source)).start - 1 := by omega
    rw [hline, TokenStream.line_ofSource hat, hplace]
    push_cast
    rfl

/-- **The line of the finding about the file.** Without a leading comment it is the line of the token
passed last in the opening, which is the open tag; with one that a declaration has claimed it is the
first line. The two agree exactly if no line ends before that token. -/
theorem file_finding_line (settings : Settings) (source file : String) :
    let stream := TokenStream.ofSource source
    let opening := fileComment stream
    let before := joinedText (stream.tokens.toList.take (opening.start - 1))
    let findings := Journal.findings settings.reports (checkSource settings source file).notes
    LineBefore stream opening.start opening.line
      ∧ ∀ f ∈ findings, f.kind? = some .file →
        (opening.doc = none → f.line = opening.line)
          ∧ (opening.doc ≠ none → f.line = 1)
          ∧ (f.line = opening.line ↔ opening.doc = none ∨ '\n' ∉ before.toList) := by
  intro stream opening before findings
  refine ⟨lineBefore_fileComment stream, fun f hf hkind => ?_⟩
  have hline : f.line = missingCommentLine stream := by
    obtain ⟨own, hsurvey, hown⟩ :=
      findings_of_survey stream settings.defines settings.reports file
    have hfindings : findings = own.toList
        ++ (checksFrom stream settings.defines (startState stream)).filterMap
            (fun c => c.verdict.finding? settings.reports file) := by
      rw [← hsurvey, ← Journal.findings_events]
      rfl
    rw [hfindings] at hf
    rcases List.mem_append.1 hf with hf | hf
    · exact hown f (Option.mem_toList.1 hf)
    -- a finding on a check is about a declaration
    · obtain ⟨c, -, hfinding⟩ := List.mem_filterMap.1 hf
      rw [kind?_of_check hfinding] at hkind
      cases hkind
  have hopening : opening.line = 1 + before.toList.count '\n' := line_fileComment_ofSource source
  cases hdoc : opening.doc with
  | none =>
    have hagree : f.line = opening.line := by rw [hline, missingCommentLine, hdoc]
    exact ⟨fun _ => hagree, fun hsome => absurd rfl hsome, fun _ => Or.inl rfl, fun _ => hagree⟩
  | some d =>
    have hfirst : f.line = 1 := by rw [hline, missingCommentLine, hdoc]
    have hends : before.toList.count '\n' = 0 ↔ '\n' ∉ before.toList := List.count_eq_zero
    refine ⟨nofun, fun _ => hfirst, ?_⟩
    rw [hfirst, hopening, ← hends]
    simp

/-- **A claimed leading comment hides the open tag:** the tag is on the second line, and the finding
about the file is on the first. -/
theorem file_finding_on_first_line :
    let source := "\n<?php /** d */ class A \x7b\x7d"
    let findings := Journal.findings Settings.default.reports
      (checkSource Settings.default source "a.php").notes
    (fileComment (TokenStream.ofSource source)).line = 2
      ∧ ⟨"a.php", 1, missingMessage .file "" none⟩ ∈ findings ∧ findings.length = 1 := by
  decide +kernel

end DocCoverage
