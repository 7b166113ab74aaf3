/-
Where a heredoc ends. Its header names a label, and the text goes on to the label at the beginning of
a line, behind blanks and tabs. A line that closes the text has to be told from one that only begins
like it, and of several such lines one has to be chosen.

The first one is chosen, with one exception. The line right behind the header closes the text only if
no later line does: a body of at least one line is looked for first. So an empty text is not read as
one where its label comes again at the beginning of a line further down, and what stands between is
taken into the text.
-/
import DocCoverage.Proofs.Token.Regions

set_option autoImplicit false

namespace DocCoverage

open Text Extent

/-! ## Headers and closing lines -/

/-- **The header of a heredoc:** three angle brackets, blanks or tabs, a label with the same quote, or
none, on both sides, and a line end. -/
structure HeredocHeader where
  blanks : List Char
  quote : List Char
  label : List Char
  lineEnd : List Char
  blanks_blank : ∀ c ∈ blanks, c = ' ' ∨ c = '\t'
  quote_quote : quote = [] ∨ quote = ['"'] ∨ quote = ['\'']
  label_name : ∃ c rest, label = c :: rest ∧ isNameStart c = true ∧ ∀ d ∈ rest, isWord d = true
  lineEnd_end : lineEnd = ['\n'] ∨ lineEnd = ['\r', '\n']

/-- The text of a header. -/
def HeredocHeader.text (header : HeredocHeader) : List Char :=
  '<' :: '<' :: '<' :: (header.blanks ++ (header.quote ++ (header.label ++ (header.quote
    ++ header.lineEnd))))

/-- **The line closes a heredoc:** blanks or tabs, the label up to the place `m`, and no word character
behind it. -/
def ClosesLine (label line : List Char) (m : Nat) : Prop :=
  ∃ indent behind, line = indent ++ (label ++ behind) ∧ (∀ c ∈ indent, c = ' ' ∨ c = '\t')
    ∧ (∀ c ∈ behind.head?, isWord c = false) ∧ m = indent.length + label.length

/-- **A line of the body closes a heredoc:** it begins at the place `p`, and its label goes on for `m`
characters from there. -/
structure ClosesAt (label body : List Char) (p m : Nat) : Prop where
  beginsLine : p = 0 ∨ body[p - 1]? = some '\n'
  closes : ClosesLine label (body.drop p) m

/-! ## Closing lines are found -/

/-- Blanks and tabs. -/
theorem isIndent_iff {c : Char} : (c == ' ' || c == '\t') = true ↔ c = ' ' ∨ c = '\t' := by
  simp

/-- No name begins with a blank or a tab. -/
theorem not_indent_of_isNameStart {c : Char} (h : isNameStart c = true) :
    (c == ' ' || c == '\t') = false := by
  rw [Bool.eq_false_iff]
  intro hindent
  rcases isIndent_iff.1 hindent with rfl | rfl
  · exact absurd h (by decide +kernel)
  · exact absurd h (by decide +kernel)

/-- A run that something else ends is as long as what is in front of that. -/
theorem run_append_of_head {p : Char → Bool} {front : List Char} (hfront : ∀ c ∈ front, p c = true)
    {c : Char} (hc : p c = false) (rest : List Char) :
    run p (front ++ c :: rest) = front.length := by
  have hno : ¬ p c = true := by
    rw [hc]
    exact Bool.false_ne_true
  rw [run, List.takeWhile_append_of_pos hfront, List.takeWhile_cons_of_neg hno, List.append_nil]

/-- Behind a run comes what is left of the text. -/
theorem takeWhile_append_drop_run (p : Char → Bool) (cs : List Char) :
    cs.takeWhile p ++ cs.drop (run p cs) = cs := by
  have hsplit : cs.takeWhile p ++ cs.dropWhile p = cs := List.takeWhile_append_dropWhile
  have hdrop : cs.drop (run p cs) = cs.dropWhile p :=
    (congrArg (List.drop (run p cs)) hsplit).symm.trans (List.drop_left' rfl)
  rw [hdrop, hsplit]

/-- The text begins like a name. -/
def BeginsName (cs : List Char) : Prop := ∃ c rest, cs = c :: rest ∧ isNameStart c = true

section Label

variable {label body line : List Char} {n p m : Nat}

/-- **A closing line is recognised** as one, and no other line is. -/
theorem closingLine_eq_some_iff (hlabel : BeginsName label) :
    closingLine label line = some m ↔ ClosesLine label line m := by
  obtain ⟨c, rest, rfl, hname⟩ := hlabel
  have hindent := not_indent_of_isNameStart hname
  unfold closingLine ClosesLine
  dsimp only
  constructor
  · intro h
    split at h
    next hfound =>
      rw [Bool.and_eq_true, Bool.not_eq_true', List.isPrefixOf_iff_prefix] at hfound
      obtain ⟨⟨behind, hbehind⟩, hword⟩ := hfound
      rw [← hbehind, List.drop_left' rfl] at hword
      refine ⟨line.takeWhile fun c => c == ' ' || c == '\t', behind, ?_, ?_, ?_, ?_⟩
      · rw [hbehind, takeWhile_append_drop_run]
      · intro d hd
        exact isIndent_iff.1 (List.all_eq_true.1 List.all_takeWhile d hd)
      · intro d hd
        rw [Option.mem_def.1 hd] at hword
        exact hword
      · exact (Option.some.inj h).symm
    next => cases h
  · rintro ⟨indent, behind, rfl, hblank, hword, rfl⟩
    have hrun : run (fun c => c == ' ' || c == '\t') (indent ++ (c :: rest ++ behind))
        = indent.length :=
      run_append_of_head (fun d hd => isIndent_iff.2 (hblank d hd)) hindent (rest ++ behind)
    have hend : behind.head?.any isWord = false := by
      cases hhead : behind.head? with
      | none => rfl
      | some d => exact hword d hhead
    rw [hrun, List.drop_left' rfl, List.drop_left' rfl, hend, if_pos]
    rw [Bool.not_false, Bool.and_true, List.isPrefixOf_iff_prefix]
    exact List.prefix_append _ _

/-! ## Which closing line is chosen -/

/-- A place behind the first character closes the text exactly if it does in what follows that. -/
theorem closesAt_cons_iff {c : Char} (hp : 0 < p) :
    ClosesAt label (c :: body) (p + 1) m ↔ ClosesAt label body p m := by
  obtain ⟨k, rfl⟩ : ∃ k, p = k + 1 := ⟨p - 1, by omega⟩
  constructor
  · rintro ⟨hbegins, hcloses⟩
    refine ⟨Or.inr ?_, hcloses⟩
    simpa using hbegins
  · rintro ⟨hbegins, hcloses⟩
    refine ⟨Or.inr ?_, hcloses⟩
    simpa using hbegins

/-- The second place closes the text exactly if the first character is a line end, and what follows it
begins with a closing line. -/
theorem closesAt_one_iff {c : Char} :
    ClosesAt label (c :: body) 1 m ↔ c = '\n' ∧ ClosesLine label body m := by
  constructor
  · rintro ⟨hbegins, hcloses⟩
    refine ⟨?_, hcloses⟩
    simpa using hbegins
  · rintro ⟨rfl, hcloses⟩
    exact ⟨Or.inr rfl, hcloses⟩

/-- Where no closing line follows a line end, none is found. -/
theorem closingLine_eq_none {c : Char} (hlabel : BeginsName label)
    (h : ∀ m, ¬ ClosesAt label (c :: body) 1 m) :
    (if c == '\n' then closingLine label body else none) = none := by
  by_cases hc : c = '\n'
  · rw [if_pos (beq_iff_eq.2 hc), Option.eq_none_iff_forall_ne_some]
    intro m hfound
    have hcloses := (closingLine_eq_some_iff hlabel).1 hfound
    exact h m (closesAt_one_iff.2 ⟨hc, hcloses⟩)
  · rw [if_neg (mt beq_iff_eq.1 hc)]

/-- **Behind the first line the first closing line is chosen,** if there is one. -/
theorem throughLaterClosing_of_closes (hlabel : BeginsName label)
    (h : ∃ p m, 0 < p ∧ ClosesAt label body p m) :
    ∃ p m, throughLaterClosing label body = some (p + m) ∧ 0 < p ∧ ClosesAt label body p m
      ∧ ∀ p' m', 0 < p' → ClosesAt label body p' m' → p ≤ p' := by
  induction body with
  | nil =>
    obtain ⟨p, m, hp, hbegins, -⟩ := h
    rcases hbegins with hzero | hline
    · omega
    · simp at hline
  | cons c rest ih =>
    rw [throughLaterClosing]
    by_cases hhere : ∃ m, ClosesAt label (c :: rest) 1 m
    -- the line behind a line end here
    · obtain ⟨m, hat⟩ := hhere
      obtain ⟨rfl, hcloses⟩ := closesAt_one_iff.1 hat
      have hfound := (closingLine_eq_some_iff hlabel).2 hcloses
      refine ⟨1, m, ?_, by omega, hat, fun p' m' hp' _ => hp'⟩
      simp [hfound, Nat.add_comm]
    -- or one further down
    · have hnone := closingLine_eq_none hlabel (not_exists.1 hhere)
      have hlater : ∀ p m, 0 < p → ClosesAt label (c :: rest) p m →
          ∃ k, p = k + 1 ∧ 0 < k ∧ ClosesAt label rest k m := by
        intro p m hp hat
        obtain ⟨k, rfl⟩ : ∃ k, p = k + 1 := ⟨p - 1, by omega⟩
        rcases Nat.eq_zero_or_pos k with rfl | hk
        · exact absurd ⟨m, hat⟩ hhere
        · exact ⟨k, rfl, hk, (closesAt_cons_iff hk).1 hat⟩
      obtain ⟨p, m, hp, hat⟩ := h
      obtain ⟨k, -, hk, hatk⟩ := hlater p m hp hat
      obtain ⟨q, n, hfound, hq, hatq, hfirst⟩ := ih ⟨k, m, hk, hatk⟩
      refine ⟨q + 1, n, ?_, by omega, (closesAt_cons_iff hq).2 hatq, ?_⟩
      · rw [hnone, hfound]
        simp
        omega
      · intro p' m' hp' hat'
        obtain ⟨k', rfl, hk', hatk'⟩ := hlater p' m' hp' hat'
        have hle := hfirst k' m' hk' hatk'
        omega

/-- Without such a line none is. -/
theorem throughLaterClosing_eq_none (hlabel : BeginsName label)
    (h : ∀ p m, 0 < p → ¬ ClosesAt label body p m) : throughLaterClosing label body = none := by
  induction body with
  | nil => rfl
  | cons c rest ih =>
    have hrest : throughLaterClosing label rest = none := by
      apply ih
      intro p m hp hat
      exact h (p + 1) m (by omega) ((closesAt_cons_iff hp).2 hat)
    have hnone := closingLine_eq_none hlabel fun m => h 1 m (by omega)
    rw [throughLaterClosing, hnone, hrest]
    rfl

/-- **The closing line that is chosen:** the first one, but the line right behind the header only if
there is no other. -/
structure ChosenAt (label body : List Char) (p m : Nat) : Prop where
  closes : ClosesAt label body p m
  first : ∀ p' m', ClosesAt label body p' m' → p' = 0 ∨ p ≤ p'
  only : p = 0 → ∀ p' m', ClosesAt label body p' m' → p' = 0

/-- **A text with a closing line ends at the one that is chosen.** -/
theorem heredocBody_of_closes (hlabel : BeginsName label)
    (h : ∃ p m, ClosesAt label body p m) :
    ∃ p m, heredocBody label body = some (p + m) ∧ ChosenAt label body p m := by
  unfold heredocBody
  by_cases hlater : ∃ p m, 0 < p ∧ ClosesAt label body p m
  · obtain ⟨p, m, hfound, hp, hat, hfirst⟩ := throughLaterClosing_of_closes hlabel hlater
    refine ⟨p, m, by rw [hfound]; rfl, hat, ?_, ?_⟩
    · intro p' m' hat'
      rcases Nat.eq_zero_or_pos p' with hzero | hp'
      · exact Or.inl hzero
      · exact Or.inr (hfirst p' m' hp' hat')
    · intro hzero
      omega
  · have hnone : ∀ p m, 0 < p → ¬ ClosesAt label body p m := by
      intro p m hp hat
      exact hlater ⟨p, m, hp, hat⟩
    have hzero : ∀ p m, ClosesAt label body p m → p = 0 := by
      intro p m hat
      rcases Nat.eq_zero_or_pos p with hp | hp
      · exact hp
      · exact absurd hat (hnone p m hp)
    obtain ⟨p, m, hat⟩ := h
    obtain rfl := hzero p m hat
    have hfound := (closingLine_eq_some_iff hlabel).2 hat.closes
    refine ⟨0, m, ?_, hat, ?_, ?_⟩
    · rw [throughLaterClosing_eq_none hlabel hnone]
      simpa using hfound
    · intro p' m' _
      omega
    · intro _
      exact hzero

end Label

/-! ## A heredoc is read -/

namespace HeredocHeader

variable (header : HeredocHeader)

/-- The label begins like a name. -/
theorem label_begins : BeginsName header.label := by
  obtain ⟨c, rest, hlabel, hname, -⟩ := header.label_name
  exact ⟨c, rest, hlabel, hname⟩

/-- Behind the label comes a quote or a line end, and neither is a word character. -/
theorem exists_behind_label (body : List Char) :
    ∃ c rest, header.quote ++ (header.lineEnd ++ body) = c :: rest ∧ isWord c = false := by
  rcases header.quote_quote with hquote | hquote | hquote <;>
    rcases header.lineEnd_end with hend | hend <;>
    rw [hquote, hend] <;>
    exact ⟨_, _, rfl, by decide +kernel⟩

/-- The line end is recognised. -/
theorem headerEnd_append (body : List Char) :
    headerEnd (header.lineEnd ++ body) = some header.lineEnd.length := by
  rcases header.lineEnd_end with hend | hend <;> rw [hend] <;> rfl

/-- **From the label on** a heredoc goes as far as its body does. -/
theorem heredocFromLabel_append (body : List Char) :
    heredocFromLabel header.quote
        (header.label ++ (header.quote ++ (header.lineEnd ++ body)))
      = (heredocBody header.label body).map
          (header.label.length + header.quote.length + header.lineEnd.length + ·) := by
  obtain ⟨c, rest, hlabel, hname, hword⟩ := header.label_name
  obtain ⟨d, behind, hbehind, hd⟩ := header.exists_behind_label body
  have hrun : (rest ++ (header.quote ++ (header.lineEnd ++ body))).takeWhile isWord = rest := by
    have hno : ¬ isWord d = true := by
      rw [hd]
      exact Bool.false_ne_true
    rw [hbehind, List.takeWhile_append_of_pos hword, List.takeWhile_cons_of_neg hno,
      List.append_nil]
  rw [hlabel, List.cons_append, heredocFromLabel]
  dsimp only
  rw [if_pos hname, hrun, ← List.cons_append, List.drop_left' rfl, List.drop_left' rfl,
    header.headerEnd_append, if_pos (List.isPrefixOf_iff_prefix.2 (List.prefix_append _ _))]
  dsimp only
  rw [List.drop_left' rfl]

/-- The length of a header, its first bracket apart. -/
theorem length_tail_text :
    header.text.tail.length
      = 2 + header.blanks.length + (header.quote.length + header.label.length
        + header.quote.length + header.lineEnd.length) := by
  simp only [text, List.tail_cons, List.length_cons, List.length_append]
  omega

/-- **Behind a header a heredoc is read** as far as its body goes. -/
theorem heredoc_tail_append (body : List Char) :
    heredoc (header.text.tail ++ body)
      = (heredocBody header.label body).map (header.text.tail.length + ·) := by
  obtain ⟨c, rest, hlabel, hname⟩ := header.label_begins
  have hfrom := header.heredocFromLabel_append body
  have hlength := header.length_tail_text
  have htext : header.text.tail ++ body
      = '<' :: '<' :: (header.blanks ++ (header.quote ++ (header.label ++ (header.quote
          ++ (header.lineEnd ++ body))))) := by
    simp [text]
  have hblank : ∀ d ∈ header.blanks, (d == ' ' || d == '\t') = true := by
    intro d hd
    exact isIndent_iff.2 (header.blanks_blank d hd)
  -- what is found behind the quote, and how far that is from the first bracket
  have hfound : ∀ quote : List Char, header.quote = quote →
      ((heredocFromLabel quote (header.label ++ (quote ++ (header.lineEnd ++ body)))).map
          (· + quote.length)).map (2 + header.blanks.length + ·)
        = (heredocBody header.label body).map (header.text.tail.length + ·) := by
    rintro quote rfl
    rw [hfrom, Option.map_map, Option.map_map, hlength]
    congr 1
    funext n
    simp only [Function.comp_apply]
    omega
  rw [htext, heredoc]
  rcases header.quote_quote with hquote | hquote | hquote <;> rw [← hfound _ hquote, hquote]
  -- without quotes the label comes next, which begins with neither quote
  · have hrun := run_append_of_head hblank (not_indent_of_isNameStart hname)
      (rest ++ (header.lineEnd ++ body))
    rw [hlabel]
    simp only [List.nil_append, List.cons_append]
    rw [hrun, List.drop_left' rfl]
    split
    next heq =>
      obtain ⟨rfl, -⟩ := List.cons.inj heq
      exact absurd hname (by decide +kernel)
    next heq =>
      obtain ⟨rfl, -⟩ := List.cons.inj heq
      exact absurd hname (by decide +kernel)
    next =>
      simp
  · have hrun := run_append_of_head hblank (show ('"' == ' ' || '"' == '\t') = false from rfl)
      (header.label ++ ('"' :: (header.lineEnd ++ body)))
    simp only [List.cons_append, List.nil_append]
    rw [hrun, List.drop_left' rfl]
    rfl
  · have hrun := run_append_of_head hblank (show ('\'' == ' ' || '\'' == '\t') = false from rfl)
      (header.label ++ ('\'' :: (header.lineEnd ++ body)))
    simp only [List.cons_append, List.nil_append]
    rw [hrun, List.drop_left' rfl]
    rfl

end HeredocHeader

/-- An angle bracket in code that begins a heredoc begins a text. -/
theorem codeToken_of_heredoc {rest : List Char} {n : Nat} (h : heredoc rest = some n) :
    Reading.codeToken '<' rest = (.string, n) := by
  have hblank : ¬ isBlank '<' = true := by decide +kernel
  have hname : ¬ isNameStart '<' = true := by decide +kernel
  have hdigit : ¬ isDigit '<' = true := by decide +kernel
  unfold Reading.codeToken
  dsimp only
  rw [if_neg hblank, if_neg hname, if_neg hdigit, h]
  rfl

/-- **Where a heredoc ends.** Let a token in code begin with the header of a heredoc, and let some line
behind the header close it. Then the token is a text that ends right behind the label of the closing
line that is chosen: the first one behind the first line of the body, or that line itself if no other
closes the text. So the token ends at the first closing line of all, unless the line right behind the
header and a later one both close the text. -/
theorem heredoc_ends_at_chosen_line (source : String) {earlier later : List Token} {token : Token}
    (htokens : (TokenStream.ofSource source).tokens.toList = earlier ++ token :: later)
    (hcode : (({} : Reading).afterAll earlier).region = .code)
    (header : HeredocHeader) (body : List Char)
    (htext : (joinedText (token :: later)).toList = header.text ++ body)
    (hcloses : ∃ p m, ClosesAt header.label body p m) :
    ∃ p m, ChosenAt header.label body p m
      ∧ token.kind = .string
      ∧ token.text = String.ofList (header.text ++ body.take (p + m))
      ∧ ((∀ p' m', ClosesAt header.label body p' m' → p ≤ p')
        ↔ (∀ m', ¬ ClosesAt header.label body 0 m')
          ∨ ∀ p' m', ClosesAt header.label body p' m' → p' = 0) := by
  obtain ⟨p, m, hbody, hchosen⟩ := heredocBody_of_closes header.label_begins hcloses
  refine ⟨p, m, hchosen, ?_⟩
  -- the text that is left where the token begins
  rw [TokenStream.toList_ofSource] at htokens
  obtain ⟨left, -, hleft⟩ := Reading.resume htokens
  have hbegin : left = '<' :: (header.text.tail ++ body) := by
    rw [hleft, Reading.joinedText_tokens, String.toList_ofList] at htext
    rw [htext]
    rfl
  rw [hbegin, Reading.tokens_cons] at hleft
  obtain ⟨htoken, -⟩ := List.cons.inj hleft
  -- and the token that is read there
  have hheredoc : heredoc (header.text.tail ++ body) = some (header.text.tail.length + (p + m)) := by
    rw [header.heredoc_tail_append, hbody]
    rfl
  have hnext : (({} : Reading).afterAll earlier).nextToken '<' (header.text.tail ++ body)
      = (.string, header.text.tail.length + (p + m)) := by
    have hkind : TokenKind.string ≠ .identifier := by decide
    rw [Reading.nextToken_of_code hcode, codeToken_of_heredoc hheredoc, if_neg hkind]
  rw [htoken, Reading.token, hnext]
  refine ⟨rfl, ?_, ?_⟩
  · dsimp only
    rw [List.take_length_add_append]
    rfl
  · constructor
    · intro hfirst
      by_cases hzero : ∃ m', ClosesAt header.label body 0 m'
      · obtain ⟨m', hat⟩ := hzero
        have hp : p = 0 := Nat.le_zero.1 (hfirst 0 m' hat)
        exact Or.inr (hchosen.only hp)
      · exact Or.inl fun m' hat => hzero ⟨m', hat⟩
    · intro hcases p' m' hat
      rcases hchosen.first p' m' hat with rfl | hle
      -- the line right behind the header closes the text, so no later one does
      · have hall := hcases.resolve_left fun hno => hno m' hat
        exact Nat.le_of_eq (hall p m hchosen.closes)
      · exact hle

/-- A label with a semicolon behind it closes a heredoc, as at the end of a statement. -/
theorem closesLine_of_semicolon (label rest : List Char) :
    ClosesLine label (label ++ ';' :: rest) label.length := by
  have hword : isWord ';' = false := by decide +kernel
  refine ⟨[], ';' :: rest, rfl, by simp, ?_, (Nat.zero_add _).symm⟩
  rintro c ⟨⟩
  exact hword

/-- A heredoc the label of which comes twice, behind a line of its body: it ends at the first of the
two lines. -/
theorem heredoc_ends_at_chosen_line_of_two :
    let body : List Char := ['x', '\n', 'A', ';', '\n', 'A', ';']
    ∃ earlier later p m,
      (TokenStream.ofSource "<?php <<<A\nx\nA;\nA;").tokens.toList
          = earlier ++ ⟨.string, "<<<A\nx\nA", 1⟩ :: later
        ∧ ChosenAt ['A'] body p m ∧ ∀ p' m', ClosesAt ['A'] body p' m' → p ≤ p' := by
  intro body
  let header : HeredocHeader :=
    { blanks := [], quote := [], label := ['A'], lineEnd := ['\n']
      blanks_blank := by simp
      quote_quote := Or.inl rfl
      label_name := ⟨'A', [], rfl, by decide +kernel, by simp⟩
      lineEnd_end := Or.inl rfl }
  have htokens : (TokenStream.ofSource "<?php <<<A\nx\nA;\nA;").tokens.toList
      = [⟨.openTag, "<?php ", 1⟩] ++ ⟨.string, "<<<A\nx\nA", 1⟩ :: [⟨.semicolon, ";", 3⟩,
          ⟨.whitespace, "\n", 3⟩, ⟨.identifier, "A", 4⟩, ⟨.semicolon, ";", 4⟩] := by
    decide +kernel
  have hlater : ClosesAt ['A'] body 2 1 :=
    ⟨Or.inr rfl, closesLine_of_semicolon ['A'] ['\n', 'A', ';']⟩
  -- the first line of the body is no closing line
  have hfirst : ∀ m', ¬ ClosesAt ['A'] body 0 m' := by
    intro m' hat
    have hfound := (closingLine_eq_some_iff header.label_begins).2 hat.closes
    have hnone : closingLine ['A'] body = none := by decide +kernel
    exact absurd (hnone.symm.trans hfound) nofun
  obtain ⟨p, m, hchosen, -, -, hends⟩ := heredoc_ends_at_chosen_line _ htokens
    (by decide +kernel) header body (by decide +kernel) ⟨2, 1, hlater⟩
  exact ⟨_, _, p, m, htokens, hchosen, hends.2 (Or.inl hfirst)⟩

/-- **Later text is swallowed:** behind an empty heredoc, the label of which comes again further down,
what stands between is no code. -/
theorem heredoc_swallows_code :
    let tokens := (TokenStream.ofSource "<?php <<<A\nA;\nx\nA;").tokens.toList
    tokens.map Token.text = ["<?php ", "<<<A\nA;\nx\nA", ";"]
      ∧ ClosesAt ['A'] "A;\nx\nA;".toList 0 1 := by
  refine ⟨by decide +kernel, Or.inl rfl, ?_⟩
  exact closesLine_of_semicolon ['A'] ['\n', 'x', '\n', 'A', ';']

end DocCoverage
