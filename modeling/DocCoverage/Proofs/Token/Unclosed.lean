/-
Comments and texts that nothing closes. A block comment runs on to the end of the file, and so does a
quoted text. In two cases the opening is no opening: a quoted text that ends in a backslash, which has
nothing to escape there, and a heredoc without a closing line. What stands behind such a quote, or
behind the first two brackets of such a header, is read as code.
-/
import DocCoverage.Proofs.Token.Delimited
import DocCoverage.Proofs.Token.Heredoc

set_option autoImplicit false

namespace DocCoverage

open Text Extent

/-! ## Openings that nothing closes -/

/-- A quoted text that nothing closes reaches to the end, unless it ends in an escape of nothing. -/
theorem quoted_of_open {quote : Char} {body : List Char} (hquote : quote ≠ '\\')
    (hopen : ∀ k, ¬ ClosesQuote quote body k) :
    quoted quote body = if Escaped body body.length then none else some body.length := by
  have houtcome := quoteOutcome_quoted hquote body
  generalize quoted quote body = outcome at houtcome ⊢
  cases houtcome with
  | closed n hfirst => exact absurd hfirst.closes (hopen n)
  | runsOn _ hend => rw [if_neg hend]
  | cutOff _ hend => rw [if_pos hend]

/-- A heredoc without a closing line has no body. -/
theorem heredocBody_eq_none {label body : List Char} (hlabel : BeginsName label)
    (hopen : ∀ p m, ¬ ClosesAt label body p m) : heredocBody label body = none := by
  have hlater := throughLaterClosing_eq_none hlabel fun p m _ => hopen p m
  have hfirst : closingLine label body = none := by
    rw [Option.eq_none_iff_forall_ne_some]
    intro m hfound
    exact hopen 0 m ⟨Or.inl rfl, (closingLine_eq_some_iff hlabel).1 hfound⟩
  rw [heredocBody, hlater, hfirst]
  rfl

namespace Reading

/-- **A header that begins no heredoc** begins with an operator of two brackets. -/
theorem codeToken_of_no_heredoc (header : HeredocHeader) {body : List Char}
    (hopen : ∀ p m, ¬ ClosesAt header.label body p m) :
    codeToken '<' (header.text.tail ++ body) = (.operator, 1) := by
  obtain ⟨hblank, hname, hdigit⟩ := opening_signs (c := '<') (by simp)
  have hnone : heredoc (header.text.tail ++ body) = none := by
    rw [header.heredoc_tail_append, heredocBody_eq_none header.label_begins hopen]
    rfl
  unfold codeToken
  dsimp only
  rw [if_neg hblank, if_neg hname, if_neg hdigit, hnone]
  rfl

end Reading

/-- **What becomes of a comment or a text that nothing closes.** Let `left` be what is left of a file
where a token begins in code. If a block comment is opened there and not closed, the token is all that
is left. If a quote is, so it is too, unless the file ends in a backslash that is not escaped: then the
quote is a token of its own, of no class, and what stands behind it is code. And the header of a
heredoc that no line closes is no text: the token is an operator of two brackets, with code behind. -/
theorem unclosed_runs_to_end (source : String) {earlier later : List Token} {token : Token}
    (htokens : (TokenStream.ofSource source).tokens.toList = earlier ++ token :: later)
    (hcode : (({} : Reading).afterAll earlier).region = .code) :
    let left := (joinedText (token :: later)).toList
    let codeBehind := (({} : Reading).afterAll (earlier ++ [token])).region = .code ∧ later ≠ []
    (∀ body, left = '/' :: '*' :: body → (∀ k, ¬ EndsBlockComment (body.drop k)) →
        later = []
          ∧ (OpensDoc body ∧ token.kind = .docComment ∨ ¬ OpensDoc body ∧ token.kind = .comment))
      ∧ (∀ quote body, quote ∈ quotes → left = quote :: body →
        (∀ k, ¬ ClosesQuote quote body k) →
        if Escaped body body.length then
          token.kind = .other ∧ token.text = String.ofList [quote] ∧ codeBehind
        else later = [] ∧ token.kind = .string)
      ∧ (∀ (header : HeredocHeader) (body : List Char), left = header.text ++ body →
        (∀ p m, ¬ ClosesAt header.label body p m) →
        token.kind = .operator ∧ token.text = "<<" ∧ codeBehind) := by
  rw [TokenStream.toList_ofSource] at htokens
  obtain ⟨c, rest, hleft, htoken, -⟩ := Reading.read_at htokens
  intro left codeBehind
  refine ⟨?_, ?_, ?_⟩
  · intro body hbody hopen
    obtain ⟨rfl, rfl⟩ := List.cons.inj (hleft.symm.trans hbody)
    obtain ⟨hkind, n, hfirst, htext⟩ := Reading.token_block hcode body
    rw [← htoken] at hkind htext
    refine ⟨Reading.later_eq_nil htokens ?_, hkind⟩
    -- no end is found, so the comment ends with the file
    have hn : n = body.length := hfirst.eq_length hopen
    rw [htext, hleft, hn, String.toList_ofList, List.take_of_length_le (by omega)]
  · intro quote body hquote hbody hopen
    obtain ⟨rfl, rfl⟩ := List.cons.inj (hleft.symm.trans hbody)
    have hrule := Reading.codeToken_quote hquote rest
    rw [quoted_of_open (ne_backslash_of_mem_quotes hquote) hopen] at hrule
    by_cases hend : Escaped rest rest.length
    · rw [if_pos hend] at hrule ⊢
      have hread := Reading.token_of_codeToken hcode hrule (by decide)
      rw [List.take_zero, ← htoken] at hread
      have hkind : token.kind = .other := by rw [hread]
      have htext : token.text = String.ofList [c] := by rw [hread]
      refine ⟨hkind, htext, Reading.code_behind hcode (by simp [hkind]) ?_⟩
      -- the backslash is still to come
      rw [hleft, htext, String.toList_ofList]
      intro hall
      obtain rfl : rest = [] := by simpa using hall
      exact hend
    · rw [if_neg hend] at hrule ⊢
      have hread := Reading.token_of_codeToken hcode hrule (by decide)
      rw [List.take_length, ← htoken] at hread
      refine ⟨Reading.later_eq_nil htokens ?_, by rw [hread]⟩
      rw [hleft, hread, String.toList_ofList]
  · intro header body hbody hopen
    have hheader : c :: rest = '<' :: (header.text.tail ++ body) := hleft.symm.trans hbody
    obtain ⟨rfl, rfl⟩ := List.cons.inj hheader
    have hread := Reading.token_of_codeToken hcode
      (Reading.codeToken_of_no_heredoc header hopen) (by decide)
    rw [← htoken] at hread
    have hkind : token.kind = .operator := by rw [hread]
    have htext : token.text = "<<" := by rw [hread]; rfl
    refine ⟨hkind, htext, Reading.code_behind hcode (by simp [hkind]) ?_⟩
    -- the third bracket is still to come
    rw [hleft, htext]
    intro hall
    have hlength := congrArg List.length hall
    simp [HeredocHeader.text] at hlength

/-- A closing line has the label in it. -/
theorem not_closesAt_of_not_mem {c : Char} {label body : List Char} (hc : c ∈ label)
    (hbody : c ∉ body) (p m : Nat) : ¬ ClosesAt label body p m := by
  rintro ⟨-, indent, behind, hline, -⟩
  apply hbody
  have hmem : c ∈ body.drop p := by simp [hline, hc]
  exact List.mem_of_mem_drop hmem

/-- A quoted text that closes has the quote in it. -/
theorem not_closesQuote_of_not_mem {quote : Char} {body : List Char} (hquote : quote ∉ body)
    (k : Nat) : ¬ ClosesQuote quote body k :=
  fun hcloses => hquote (List.mem_of_getElem? hcloses.1)

/-- A doc comment that nothing closes takes the class behind it along. -/
theorem unclosed_runs_to_end_of_doc :
    let tokens := (TokenStream.ofSource "<?php /** class \x7b").tokens.toList
    let comment : Token := ⟨.docComment, "/** class \x7b", 1⟩
    tokens = [⟨.openTag, "<?php ", 1⟩] ++ comment :: []
      ∧ (∀ k, ¬ EndsBlockComment ("* class \x7b".toList.drop k))
      ∧ comment.kind = .docComment := by
  intro tokens comment
  have htokens : tokens = [⟨.openTag, "<?php ", 1⟩] ++ comment :: [] := by decide +kernel
  have hopen : ∀ k, ¬ EndsBlockComment ("* class \x7b".toList.drop k) := by
    intro k hend
    have hmem : '/' ∈ "* class \x7b".toList.drop k := hend.subset (by simp)
    exact absurd (List.mem_of_mem_drop hmem) (by decide)
  obtain ⟨hcomment, -, -⟩ := unclosed_runs_to_end _ htokens (by decide +kernel)
  obtain ⟨-, hkind⟩ := hcomment "* class \x7b".toList (by decide +kernel) hopen
  refine ⟨htokens, hopen, ?_⟩
  rcases hkind with ⟨-, hdoc⟩ | ⟨-, hplain⟩
  · exact hdoc
  · cases hplain

/-- **Code leaks out:** behind a quote that nothing closes, with a backslash at the end of the file, and
behind the header of a heredoc that nothing closes, a class is declared. -/
theorem unclosed_text_leaks :
    (∃ earlier token later,
        (TokenStream.ofSource "<?php 'class\\").tokens.toList = earlier ++ token :: later
          ∧ (({} : Reading).afterAll earlier).region = .code
          ∧ (joinedText (token :: later)).toList = '\'' :: "class\\".toList
          ∧ (∀ k, ¬ ClosesQuote '\'' "class\\".toList k)
          ∧ ∃ t ∈ later, t.kind = .classWord)
      ∧ ∃ (header : HeredocHeader) (earlier : List Token) (token : Token) (later : List Token),
        (TokenStream.ofSource "<?php <<<A\nclass").tokens.toList = earlier ++ token :: later
          ∧ (({} : Reading).afterAll earlier).region = .code
          ∧ (joinedText (token :: later)).toList = header.text ++ "class".toList
          ∧ (∀ p m, ¬ ClosesAt header.label "class".toList p m)
          ∧ ∃ t ∈ later, t.kind = .classWord := by
  constructor
  · refine ⟨[⟨.openTag, "<?php ", 1⟩], ⟨.other, "'", 1⟩,
      [⟨.classWord, "class", 1⟩, ⟨.operator, "\\", 1⟩], by decide +kernel, by decide +kernel,
      by decide +kernel, not_closesQuote_of_not_mem (by decide), by decide⟩
  · let header : HeredocHeader :=
      { blanks := [], quote := [], label := ['A'], lineEnd := ['\n']
        blanks_blank := by simp
        quote_quote := Or.inl rfl
        label_name := ⟨'A', [], rfl, by decide +kernel, by simp⟩
        lineEnd_end := Or.inl rfl }
    refine ⟨header, [⟨.openTag, "<?php ", 1⟩], ⟨.operator, "<<", 1⟩,
      [⟨.operator, "<", 1⟩, ⟨.identifier, "A", 1⟩, ⟨.whitespace, "\n", 1⟩, ⟨.classWord, "class", 2⟩],
      by decide +kernel, by decide +kernel, by decide +kernel, ?_, by decide⟩
    exact not_closesAt_of_not_mem (c := 'A') (by decide) (by decide)

end DocCoverage
