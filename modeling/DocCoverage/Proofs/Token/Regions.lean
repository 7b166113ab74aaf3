/-
Regions of code are read independently. Where a file ends in a close tag with its line end, what is
read of the file does not change with what stands behind it, and what stands behind it is read as a
file of its own, but for the lines.
-/
import DocCoverage.Proofs.Token.Extents

set_option autoImplicit false

namespace DocCoverage

open Extent

namespace Reading

variable {c : Char} {rest more : List Char}

/-- **A token in code** that ends before the text does is the same whatever comes behind, in a text
that ends in a line end and has no heredoc there. -/
theorem codeToken_append (hrest : EndsLine rest)
    (hheredoc : c = '<' → ¬ ['<', '<'].isPrefixOf rest = true)
    (h : (codeToken c rest).2 < rest.length) :
    codeToken c (rest ++ more) = codeToken c rest := by
  have hoperator := settled_operator c rest more hrest
  have hword := settled_run isWord_newline rest more hrest
  obtain ⟨d, tail, rfl⟩ := List.exists_cons_of_ne_nil hrest.ne_nil
  unfold codeToken at h ⊢
  dsimp only at h ⊢
  rw [hoperator]
  by_cases hblank : Text.isBlank c = true
  · rw [if_pos hblank] at h
    rw [if_pos hblank, if_pos hblank, run_append h]
  rw [if_neg hblank] at h
  rw [if_neg hblank, if_neg hblank]
  by_cases hname : Text.isNameStart c = true
  · rw [if_pos hname, if_pos hname, hword]
  rw [if_neg hname] at h
  rw [if_neg hname, if_neg hname]
  by_cases hdigit : Text.isDigit c = true
  · rw [if_pos hdigit, if_pos hdigit, settled_number c _ more hrest]
  rw [if_neg hdigit] at h
  rw [if_neg hdigit, if_neg hdigit]
  split
  next =>
    -- a close tag takes the line end behind it along
    by_cases hd : d = '>'
    · subst hd
      simp only [List.cons_append, settled_lineEnd tail more (hrest.tail (by decide))]
    · simp [hd]
  next =>
    -- of the two comments, the one with an end of its own runs on over lines
    by_cases hstar : d = '*'
    · subst hstar
      have htail := hrest.tail (by decide)
      have hend : throughCommentEnd tail < tail.length := by
        have hextent : 1 + throughCommentEnd tail < tail.length + 1 := h
        omega
      simp only [List.cons_append, settled_opensDoc tail more htail, throughCommentEnd_append hend]
    · by_cases hslash : d = '/'
      · subst hslash
        simp only [List.cons_append, settled_lineComment tail more (hrest.tail (by decide))]
      · simp [hstar, hslash]
  next =>
    have hcomment := settled_lineComment (d :: tail) more hrest
    -- with a bracket it is the sign of an attribute, and no comment
    by_cases hd : d = '['
    · subst hd
      rfl
    · simp only [List.cons_append] at hcomment ⊢
      simp [hd, hcomment]
  next => rw [heredoc_append hrest (hheredoc rfl)]
  iterate 3
    next =>
      -- a quoted text ends at its quote, since it does not end with the text
      obtain ⟨n, hn⟩ := Option.isSome_iff_exists.1 (isSome_quoted hrest)
      rw [hn] at h
      rw [quoted_append hn h, hn]
  next => rw [hword]; rfl
  next => rw [settled_pointNumber _ more hrest]
  all_goals rfl

/-! ## Close tags -/

theorem codeToken_question (tail : List Char) :
    codeToken '?' ('>' :: tail) = (.closeTag, 1 + lineEnd tail) := by
  have hblank : ¬ Text.isBlank '?' = true := by decide +kernel
  have hname : ¬ Text.isNameStart '?' = true := by decide +kernel
  have hdigit : ¬ Text.isDigit '?' = true := by decide +kernel
  unfold codeToken
  dsimp only
  rw [if_neg hblank, if_neg hname, if_neg hdigit]
  rfl

/-- **A close tag** is its two characters and the line end that belongs to it. -/
theorem closeTag_of_codeToken (h : (codeToken c rest).1 = .closeTag) :
    ∃ tail, c = '?' ∧ rest = '>' :: tail ∧ codeToken c rest = (.closeTag, 1 + lineEnd tail) := by
  by_cases htag : c = '?' ∧ rest.head? = some '>'
  · obtain ⟨rfl, hhead⟩ := htag
    obtain ⟨tail, rfl⟩ := List.head?_eq_some_iff.1 hhead
    exact ⟨tail, rfl, rfl, codeToken_question tail⟩
  · exfalso
    unfold codeToken at h
    dsimp only at h
    grind

/-- No word is a close tag. -/
theorem wordKind_ne_closeTag (previous : Option Token) (text : String) :
    wordKind previous text ≠ .closeTag := by
  have hkeywords : ∀ entry ∈ keywords, entry.2 ≠ .closeTag := by decide
  unfold wordKind
  split
  · decide
  · cases hword : keywords.lookup (Text.lowerAscii text) with
    | none => decide
    | some kind =>
      obtain ⟨before, after, hentry, -⟩ := List.lookup_eq_some_iff.1 hword
      have hmem : (Text.lowerAscii text, kind) ∈ keywords := by rw [hentry]; simp
      exact hkeywords _ hmem

/-- In code the first character decides, and for a word the token before it. -/
theorem nextToken_of_code {r : Reading} (hregion : r.region = .code) (c : Char)
    (rest : List Char) :
    r.nextToken c rest
      = if (codeToken c rest).1 = .identifier then
          (wordKind r.previous (String.ofList (c :: rest.take (codeToken c rest).2)),
            (codeToken c rest).2)
        else codeToken c rest := by
  unfold nextToken
  rw [hregion]
  dsimp only
  split
  next n hfound => rw [hfound, if_pos rfl]
  next found hother => rw [if_neg fun h => hother _ (Prod.ext h rfl)]

/-- The extent in code is that of the rule. -/
theorem nextToken_snd_of_code {r : Reading} (hregion : r.region = .code) (c : Char)
    (rest : List Char) : (r.nextToken c rest).2 = (codeToken c rest).2 := by
  rw [nextToken_of_code hregion]
  split <;> rfl

/-- In text there is either an open tag or none. -/
theorem nextToken_of_text {r : Reading} (hregion : r.region = .text) (c : Char)
    (rest : List Char) :
    r.nextToken c rest
      = match if c == '<' then openTag rest else none with
        | some n => (.openTag, n)
        | none => (.inlineHtml, html rest) := by
  cases hfound : if c == '<' then openTag rest else none <;>
    simp only [nextToken, hregion, hfound]

/-- **A close tag stands in code,** and takes no more than there is. -/
theorem closeTag_of_nextToken {r : Reading} (h : (r.nextToken c rest).1 = .closeTag) :
    r.region = .code ∧ ∃ tail, c = '?' ∧ rest = '>' :: tail
      ∧ r.nextToken c rest = (.closeTag, 1 + lineEnd tail) := by
  cases hregion : r.region with
  | text =>
    rw [nextToken_of_text hregion] at h
    split at h <;> cases h
  | code =>
    rw [nextToken_of_code hregion] at h ⊢
    by_cases hword : (codeToken c rest).1 = .identifier
    · rw [if_pos hword] at h
      exact absurd h (wordKind_ne_closeTag _ _)
    · rw [if_neg hword] at h ⊢
      exact ⟨rfl, closeTag_of_codeToken h⟩

/-! ## One token -/

/-- **A token that does not reach the end** of a text, or that closes a region there, is the same
whatever comes behind. -/
theorem nextToken_append {r : Reading} (more : List Char) (hrest : EndsLine rest)
    (hheredoc : c = '<' → ¬ ['<', '<'].isPrefixOf rest = true)
    (hend : (r.nextToken c rest).2 < rest.length ∨ (r.nextToken c rest).1 = .closeTag) :
    r.nextToken c (rest ++ more) = r.nextToken c rest := by
  rcases hend with hlt | hclose
  · cases hregion : r.region with
    | text =>
      rw [nextToken_of_text hregion] at hlt ⊢
      rw [nextToken_of_text hregion, settled_openTag rest more hrest]
      split
      next => rfl
      next hnone =>
        rw [hnone] at hlt
        rw [html_append hrest hlt]
    | code =>
      rw [nextToken_snd_of_code hregion] at hlt
      rw [nextToken_of_code hregion, nextToken_of_code hregion,
        codeToken_append hrest hheredoc hlt, List.take_append_of_le_length (Nat.le_of_lt hlt)]
  · obtain ⟨hregion, tail, rfl, rfl, -⟩ := closeTag_of_nextToken hclose
    have htail : lineEnd (tail ++ more) = lineEnd tail :=
      settled_lineEnd tail more (hrest.tail (by decide))
    rw [nextToken_of_code hregion, nextToken_of_code hregion, List.cons_append,
      codeToken_question, codeToken_question, htail]
    rfl

theorem lineEnd_le (cs : List Char) : lineEnd cs ≤ cs.length := by
  unfold lineEnd
  split <;> simp

/-- Such a token takes no more than there is. -/
theorem nextToken_le {r : Reading}
    (hend : (r.nextToken c rest).2 < rest.length ∨ (r.nextToken c rest).1 = .closeTag) :
    (r.nextToken c rest).2 ≤ rest.length := by
  rcases hend with hlt | hclose
  · exact Nat.le_of_lt hlt
  · obtain ⟨-, tail, -, rfl, hfound⟩ := closeTag_of_nextToken hclose
    have hle := lineEnd_le tail
    rw [hfound, List.length_cons]
    dsimp only
    omega

/-- The reading of a longer text goes on behind such a token with what is left of both parts. -/
theorem tokens_cons_append {r : Reading} (hrest : EndsLine rest)
    (hheredoc : c = '<' → ¬ ['<', '<'].isPrefixOf rest = true)
    (hend : (r.nextToken c rest).2 < rest.length ∨ (r.nextToken c rest).1 = .closeTag) :
    r.tokens (c :: (rest ++ more))
      = r.token c rest :: (r.after (r.token c rest)).tokens (r.behind c rest ++ more) := by
  have hsame := nextToken_append more hrest hheredoc hend
  have hle := nextToken_le hend
  have htoken : r.token c (rest ++ more) = r.token c rest := by
    unfold token
    rw [hsame, List.take_append_of_le_length hle]
  have hbehind : r.behind c (rest ++ more) = r.behind c rest ++ more := by
    unfold behind
    rw [hsame, List.drop_append_of_le_length hle]
  rw [tokens_cons, htoken, hbehind]

/-! ## The tokens of a text that ends in a close tag -/

/-- **What is read of a text whose last token closes a region** with its line end does not change
with what comes behind, and the reading goes on behind it from where that token led to. -/
theorem tokens_append {r : Reading} {cs : List Char} (hcs : EndsLine cs)
    (hheredoc : ¬ ['<', '<', '<'] <:+: cs)
    (hclosed : (r.tokens cs).getLast?.map Token.kind = some .closeTag) :
    r.tokens (cs ++ more) = r.tokens cs ++ (r.afterAll (r.tokens cs)).tokens more := by
  match cs with
  | [] => exact absurd rfl hcs.ne_nil
  | c :: rest =>
    have hfirst : c = '<' → ¬ ['<', '<'].isPrefixOf rest = true := by
      rintro rfl hprefix
      have hopen : ['<', '<', '<'] <+: '<' :: rest :=
        List.cons_prefix_cons.2 ⟨rfl, List.isPrefixOf_iff_prefix.1 hprefix⟩
      exact hheredoc hopen.isInfix
    rw [tokens_cons] at hclosed ⊢
    by_cases hlast : r.behind c rest = []
    · -- the close tag itself: it ends the text and is settled all the same
      rw [hlast, tokens_nil] at hclosed ⊢
      have hclose : (r.nextToken c rest).1 = .closeTag := Option.some.inj hclosed
      have hrest : EndsLine rest := by
        obtain ⟨-, tail, rfl, rfl, -⟩ := closeTag_of_nextToken hclose
        exact hcs.tail (by decide)
      rw [List.cons_append, tokens_cons_append hrest hfirst (Or.inr hclose), hlast]
      rfl
    · -- a token before it: what is left of the text ends like the text
      have hlt : (r.nextToken c rest).2 < rest.length := by
        unfold behind at hlast
        rw [List.drop_eq_nil_iff] at hlast
        exact Nat.lt_of_not_le hlast
      have hrest : EndsLine rest := by
        refine hcs.cons_cases.resolve_left fun hend => ?_
        rw [hend.1] at hlt
        exact Nat.not_lt_zero _ hlt
      have hleft : EndsLine (r.behind c rest) := hrest.drop hlt
      have hnone : ¬ ['<', '<', '<'] <:+: r.behind c rest := by
        intro hfound
        have hsuffix : r.behind c rest <:+ c :: rest :=
          (List.drop_suffix _ rest).trans (List.suffix_cons c rest)
        exact hheredoc (hfound.trans hsuffix.isInfix)
      have hnext : ((r.after (r.token c rest)).tokens (r.behind c rest)).getLast?.map Token.kind
          = some .closeTag := by
        obtain ⟨d, left, hd⟩ := List.exists_cons_of_ne_nil hlast
        rw [hd, tokens_cons] at hclosed ⊢
        rwa [List.getLast?_cons_cons] at hclosed
      rw [List.cons_append, tokens_cons_append hrest hfirst (Or.inl hlt),
        tokens_append hleft hnone hnext]
      rfl
termination_by cs.length
decreasing_by
  rw [behind, List.length_drop, List.length_cons]
  omega

end Reading

/-! ## The same text further down -/

/-- The token, that many lines further down. -/
def Token.moveDown (n : Nat) (t : Token) : Token := { t with line := t.line + n }

namespace Reading

/-- **The same reading further down.** In text nothing is remembered but the line; in code, whether
the token before is an access operator. -/
structure Below (n : Nat) (r below : Reading) : Prop where
  region : below.region = r.region
  line : below.line = r.line + n
  access : r.region = .code →
    below.previous.any Token.isMemberAccess = r.previous.any Token.isMemberAccess

namespace Below

variable {n : Nat} {r below : Reading}

/-- What comes next has the same class and extent. -/
theorem nextToken (h : Below n r below) (c : Char) (rest : List Char) :
    below.nextToken c rest = r.nextToken c rest := by
  cases hregion : r.region with
  | text => rw [nextToken_of_text hregion, nextToken_of_text (h.region.trans hregion)]
  | code =>
    rw [nextToken_of_code hregion, nextToken_of_code (h.region.trans hregion)]
    unfold wordKind
    rw [h.access hregion]

/-- It is the same token, further down. -/
theorem token (h : Below n r below) (c : Char) (rest : List Char) :
    below.token c rest = (r.token c rest).moveDown n := by
  unfold Reading.token
  rw [h.nextToken, h.line]
  rfl

/-- Behind it the one reading is still below the other. -/
theorem after (h : Below n r below) (t : Token) :
    Below n (r.after t) (below.after (t.moveDown n)) := by
  have hline : (below.after (t.moveDown n)).line = (r.after t).line + n := by
    rw [line_after, line_after, h.line]
    exact Nat.add_right_comm _ _ _
  refine ⟨?_, hline, ?_⟩
  · unfold Reading.after Token.moveDown
    dsimp only
    split <;> simp only [h.region]
  · unfold Reading.after Token.moveDown
    dsimp only
    split
    next => exact fun _ => rfl
    next => simp
    next => exact h.access
    next =>
      intro hregion
      dsimp only
      split
      next => exact h.access hregion
      next => rfl

/-- All tokens of a text are the same, further down. -/
theorem tokens {r below : Reading} (h : Below n r below) (cs : List Char) :
    below.tokens cs = (r.tokens cs).map (Token.moveDown n) := by
  match cs with
  | [] => rw [tokens_nil, tokens_nil, List.map_nil]
  | c :: rest =>
    have hbehind : below.behind c rest = r.behind c rest := by
      unfold behind
      rw [h.nextToken]
    rw [tokens_cons, tokens_cons, List.map_cons, h.token, hbehind,
      (h.after (r.token c rest)).tokens (r.behind c rest)]
termination_by cs.length
decreasing_by
  rw [behind, List.length_drop, List.length_cons]
  omega

end Below

/-- Behind a close tag the reading is in text. -/
theorem region_afterAll_of_closed {r : Reading} {before : List Token}
    (h : before.getLast?.map Token.kind = some .closeTag) : (r.afterAll before).region = .text := by
  obtain ⟨t, hlast, hkind⟩ := Option.map_eq_some_iff.1 h
  obtain ⟨front, rfl⟩ := List.getLast?_eq_some_iff.1 hlast
  unfold afterAll after
  rw [List.foldl_append, List.foldl_cons, List.foldl_nil, hkind]

end Reading

/-! ## Two files in one -/

/-- A file ends as its last token ends. -/
theorem endsLine_of_getLast? {source : String} {t : Token}
    (hlast : (TokenStream.ofSource source).tokens.toList.getLast? = some t)
    (hline : t.text.toList.getLast? = some '\n') : EndsLine source.toList := by
  rw [TokenStream.toList_ofSource] at hlast
  obtain ⟨front, htokens⟩ := List.getLast?_eq_some_iff.1 hlast
  have hjoined := Reading.joinedText_tokens {} source.toList
  rw [htokens, String.ofList_toList] at hjoined
  unfold EndsLine
  rw [← hjoined, joinedText, List.map_append, String.join_append, String.toList_append,
    List.map_singleton, String.join_cons, String.join_nil, String.append_empty, List.getLast?_append,
    hline]
  rfl

/-- **Regions of code are read independently.** Where a file ends in a close tag with its line end,
and has no `<<<` in it, the tokens of the file and what is appended to it are those of the two read
apart, the second that many lines further down. -/
theorem ofSource_append_of_closed (a b : String) {t : Token}
    (hlast : (TokenStream.ofSource a).tokens.toList.getLast? = some t)
    (hkind : t.kind = .closeTag) (hline : t.text.toList.getLast? = some '\n')
    (hheredoc : ¬ "<<<".toList <:+: a.toList) :
    (TokenStream.ofSource (a ++ b)).tokens.toList
      = (TokenStream.ofSource a).tokens.toList
        ++ (TokenStream.ofSource b).tokens.toList.map (Token.moveDown (a.toList.count '\n')) := by
  have hends : EndsLine a.toList := endsLine_of_getLast? hlast hline
  rw [TokenStream.toList_ofSource] at hlast
  rw [TokenStream.toList_ofSource, TokenStream.toList_ofSource, TokenStream.toList_ofSource,
    String.toList_append]
  have hclosed : (({} : Reading).tokens a.toList).getLast?.map Token.kind = some .closeTag := by
    rw [hlast, Option.map_some, hkind]
  have hregion := Reading.region_afterAll_of_closed (r := {}) hclosed
  have hbelow : Reading.Below (a.toList.count '\n') {}
      (({} : Reading).afterAll (({} : Reading).tokens a.toList)) := by
    refine ⟨hregion, ?_, fun hcode => absurd hcode (by decide)⟩
    rw [Reading.line_afterAll, Reading.joinedText_tokens, String.toList_ofList]
  rw [Reading.tokens_append hends hheredoc hclosed, hbelow.tokens]

/-- A class on the second line of a file is on the third, behind one line of code. -/
theorem ofSource_append_two_regions :
    (TokenStream.ofSource ("<?php $x ?>\n" ++ "<?php\nclass A \x7b\x7d")).tokens.toList
      = (TokenStream.ofSource "<?php $x ?>\n").tokens.toList
        ++ (TokenStream.ofSource "<?php\nclass A \x7b\x7d").tokens.toList.map
          (Token.moveDown ("<?php $x ?>\n".toList.count '\n')) :=
  ofSource_append_of_closed "<?php $x ?>\n" "<?php\nclass A \x7b\x7d" (t := ⟨.closeTag, "?>\n", 1⟩)
    (by rw [TokenStream.toList_ofSource]; decide +kernel) rfl (by decide +kernel) (by decide +kernel)

end DocCoverage
