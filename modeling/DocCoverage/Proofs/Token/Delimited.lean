/-
How far comments and quoted texts reach. What ends them is said here without the scan that looks for
it: a block comment ends behind the first `*/`, a comment to the end of the line before the first line
end or close tag, and a quoted text behind the first quote of its kind that no backslash escapes. The
scans of `Extent` find exactly these places.

Three rules begin with a slash, two of them with the same two characters, and a doc comment differs
from other comments by one blank behind its second star. So `/**/` is a comment that ends at once, and
in `/*/` the slash belongs to the opening, and the comment is still open behind it.
-/
import DocCoverage.Proofs.Token.Rules

set_option autoImplicit false

namespace DocCoverage

open Text Extent

/-! ## Places in a text -/

/-- **The first end:** at the place `n` the text ends or what is left of it begins with an end, and no
end begins before. -/
structure FirstEnd (ends : List Char → Prop) (cs : List Char) (n : Nat) : Prop where
  le_length : n ≤ cs.length
  reached : n = cs.length ∨ ends (cs.drop n)
  first : ∀ k < n, ¬ ends (cs.drop k)

namespace FirstEnd

variable {ends : List Char → Prop} {cs : List Char} {n : Nat}

theorem nil : FirstEnd ends [] 0 :=
  ⟨Nat.le_refl 0, Or.inl rfl, fun _ hk => absurd hk (Nat.not_lt_zero _)⟩

theorem here (h : ends cs) : FirstEnd ends cs 0 :=
  ⟨Nat.zero_le _, Or.inr h, fun _ hk => absurd hk (Nat.not_lt_zero _)⟩

/-- A character at which nothing ends moves the end on by one. -/
theorem cons {c : Char} (h : FirstEnd ends cs n) (hc : ¬ ends (c :: cs)) :
    FirstEnd ends (c :: cs) (n + 1) := by
  refine ⟨Nat.succ_le_succ h.le_length, ?_, ?_⟩
  · simpa using h.reached
  · intro k hk
    cases k with
    | zero => exact hc
    | succ k => exact h.first k (by omega)

/-- Where nothing ends, the text does. -/
theorem eq_length (h : FirstEnd ends cs n) (hnone : ∀ k, ¬ ends (cs.drop k)) : n = cs.length :=
  h.reached.resolve_right (hnone n)

end FirstEnd

/-! ## Comments -/

/-- A block comment ends here. -/
def EndsBlockComment (cs : List Char) : Prop := ['*', '/'] <+: cs

/-- A comment to the end of the line ends here: before a line end or a close tag. -/
def EndsLineComment (cs : List Char) : Prop :=
  ['\r'] <+: cs ∨ ['\n'] <+: cs ∨ ['?', '>'] <+: cs

/-- **A block comment** reaches through its first end, or to the end of the text. -/
theorem throughCommentEnd_eq (cs : List Char) :
    ∃ n, FirstEnd EndsBlockComment cs n ∧ throughCommentEnd cs = min (n + 2) cs.length := by
  fun_induction throughCommentEnd cs with
  | case1 => exact ⟨0, .nil, by simp⟩
  | case2 rest => exact ⟨0, .here (by simp [EndsBlockComment]), by simp⟩
  | case3 c rest hend ih =>
    obtain ⟨n, hfirst, hextent⟩ := ih
    refine ⟨n + 1, hfirst.cons ?_, ?_⟩
    · rintro ⟨tail, htail⟩
      obtain ⟨rfl, rfl⟩ := List.cons.inj htail
      exact hend tail rfl rfl
    · simp
      omega

/-- **A comment to the end of the line** reaches up to its first end. -/
theorem firstEnd_lineComment (cs : List Char) : FirstEnd EndsLineComment cs (lineComment cs) := by
  fun_induction lineComment cs with
  | case1 => exact .nil
  | case2 rest => exact .here (by simp [EndsLineComment])
  | case3 rest => exact .here (by simp [EndsLineComment])
  | case4 rest => exact .here (by simp [EndsLineComment])
  | case5 c rest hreturn hnewline hclose ih =>
    apply ih.cons
    rintro (⟨tail, htail⟩ | ⟨tail, htail⟩ | ⟨tail, htail⟩)
    · exact hreturn (List.cons.inj htail).1.symm
    · exact hnewline (List.cons.inj htail).1.symm
    · obtain ⟨hc, hrest⟩ := List.cons.inj htail
      exact hclose tail hc.symm hrest.symm

/-- **The sign that opens a comment to the end of the line:** two slashes, or a hash that does not open
an attribute. -/
def OpensLineComment (opener body : List Char) : Prop :=
  opener = ['/', '/'] ∨ opener = ['#'] ∧ ¬ ['['] <+: body

/-- **The text behind `/*` makes the comment a doc comment:** a second star, and a blank. -/
def OpensDoc (body : List Char) : Prop :=
  ∃ blank rest, body = '*' :: blank :: rest ∧ isBlank blank = true

theorem opensDoc_iff {body : List Char} : opensDoc body = true ↔ OpensDoc body := by
  constructor
  · intro h
    unfold opensDoc at h
    split at h
    next blank rest => exact ⟨blank, rest, rfl, h⟩
    next => cases h
  · rintro ⟨blank, rest, rfl, hblank⟩
    exact hblank

/-! ## Escapes -/

/-- **The character at a place is escaped:** right before it stands a backslash that is not escaped
itself. -/
def Escaped (cs : List Char) : Nat → Prop
  | 0 => False
  | k + 1 => cs[k]? = some '\\' ∧ ¬ Escaped cs k

theorem escaped_succ {cs : List Char} {k : Nat} :
    Escaped cs (k + 1) ↔ cs[k]? = some '\\' ∧ ¬ Escaped cs k := Iff.rfl

instance decidableEscaped (cs : List Char) : (k : Nat) → Decidable (Escaped cs k)
  | 0 => isFalse id
  | k + 1 =>
    have := decidableEscaped cs k
    inferInstanceAs (Decidable (cs[k]? = some '\\' ∧ ¬ Escaped cs k))

/-- **A quoted text closes here:** at a quote that is not escaped. -/
def ClosesQuote (quote : Char) (cs : List Char) (k : Nat) : Prop :=
  cs[k]? = some quote ∧ ¬ Escaped cs k

instance (quote : Char) (cs : List Char) (k : Nat) : Decidable (ClosesQuote quote cs k) :=
  inferInstanceAs (Decidable (_ ∧ _))

/-- The first place at which a quoted text closes. -/
structure FirstClosing (quote : Char) (cs : List Char) (n : Nat) : Prop where
  closes : ClosesQuote quote cs n
  first : ∀ k < n, ¬ ClosesQuote quote cs k

section Quotes

variable {quote : Char} {cs front rest : List Char} {n : Nat}

/-- What stands in front of a place that is not escaped has no say in what is behind it. -/
theorem escaped_append (h : ¬ Escaped (front ++ rest) front.length) (k : Nat) :
    Escaped (front ++ rest) (front.length + k) ↔ Escaped rest k := by
  induction k with
  | zero => simpa [Escaped] using h
  | succ k ih =>
    rw [← Nat.add_assoc, escaped_succ, ih, escaped_succ,
      List.getElem?_append_right (Nat.le_add_right _ _), Nat.add_sub_cancel_left]

theorem closesQuote_append (h : ¬ Escaped (front ++ rest) front.length) (k : Nat) :
    ClosesQuote quote (front ++ rest) (front.length + k) ↔ ClosesQuote quote rest k := by
  rw [ClosesQuote, ClosesQuote, escaped_append h,
    List.getElem?_append_right (Nat.le_add_right _ _), Nat.add_sub_cancel_left]

/-- There is one first place only. -/
theorem FirstClosing.unique {m : Nat} (hn : FirstClosing quote cs n)
    (hm : FirstClosing quote cs m) : n = m := by
  apply Nat.le_antisymm
  · exact Nat.le_of_not_lt fun hlt => hn.first m hlt hm.closes
  · exact Nat.le_of_not_lt fun hlt => hm.first n hlt hn.closes

/-- **What becomes of a quoted text:** it closes, it runs on to the end, or it is cut off behind a
backslash, which then has nothing to escape. -/
inductive QuoteOutcome (quote : Char) (cs : List Char) : Option Nat → Prop
  | closed (n : Nat) (hfirst : FirstClosing quote cs n) : QuoteOutcome quote cs (some (n + 1))
  | runsOn (hopen : ∀ k, ¬ ClosesQuote quote cs k) (hend : ¬ Escaped cs cs.length) :
      QuoteOutcome quote cs (some cs.length)
  | cutOff (hopen : ∀ k, ¬ ClosesQuote quote cs k) (hend : Escaped cs cs.length) :
      QuoteOutcome quote cs none

/-- In front of a quoted text a character, or an escape with what it escapes, changes nothing but the
length. -/
theorem QuoteOutcome.behind {outcome : Option Nat} (front : List Char)
    (hunit : ¬ Escaped (front ++ rest) front.length)
    (hfront : ∀ k < front.length, ¬ ClosesQuote quote (front ++ rest) k)
    (h : QuoteOutcome quote rest outcome) :
    QuoteOutcome quote (front ++ rest) (outcome.map (front.length + ·)) := by
  -- a place is one in front, or one of the rest
  have hbefore : ∀ {m : Nat}, (∀ k < m, ¬ ClosesQuote quote rest k) →
      ∀ k < front.length + m, ¬ ClosesQuote quote (front ++ rest) k := by
    intro m hrest k hk
    by_cases hlt : k < front.length
    · exact hfront k hlt
    · obtain ⟨j, rfl⟩ := Nat.exists_eq_add_of_le (Nat.le_of_not_lt hlt)
      rw [closesQuote_append hunit]
      exact hrest j (by omega)
  have hnone : (∀ k, ¬ ClosesQuote quote rest k) → ∀ k, ¬ ClosesQuote quote (front ++ rest) k := by
    intro hrest k
    exact hbefore (m := k + 1) (fun j _ => hrest j) k (by omega)
  have hlength : (front ++ rest).length = front.length + rest.length := List.length_append
  cases h with
  | closed n hfirst =>
    apply QuoteOutcome.closed (front.length + n)
    exact ⟨(closesQuote_append hunit n).2 hfirst.closes, hbefore hfirst.first⟩
  | runsOn hopen hend =>
    rw [Option.map_some, ← hlength]
    apply QuoteOutcome.runsOn (hnone hopen)
    rwa [hlength, escaped_append hunit]
  | cutOff hopen hend =>
    apply QuoteOutcome.cutOff (hnone hopen)
    rwa [hlength, escaped_append hunit]

/-- **A quoted text** reaches through the first quote that closes it, else to the end, and it is none if
it is cut off. -/
theorem quoteOutcome_quoted (hquote : quote ≠ '\\') (cs : List Char) :
    QuoteOutcome quote cs (quoted quote cs) := by
  fun_induction quoted quote cs with
  | case1 => exact .runsOn (by simp [ClosesQuote]) (by simp [Escaped])
  | case2 =>
    refine .cutOff ?_ (by simp [Escaped])
    rintro (_ | k) ⟨hat, -⟩
    · exact hquote (by simpa using hat.symm)
    · simp at hat
  | case3 c rest ih =>
    -- an escape goes together with the character it escapes
    have hunit : ¬ Escaped (['\\', c] ++ rest) 2 := by simp [Escaped]
    have hlength : ∀ n : Nat, n + 2 = 2 + n := fun n => Nat.add_comm n 2
    simp only [hlength]
    refine ih.behind ['\\', c] hunit ?_
    rintro (_ | _ | k) hk ⟨hat, hfree⟩
    · exact hquote (by simpa using hat.symm)
    · exact hfree (by simp [Escaped])
    · have hlt : k + 1 + 1 < 2 := hk
      omega
  | case4 c rest hlone hescaped hclosing =>
    refine .closed 0 ⟨⟨?_, by simp [Escaped]⟩, fun k hk => absurd hk (Nat.not_lt_zero k)⟩
    simpa using hclosing
  | case5 c rest hlone hescaped hopen ih =>
    have hc : c ≠ '\\' := ne_backslash hlone hescaped
    have hunit : ¬ Escaped ([c] ++ rest) 1 := by simp [Escaped, hc]
    simp only [Nat.add_comm _ 1]
    refine ih.behind [c] hunit ?_
    rintro (_ | k) hk ⟨hat, hfree⟩
    · exact hopen (by simpa using hat)
    · simp at hk

/-- So a quoted text that closes somewhere reaches through the first such place. -/
theorem quoted_of_firstClosing (hquote : quote ≠ '\\') (h : FirstClosing quote cs n) :
    quoted quote cs = some (n + 1) := by
  have houtcome := quoteOutcome_quoted hquote cs
  generalize quoted quote cs = outcome at houtcome ⊢
  cases houtcome with
  | closed m hfirst => rw [hfirst.unique h]
  | runsOn hopen hend => exact absurd h.closes (hopen n)
  | cutOff hopen hend => exact absurd h.closes (hopen n)

end Quotes

/-! ## The rules applied -/

/-- **The quotes** of quoted texts. -/
def quotes : List Char := ['\'', '"', '`']

theorem ne_backslash_of_mem_quotes {quote : Char} (h : quote ∈ quotes) : quote ≠ '\\' := by
  rintro rfl
  exact absurd h (by decide)

/-- The signs that open a comment or a text begin no white space, no word and no number. -/
theorem opening_signs {c : Char} (hc : c ∈ '/' :: '#' :: '<' :: quotes) :
    ¬ isBlank c = true ∧ ¬ isNameStart c = true ∧ ¬ isDigit c = true := by
  have hall : ('/' :: '#' :: '<' :: quotes).all
      (fun c => !isBlank c && (!isNameStart c && !isDigit c)) := by
    decide +kernel
  simpa using List.all_eq_true.1 hall c hc

namespace Reading

theorem codeToken_block (body : List Char) :
    codeToken '/' ('*' :: body)
      = (if opensDoc body then .docComment else .comment, 1 + throughCommentEnd body) := by
  obtain ⟨hblank, hname, hdigit⟩ := opening_signs (c := '/') (by simp)
  unfold codeToken
  dsimp only
  rw [if_neg hblank, if_neg hname, if_neg hdigit]
  rfl

theorem codeToken_slashes (body : List Char) :
    codeToken '/' ('/' :: body) = (.comment, 1 + lineComment body) := by
  obtain ⟨hblank, hname, hdigit⟩ := opening_signs (c := '/') (by simp)
  unfold codeToken
  dsimp only
  rw [if_neg hblank, if_neg hname, if_neg hdigit]
  rfl

theorem codeToken_hash {body : List Char} (hbody : ¬ ['['] <+: body) :
    codeToken '#' body = (.comment, lineComment body) := by
  obtain ⟨hblank, hname, hdigit⟩ := opening_signs (c := '#') (by simp)
  unfold codeToken
  dsimp only
  rw [if_neg hblank, if_neg hname, if_neg hdigit]
  cases body with
  | nil => rfl
  | cons d tail =>
    have hd : d ≠ '[' := by
      rintro rfl
      exact hbody (List.prefix_append ['['] tail)
    simp [hd]

theorem codeToken_quote {quote : Char} (hquote : quote ∈ quotes) (body : List Char) :
    codeToken quote body
      = match quoted quote body with
        | some n => (.string, n)
        | none => (.other, 0) := by
  obtain ⟨hblank, hname, hdigit⟩ := opening_signs (c := quote) (by simp [hquote])
  simp only [quotes, List.mem_cons, List.not_mem_nil, or_false] at hquote
  unfold codeToken
  dsimp only
  rw [if_neg hblank, if_neg hname, if_neg hdigit]
  rcases hquote with rfl | rfl | rfl <;> rfl

variable {r : Reading}

/-- **A block comment** is read from its opening through its first end, or to the end of the file. -/
theorem token_block (hcode : r.region = .code) (body : List Char) :
    (OpensDoc body ∧ (r.token '/' ('*' :: body)).kind = .docComment
        ∨ ¬ OpensDoc body ∧ (r.token '/' ('*' :: body)).kind = .comment)
      ∧ ∃ n, FirstEnd EndsBlockComment body n
        ∧ (r.token '/' ('*' :: body)).text = String.ofList ('/' :: '*' :: body.take (n + 2)) := by
  obtain ⟨n, hfirst, hextent⟩ := throughCommentEnd_eq body
  have hword : (if opensDoc body then TokenKind.docComment else .comment) ≠ .identifier := by
    split <;> decide
  rw [token_of_codeToken hcode (codeToken_block body) hword, hextent, Nat.add_comm 1,
    List.take_succ_cons, ← List.take_eq_take_min]
  refine ⟨?_, n, hfirst, rfl⟩
  by_cases hdoc : OpensDoc body
  · exact Or.inl ⟨hdoc, if_pos (opensDoc_iff.2 hdoc)⟩
  · exact Or.inr ⟨hdoc, if_neg (mt opensDoc_iff.1 hdoc)⟩

/-- **A comment to the end of the line** is read up to its first end. -/
theorem token_lineComment (hcode : r.region = .code) {opener body : List Char}
    (hopener : OpensLineComment opener body) {c : Char} {rest : List Char}
    (hleft : c :: rest = opener ++ body) :
    ∃ n, FirstEnd EndsLineComment body n
      ∧ r.token c rest = ⟨.comment, String.ofList (opener ++ body.take n), r.line⟩ := by
  refine ⟨lineComment body, firstEnd_lineComment body, ?_⟩
  rcases hopener with rfl | ⟨rfl, hbracket⟩
  · obtain ⟨rfl, rfl⟩ : c = '/' ∧ rest = '/' :: body := by simpa using hleft
    rw [token_of_codeToken hcode (codeToken_slashes body) (by decide), Nat.add_comm 1,
      List.take_succ_cons]
    rfl
  · obtain ⟨rfl, rfl⟩ : c = '#' ∧ rest = body := by simpa using hleft
    rw [token_of_codeToken hcode (codeToken_hash hbracket) (by decide)]
    rfl

/-- **A quoted text** that closes is read through the first place where it does. -/
theorem token_quoted (hcode : r.region = .code) {quote : Char} (hquote : quote ∈ quotes)
    {body : List Char} {n : Nat} (hfirst : FirstClosing quote body n) :
    r.token quote body
      = ⟨.string, String.ofList (quote :: body.take (n + 1)), r.line⟩ := by
  have hrule := codeToken_quote hquote body
  rw [quoted_of_firstClosing (ne_backslash_of_mem_quotes hquote) hfirst] at hrule
  exact token_of_codeToken hcode hrule (by decide)

end Reading

/-- **Comments and quoted texts have exactly their extent.** Let `left` be what is left of a file where
a token begins. In code, a block comment ends right behind its first `*/`, or with the file, and it is
a doc comment if its opening has a second star with a blank behind it, else a comment. A comment to the
end of the line ends before the first line end or close tag. A quoted text that closes ends right behind
the first quote that no backslash escapes. And a doc comment comes about in no other way. -/
theorem comments_and_quoted_texts_exact (source : String) {earlier later : List Token} {token : Token}
    (htokens : (TokenStream.ofSource source).tokens.toList = earlier ++ token :: later) :
    let left := (joinedText (token :: later)).toList
    let inCode := (({} : Reading).afterAll earlier).region = .code
    (∀ body, inCode → left = '/' :: '*' :: body →
        (OpensDoc body ∧ token.kind = .docComment ∨ ¬ OpensDoc body ∧ token.kind = .comment)
          ∧ ∃ n, FirstEnd EndsBlockComment body n
            ∧ token.text = String.ofList ('/' :: '*' :: body.take (n + 2)))
      ∧ (∀ opener body, inCode → OpensLineComment opener body → left = opener ++ body →
        token.kind = .comment
          ∧ ∃ n, FirstEnd EndsLineComment body n
            ∧ token.text = String.ofList (opener ++ body.take n))
      ∧ (∀ quote body n, inCode → quote ∈ quotes → left = quote :: body →
        FirstClosing quote body n →
        token.kind = .string ∧ token.text = String.ofList (quote :: body.take (n + 1)))
      ∧ (token.kind = .docComment →
        inCode ∧ ∃ body, left = '/' :: '*' :: body ∧ OpensDoc body) := by
  rw [TokenStream.toList_ofSource] at htokens
  obtain ⟨c, rest, hleft, htoken, -⟩ := Reading.read_at htokens
  intro left inCode
  refine ⟨?_, ?_, ?_, ?_⟩
  · intro body hcode hbody
    obtain ⟨rfl, rfl⟩ := List.cons.inj (hleft.symm.trans hbody)
    rw [htoken]
    exact Reading.token_block hcode body
  · intro opener body hcode hopener hbody
    obtain ⟨n, hfirst, hread⟩ :=
      Reading.token_lineComment hcode hopener (hleft.symm.trans hbody)
    rw [htoken, hread]
    exact ⟨rfl, n, hfirst, rfl⟩
  · intro quote body n hcode hquote hbody hfirst
    obtain ⟨rfl, rfl⟩ := List.cons.inj (hleft.symm.trans hbody)
    rw [htoken, Reading.token_quoted hcode hquote hfirst]
    exact ⟨rfl, rfl⟩
  · intro hkind
    -- outside the code there is no doc comment, and in it only one rule reads one
    have hcode : inCode := by
      apply Reading.code_of_kind
      rw [← htoken, hkind]
      rfl
    have hcases := Reading.kind_of_code hcode c rest
    rw [← htoken, hkind] at hcases
    rcases hcases with ⟨-, hno⟩ | ⟨-, hno⟩ | ⟨⟨body, rfl, rfl, hdoc⟩, -⟩ | ⟨-, hno⟩
    · exact absurd hno (by decide)
    · exact absurd hno (by decide)
    · exact ⟨hcode, body, hleft, opensDoc_iff.1 hdoc⟩
    · exact absurd hno (by decide)

/-- A comment whose opening is followed by a slash, and a text with an escaped quote in it: the slash
does not end the one, and the quote does not close the other. -/
theorem comments_and_quoted_texts_exact_of_corners :
    let tokens := (TokenStream.ofSource "<?php /*/ */'a\\''").tokens.toList
    let comment : Token := ⟨.comment, "/*/ */", 1⟩
    let text : Token := ⟨.string, "'a\\''", 1⟩
    tokens = [⟨.openTag, "<?php ", 1⟩] ++ comment :: [text]
      ∧ (∃ n, FirstEnd EndsBlockComment "/ */'a\\''".toList n
        ∧ comment.text = String.ofList ('/' :: '*' :: "/ */'a\\''".toList.take (n + 2)))
      ∧ FirstClosing '\'' "a\\''".toList 3
      ∧ text.text = String.ofList ('\'' :: "a\\''".toList.take (3 + 1)) := by
  intro tokens comment text
  have htokens : tokens = [⟨.openTag, "<?php ", 1⟩] ++ comment :: [text] := by decide +kernel
  have hfirst : FirstClosing '\'' "a\\''".toList 3 := ⟨by decide, by decide⟩
  obtain ⟨hblock, -, -, -⟩ := comments_and_quoted_texts_exact _ htokens
  have hbehind : tokens = [⟨.openTag, "<?php ", 1⟩, comment] ++ text :: [] := htokens
  obtain ⟨-, -, hquoted, -⟩ := comments_and_quoted_texts_exact _ hbehind
  obtain ⟨-, hextent⟩ := hblock "/ */'a\\''".toList (by decide +kernel) (by decide +kernel)
  obtain ⟨-, htext⟩ := hquoted '\'' "a\\''".toList 3 (by decide +kernel) (by decide)
    (by decide +kernel) hfirst
  exact ⟨htokens, hextent, hfirst, htext⟩

end DocCoverage
