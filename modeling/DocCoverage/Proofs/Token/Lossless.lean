/-
Reading a file loses nothing. The tokens of a file follow one another without a gap, so that their
texts put together are the file again, and the line noted for a token is the line on which its text
really begins.

The rules that decide where a token ends (comments, quoted texts, heredocs, tags that own a line
end) play no part in this, and that is the point: whatever extent a rule names, the token takes its
first character and that many of those behind it, the reading goes on behind exactly these, and the
same characters are counted for the line.

The one induction is `Reading.resume`: a reading can be taken up behind any of its tokens, with the
text that is left and the state that the tokens so far led to. Both statements about a file are read
off it, the first behind the last token and the second behind the tokens before a given one.
-/
import DocCoverage.Token.Stream

set_option autoImplicit false

namespace DocCoverage

/-! ## The text of a run of tokens -/

/-- The texts of some tokens put together. -/
def joinedText (tokens : List Token) : String :=
  String.join (tokens.map Token.text)

@[simp] theorem joinedText_nil : joinedText [] = "" := String.join_nil

@[simp] theorem joinedText_cons (t : Token) (rest : List Token) :
    joinedText (t :: rest) = t.text ++ joinedText rest := String.join_cons

namespace Reading

/-! ## One token -/

/-- The token that `c` begins, where `rest` follows. -/
def token (r : Reading) (c : Char) (rest : List Char) : Token :=
  ⟨(r.nextToken c rest).1, String.ofList (c :: rest.take (r.nextToken c rest).2), r.line⟩

/-- The text behind that token. -/
def behind (r : Reading) (c : Char) (rest : List Char) : List Char :=
  rest.drop (r.nextToken c rest).2

@[simp] theorem tokens_nil (r : Reading) : r.tokens [] = [] := by
  rw [tokens]

/-- A reading gives one token and goes on behind it. -/
theorem tokens_cons (r : Reading) (c : Char) (rest : List Char) :
    r.tokens (c :: rest)
      = r.token c rest :: (r.after (r.token c rest)).tokens (r.behind c rest) := by
  rw [tokens]
  rfl

/-- A token and what is behind it make up the text. -/
theorem token_append_behind (r : Reading) (c : Char) (rest : List Char) :
    (r.token c rest).text.toList ++ r.behind c rest = c :: rest := by
  rw [token, behind, String.toList_ofList, List.cons_append, List.take_append_drop]

/-- No token is empty: it has at least the character that begins it. -/
theorem text_token_ne_empty (r : Reading) (c : Char) (rest : List Char) :
    (r.token c rest).text ≠ "" := by
  intro h
  have hnil : (r.token c rest).text.toList = [] := by rw [h]; rfl
  rw [token, String.toList_ofList] at hnil
  exact List.cons_ne_nil _ _ hnil

/-- **The line count moves on by the line ends of the token**, whatever class the token has and
whichever region it leads to. -/
theorem line_after (r : Reading) (t : Token) :
    (r.after t).line = r.line + t.text.toList.count '\n' := by
  unfold after
  split <;> rfl

/-! ## A run of tokens -/

/-- Where a reading stands after some tokens. -/
def afterAll (r : Reading) (before : List Token) : Reading :=
  before.foldl after r

/-- The line after some tokens is the line before them and the line ends in their text. -/
theorem line_afterAll (r : Reading) (before : List Token) :
    (r.afterAll before).line = r.line + (joinedText before).toList.count '\n' := by
  induction before generalizing r with
  | nil => rfl
  | cons t rest ih =>
    have hrest : (r.afterAll (t :: rest)).line
        = (r.after t).line + (joinedText rest).toList.count '\n' := ih (r.after t)
    rw [hrest, line_after, joinedText_cons, String.toList_append, List.count_append, Nat.add_assoc]

/-- **A reading can be taken up behind any of its tokens.** Behind the tokens `before` some text is
left, which together with theirs is the whole, and the remaining tokens are those of the text left,
read from the state that `before` led to. -/
theorem resume {r : Reading} {cs : List Char} {before rest : List Token}
    (h : r.tokens cs = before ++ rest) :
    ∃ left, cs = (joinedText before).toList ++ left ∧ rest = (r.afterAll before).tokens left := by
  induction before generalizing r cs with
  | nil => exact ⟨cs, rfl, h.symm⟩
  | cons t before ih =>
    cases cs with
    | nil =>
      rw [tokens_nil] at h
      exact absurd h.symm (List.cons_ne_nil _ _)
    | cons c cs' =>
      rw [tokens_cons, List.cons_append] at h
      obtain ⟨hhead, htail⟩ := List.cons.inj h
      obtain ⟨left, htext, hrest⟩ := ih htail
      refine ⟨left, ?_, ?_⟩
      · rw [joinedText_cons, String.toList_append, List.append_assoc, ← htext, ← hhead,
          token_append_behind]
      · rw [hrest, hhead]
        rfl

/-- A token that comes after others is the first one of what is left after them. -/
theorem resume_token {r : Reading} {cs : List Char} {before rest : List Token} {t : Token}
    (h : r.tokens cs = before ++ t :: rest) :
    ∃ c left, cs = (joinedText before).toList ++ c :: left
      ∧ t = (r.afterAll before).token c left := by
  obtain ⟨left, htext, htokens⟩ := resume h
  cases left with
  | nil =>
    rw [tokens_nil] at htokens
    exact absurd htokens (List.cons_ne_nil _ _)
  | cons c left =>
    rw [tokens_cons] at htokens
    exact ⟨c, left, htext, (List.cons.inj htokens).1⟩

/-- The texts of all tokens are the text that was read. -/
theorem joinedText_tokens (r : Reading) (cs : List Char) :
    joinedText (r.tokens cs) = String.ofList cs := by
  obtain ⟨left, htext, hnone⟩ := resume (List.append_nil (r.tokens cs)).symm
  cases left with
  | nil =>
    rw [List.append_nil] at htext
    calc joinedText (r.tokens cs)
        = String.ofList (joinedText (r.tokens cs)).toList := String.ofList_toList.symm
      _ = String.ofList cs := congrArg String.ofList htext.symm
  | cons c left =>
    rw [tokens_cons] at hnone
    exact absurd hnone.symm (List.cons_ne_nil _ _)

end Reading

/-! ## A file -/

/-- The tokens of a file are those of its text, read from the beginning. -/
theorem TokenStream.toList_ofSource (source : String) :
    (TokenStream.ofSource source).tokens.toList = ({} : Reading).tokens source.toList := by
  rw [TokenStream.ofSource, List.toList_toArray]

/-- **Reading a file is lossless, and its lines are exact.** The texts of the tokens in order are
the file; every token has a text, and its line is one more than the number of line ends in the texts
of the tokens before it. -/
theorem ofSource_lossless (source : String) :
    let tokens := (TokenStream.ofSource source).tokens.toList
    joinedText tokens = source
      ∧ ∀ i : Fin tokens.length, tokens[i].text ≠ ""
          ∧ tokens[i].line = 1 + (joinedText (tokens.take i)).toList.count '\n' := by
  intro tokens
  have htokens : tokens = ({} : Reading).tokens source.toList := TokenStream.toList_ofSource source
  refine ⟨?_, ?_⟩
  · rw [htokens, Reading.joinedText_tokens, String.ofList_toList]
  · intro i
    have hsplit : ({} : Reading).tokens source.toList
        = tokens.take i ++ tokens[i] :: tokens.drop (i + 1) := by
      rw [← htokens, Fin.getElem_fin, ← List.drop_eq_getElem_cons, List.take_append_drop]
    obtain ⟨c, left, -, htoken⟩ := Reading.resume_token hsplit
    rw [htoken]
    exact ⟨Reading.text_token_ne_empty _ c left, Reading.line_afterAll {} _⟩

end DocCoverage
