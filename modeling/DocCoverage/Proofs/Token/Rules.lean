/-
Which rule reads a token. In code the first character decides, with what comes right behind it; four
cases are enough for what is asked of a file as a whole: white space, a word, a doc comment, and all
the classes that begin with some other sign. Text outside the code has the two classes that do not
occur in code, so the class of a token tells the region it stands in.

A token of a file is read at its place: from the text that is left there, and from the state that the
tokens before it led to. What the modules on comments, words and the shape of a file say of a token
they say of that reading.
-/
import Mathlib
import DocCoverage.Proofs.Token.Regions

set_option autoImplicit false

namespace DocCoverage

open Text Extent

/-! ## Characters -/

/-- No blank lies in a range of word characters, nor between the ASCII digits and letters. -/
theorem blankRanges_apart :
    ∀ b ∈ blankRanges, (∀ w ∈ wordRanges, b.2 < w.1 ∨ w.2 < b.1) ∧ (b.2 < 48 ∨ 122 < b.1) := by
  decide +kernel

/-- **No name begins with a blank.** -/
theorem isBlank_of_isNameStart {c : Char} (h : isNameStart c = true) : isBlank c = false := by
  have hword : isWord c = true := isWord_of_isNameStart h
  rw [Bool.eq_false_iff]
  intro hblank
  obtain ⟨b, hb, hfirst, hlast⟩ := inRanges_iff.1 hblank
  obtain ⟨hranges, hascii⟩ := blankRanges_apart b hb
  simp only [isWord, Bool.or_eq_true, beq_iff_eq] at hword
  -- an ASCII letter or digit, the underscore, or a character of one of the ranges
  rcases hword with (halnum | rfl) | hrange
  · simp [Char.isAlphanum, Char.isAlpha, Char.isUpper, Char.isLower, Char.isDigit,
      UInt32.le_iff_toNat_le] at halnum
    omega
  · simp at hfirst hlast
    omega
  · obtain ⟨w, hw, hbegin, hend⟩ := inRanges_iff.1 hrange
    have hapart := hranges w hw
    omega

/-! ## Runs -/

/-- The characters of a run. -/
theorem take_run (p : Char → Bool) (cs : List Char) : cs.take (run p cs) = cs.takeWhile p :=
  (List.prefix_iff_eq_take.1 (List.takeWhile_prefix p)).symm

/-- **A run is as long as it can be:** what comes behind it begins with no character of the class. -/
theorem head?_drop_run {p : Char → Bool} {cs : List Char} {c : Char}
    (h : (cs.drop (run p cs)).head? = some c) : p c = false := by
  unfold run at h
  induction cs with
  | nil => simp at h
  | cons d rest ih =>
    by_cases hd : p d = true
    · rw [List.takeWhile_cons_of_pos hd] at h
      exact ih (by simpa using h)
    · rw [List.takeWhile_cons_of_neg hd] at h
      obtain rfl : d = c := by simpa using h
      simpa using hd

/-! ## The rules of code -/

/-- The classes of tokens that begin with a sign: neither with a blank nor like a name. -/
def signKinds : List TokenKind :=
  [.closeTag, .comment, .openBrace, .closeBrace, .openParen, .closeParen, .semicolon, .variableName,
    .string, .number, .operator, .other]

/-- The classes a word can have. -/
def wordKinds : List TokenKind := .identifier :: keywords.map Prod.snd

/-- The classes of tokens outside the code. -/
def TokenKind.isOutside : TokenKind → Bool
  | .inlineHtml | .openTag => true
  | _ => false

/-- **The rules of code,** each with what it is applied to. -/
inductive CodeRule (c : Char) (rest : List Char) : TokenKind × Nat → Prop
  | blank (hblank : isBlank c = true) : CodeRule c rest (.whitespace, run isBlank rest)
  | word (hname : isNameStart c = true) : CodeRule c rest (.identifier, run isWord rest)
  | docComment (body : List Char) (hc : c = '/') (hrest : rest = '*' :: body)
      (hdoc : opensDoc body = true) : CodeRule c rest (.docComment, 1 + throughCommentEnd body)
  | sign (kind : TokenKind) (n : Nat) (hblank : isBlank c = false) (hname : isNameStart c = false)
      (hkind : kind ∈ signKinds) : CodeRule c rest (kind, n)

namespace Reading

variable {r : Reading} {c : Char} {rest : List Char}

/-- Every token of code is read by one of the rules. -/
theorem codeRule (c : Char) (rest : List Char) : CodeRule c rest (codeToken c rest) := by
  unfold codeToken
  extract_lets operatorOrOther quotedText
  by_cases hblank : isBlank c = true
  · rw [if_pos hblank]
    exact .blank hblank
  by_cases hname : isNameStart c = true
  · rw [if_neg hblank, if_pos hname]
    exact .word hname
  rw [if_neg hblank, if_neg hname]
  rw [Bool.not_eq_true] at hblank hname
  have hsign : ∀ {kind : TokenKind} (n : Nat), kind ∈ signKinds → CodeRule c rest (kind, n) :=
    fun n hkind => .sign _ n hblank hname hkind
  -- what several signs fall back on
  have hoperator : CodeRule c rest operatorOrOther := by
    unfold operatorOrOther
    split <;> exact hsign _ (by decide)
  have hquoted : CodeRule c rest quotedText := by
    unfold quotedText
    split
    · exact hsign _ (by decide)
    · exact hoperator
  -- a digit, and then the signs one by one
  split
  · exact hsign _ (by decide)
  split
  · split
    · exact hsign _ (by decide)
    · exact hoperator
  · split
    next body =>
      by_cases hdoc : opensDoc body = true
      · rw [if_pos hdoc]
        exact .docComment body rfl rfl hdoc
      · rw [if_neg hdoc]
        exact hsign _ (by decide)
    next => exact hsign _ (by decide)
    next => exact hoperator
  · split
    · exact hoperator
    · exact hsign _ (by decide)
  · split
    · exact hsign _ (by decide)
    · exact hoperator
  iterate 3 exact hquoted
  · split
    · exact hsign _ (by decide)
    · exact hoperator
  · split
    · exact hsign _ (by decide)
    · exact hoperator
  iterate 5 exact hsign _ (by decide)
  · exact hoperator

/-- **The class of a word** is that of an identifier or of the keyword it is. -/
theorem wordKind_cases (previous : Option Token) (text : String) :
    wordKind previous text = .identifier
      ∨ (lowerAscii text, wordKind previous text) ∈ keywords := by
  unfold wordKind
  split
  · exact Or.inl rfl
  · cases hword : keywords.lookup (lowerAscii text) with
    | none => exact Or.inl rfl
    | some kind =>
      obtain ⟨before, after, hentry, -⟩ := List.lookup_eq_some_iff.1 hword
      refine Or.inr ?_
      rw [hentry]
      simp

theorem wordKind_mem (previous : Option Token) (text : String) :
    wordKind previous text ∈ wordKinds := by
  rcases wordKind_cases previous text with hkind | hkind
  · rw [hkind]
    exact List.mem_cons_self
  · exact List.mem_cons_of_mem _ (List.mem_map_of_mem hkind)

/-! ## Regions -/

/-- **In code** a token that is no word has the class and the extent of its rule. -/
theorem token_of_codeToken (hcode : r.region = .code) {kind : TokenKind} {n : Nat}
    (hrule : codeToken c rest = (kind, n)) (hkind : kind ≠ .identifier) :
    r.token c rest = ⟨kind, String.ofList (c :: rest.take n), r.line⟩ := by
  rw [token, nextToken_of_code hcode, hrule, if_neg hkind]

theorem codeToken_word (hname : isNameStart c = true) (rest : List Char) :
    codeToken c rest = (.identifier, run isWord rest) := by
  have hblank : ¬ isBlank c = true := by simp [isBlank_of_isNameStart hname]
  unfold codeToken
  dsimp only
  rw [if_neg hblank, if_pos hname]

theorem codeToken_blank (hblank : isBlank c = true) (rest : List Char) :
    codeToken c rest = (.whitespace, run isBlank rest) := by
  unfold codeToken
  dsimp only
  rw [if_pos hblank]

/-- **In code** a word is as long as it can be, and its class depends on what comes before. -/
theorem token_of_word (hcode : r.region = .code) (hname : isNameStart c = true) :
    r.token c rest
      = ⟨wordKind r.previous (String.ofList (c :: rest.takeWhile isWord)),
          String.ofList (c :: rest.takeWhile isWord), r.line⟩ := by
  rw [token, nextToken_of_code hcode, codeToken_word hname, if_pos rfl]
  dsimp only
  rw [take_run]

/-- **The class of a token in code** tells how the token begins. -/
theorem kind_of_code (hcode : r.region = .code) (c : Char) (rest : List Char) :
    isBlank c = true ∧ (r.token c rest).kind = .whitespace
      ∨ isNameStart c = true ∧ (r.token c rest).kind ∈ wordKinds
      ∨ (∃ body, c = '/' ∧ rest = '*' :: body ∧ opensDoc body = true)
        ∧ (r.token c rest).kind = .docComment
      ∨ (isBlank c = false ∧ isNameStart c = false) ∧ (r.token c rest).kind ∈ signKinds := by
  have hrule := codeRule c rest
  generalize hfound : codeToken c rest = found at hrule
  cases hrule with
  | blank hblank =>
    left
    rw [token_of_codeToken hcode hfound (by decide)]
    exact ⟨hblank, rfl⟩
  | word hname =>
    right; left
    rw [token_of_word hcode hname]
    exact ⟨hname, wordKind_mem _ _⟩
  | docComment body hc hrest hdoc =>
    right; right; left
    rw [token_of_codeToken hcode hfound (by decide)]
    exact ⟨⟨body, hc, hrest, hdoc⟩, rfl⟩
  | sign kind n hblank hname hkind =>
    right; right; right
    have hword : kind ≠ .identifier := by
      rintro rfl
      exact absurd hkind (by decide)
    rw [token_of_codeToken hcode hfound hword]
    exact ⟨⟨hblank, hname⟩, hkind⟩

/-- **The class of a token outside the code** is one of the two that do not occur in code. -/
theorem isOutside_token_iff : (r.token c rest).kind.isOutside = true ↔ r.region = .text := by
  constructor
  · intro houtside
    cases hregion : r.region with
    | text => rfl
    | code =>
      have hnone : ∀ kind, kind = .whitespace ∨ kind ∈ wordKinds ∨ kind = .docComment
          ∨ kind ∈ signKinds → kind.isOutside = false := by
        intro kind
        cases kind <;> decide
      have hkind := kind_of_code hregion c rest
      rw [hnone _ (hkind.imp And.right (Or.imp And.right (Or.imp And.right And.right)))] at houtside
      cases houtside
  · intro htext
    rw [token, nextToken_of_text htext]
    split <;> rfl

/-- So a token of another class stands in code. -/
theorem code_of_kind (h : (r.token c rest).kind.isOutside = false) : r.region = .code := by
  cases hregion : r.region with
  | code => rfl
  | text =>
    rw [isOutside_token_iff.2 hregion] at h
    cases h

/-- A token with a class of words begins like a name. -/
theorem isNameStart_of_kind (hcode : r.region = .code) (h : (r.token c rest).kind ∈ wordKinds) :
    isNameStart c = true := by
  have hother : ∀ kind ∈ TokenKind.whitespace :: TokenKind.docComment :: signKinds,
      kind ∉ wordKinds := by decide
  rcases kind_of_code hcode c rest with
    ⟨-, hkind⟩ | ⟨hname, -⟩ | ⟨-, hkind⟩ | ⟨-, hkind⟩
  · exact absurd h (hother _ (by simp [hkind]))
  · exact hname
  · exact absurd h (hother _ (by simp [hkind]))
  · exact absurd h (hother _ (by simp [hkind]))

/-- The region that a token leads to. -/
theorem region_after (r : Reading) (t : Token) :
    (r.after t).region
      = if t.kind = .openTag then .code else if t.kind = .closeTag then .text else r.region := by
  unfold after
  split
  next h => simp [h]
  next h => simp [h]
  next h => simp [h]
  next hopen hclose _ => rw [if_neg hopen, if_neg hclose]

/-! ## The place of a token -/

/-- **A token of a text is read at its place:** from what is left of the text there, in the state that
the tokens before led to; and the tokens behind it are those of what is left behind it. -/
theorem read_at {cs : List Char} {before later : List Token} {t : Token}
    (h : r.tokens cs = before ++ t :: later) :
    ∃ c rest, (joinedText (t :: later)).toList = c :: rest
      ∧ t = (r.afterAll before).token c rest
      ∧ later = ((r.afterAll before).after t).tokens ((r.afterAll before).behind c rest) := by
  obtain ⟨left, -, hleft⟩ := resume h
  cases left with
  | nil => simp at hleft
  | cons c rest =>
    refine ⟨c, rest, ?_, ?_⟩
    · rw [hleft, joinedText_tokens, String.toList_ofList]
    · rw [tokens_cons] at hleft
      obtain ⟨rfl, hlater⟩ := List.cons.inj hleft
      exact ⟨rfl, hlater⟩

/-- A token that takes all that is left is the last one. -/
theorem later_eq_nil {cs : List Char} {before later : List Token} {t : Token}
    (h : r.tokens cs = before ++ t :: later)
    (hall : (joinedText (t :: later)).toList = t.text.toList) : later = [] := by
  obtain ⟨c, rest, hleft, htoken, hlater⟩ := read_at h
  have hsplit := token_append_behind (r.afterAll before) c rest
  rw [← htoken, ← hleft, hall] at hsplit
  have hbehind : (r.afterAll before).behind c rest = [] := by simpa using hsplit
  rw [hlater, hbehind, tokens_nil]

/-- A reading after one more token. -/
theorem afterAll_concat (r : Reading) (before : List Token) (t : Token) :
    r.afterAll (before ++ [t]) = (r.afterAll before).after t := by
  simp [afterAll]

/-- A token of code that takes a part of what is left has code behind it, unless it closes the code. -/
theorem code_behind {before later : List Token} {t : Token}
    (hcode : (r.afterAll before).region = .code) (hkind : t.kind ≠ .closeTag)
    (hpart : (joinedText (t :: later)).toList ≠ t.text.toList) :
    (r.afterAll (before ++ [t])).region = .code ∧ later ≠ [] := by
  constructor
  · rw [afterAll_concat, region_after, if_neg hkind, hcode]
    split <;> rfl
  · rintro rfl
    simp at hpart

end Reading

/-! ## Words in a file -/

/-- **The token is read as a word:** it stands in code, begins like a name, and goes on with word
characters. -/
def ReadAsWord (before : List Token) (t : Token) : Prop :=
  (({} : Reading).afterAll before).region = .code
    ∧ ∃ c rest, t.text.toList = c :: rest ∧ isNameStart c = true ∧ ∀ d ∈ rest, isWord d = true

/-- The first character tells in code. -/
theorem readAsWord_token_iff {before : List Token} {c : Char} {rest : List Char} :
    ReadAsWord before ((({} : Reading).afterAll before).token c rest)
      ↔ (({} : Reading).afterAll before).region = .code ∧ isNameStart c = true := by
  constructor
  · rintro ⟨hcode, first, behind, htext, hname, -⟩
    rw [Reading.token, String.toList_ofList] at htext
    obtain ⟨rfl, -⟩ := List.cons.inj htext
    exact ⟨hcode, hname⟩
  · rintro ⟨hcode, hname⟩
    refine ⟨hcode, c, rest.takeWhile isWord, ?_, hname, ?_⟩
    · rw [Reading.token_of_word hcode hname, String.toList_ofList]
    · exact List.all_eq_true.1 List.all_takeWhile

end DocCoverage
