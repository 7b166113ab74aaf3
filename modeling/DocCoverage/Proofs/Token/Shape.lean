/-
The shape of a file. Text and regions of code take turns: a piece of text is one token, an open tag
follows it or the file ends, and what comes between an open tag and the close tag is code. So the
classes of the tokens are a word of a regular language, and whether the reading is in text or in code
is what the word so far tells: in code the last region is still open, and in text all are closed, but
for one piece of text at the end.

Runs are maximal. A piece of text ends at the first open tag, white space and words end before a
character of another class, and therefore none of them is followed by another one of its kind.
-/
import Mathlib
import DocCoverage.Proofs.Token.Delimited

set_option autoImplicit false

open Computability

namespace DocCoverage

open Text Extent

/-! ## Open tags -/

/-- **An open tag begins here:** `<?=`, or `<?php` in any case with a blank, a tab, a line end or
nothing at all behind it. -/
def BeginsOpenTag (cs : List Char) : Prop :=
  ['<', '?', '='] <+: cs
    ∨ ∃ name rest, cs = ['<', '?'] ++ name ++ rest ∧ name.map Char.toLower = ['p', 'h', 'p']
      ∧ ∀ c, rest.head? = some c → c ∈ [' ', '\t', '\r', '\n']

theorem isSome_afterTagName {rest : List Char} :
    (afterTagName rest).isSome = true
      ↔ ∀ c, rest.head? = some c → c ∈ [' ', '\t', '\r', '\n'] := by
  fun_cases afterTagName rest <;> simp_all [or_assoc]

/-- Behind `<?` the name of an open tag is spelled out, with what may stand behind it. -/
theorem isSome_openTag_of_name {p h q : Char} {rest : List Char}
    (hname : [p, h, q].map Char.toLower = ['p', 'h', 'p'])
    (hrest : (afterTagName rest).isSome = true) :
    (openTag ('?' :: p :: h :: q :: rest)).isSome = true := by
  have hp : p ≠ '=' := by
    rintro rfl
    simp at hname
  have hstarts : startsWith ['p', 'h', 'p'] [p, h, q] = true := by
    rw [startsWith, hname]
    rfl
  rw [openTag_of_ne hp, if_pos hstarts, Option.isSome_map, hrest]

/-- **The scan for an open tag** finds one where one begins, and only there. -/
theorem beginsOpenTag_cons {c : Char} {rest : List Char} :
    BeginsOpenTag (c :: rest) ↔ c = '<' ∧ (openTag rest).isSome = true := by
  constructor
  · rintro (⟨tail, htag⟩ | ⟨name, behind, htag, hname, hbehind⟩)
    · obtain ⟨rfl, rfl⟩ := List.cons.inj htag
      exact ⟨rfl, rfl⟩
    · obtain ⟨p, h, q, rfl⟩ : ∃ p h q, name = [p, h, q] := by
        have hlength : name.length = 3 := by
          rw [← List.length_map Char.toLower, hname]
          rfl
        exact List.length_eq_three.1 hlength
      obtain ⟨rfl, rfl⟩ := List.cons.inj htag
      exact ⟨rfl, isSome_openTag_of_name hname (isSome_afterTagName.2 hbehind)⟩
  · rintro ⟨rfl, htag⟩
    unfold openTag at htag
    split at htag
    next tail => exact Or.inl ⟨tail, rfl⟩
    next p h q behind _ =>
      right
      by_cases hstarts : startsWith ['p', 'h', 'p'] [p, h, q] = true
      · rw [if_pos hstarts, Option.isSome_map] at htag
        have hname : ['p', 'h', 'p'] <+: [p, h, q].map Char.toLower :=
          List.isPrefixOf_iff_prefix.1 hstarts
        exact ⟨[p, h, q], behind, rfl, (hname.eq_of_length rfl).symm, isSome_afterTagName.1 htag⟩
      · rw [if_neg hstarts] at htag
        cases htag
    next => cases htag

/-- **A piece of text** reaches up to the first open tag. -/
theorem firstEnd_html (cs : List Char) : FirstEnd BeginsOpenTag cs (html cs) := by
  fun_induction html cs with
  | case1 => exact .nil
  | case2 c rest htag => exact .here (beginsOpenTag_cons.2 (by simpa using htag))
  | case3 c rest htag ih => exact ih.cons (mt beginsOpenTag_cons.1 (by simpa using htag))

/-! ## The language of a file -/

/-- The classes of tokens in code, as words of one letter. -/
def codeLetters : Language TokenKind :=
  {word | ∃ kind, kind ≠ .inlineHtml ∧ kind ≠ .openTag ∧ kind ≠ .closeTag ∧ word = [kind]}

/-- A piece of text, or none. -/
def optionalText : Language TokenKind := 1 + {[.inlineHtml]}

/-- **A region of code,** still open, with the text before it. -/
def openRegion : Language TokenKind := optionalText * {[.openTag]} * codeLetters∗

/-- A region of code with its close tag. -/
def closedRegion : Language TokenKind := openRegion * {[.closeTag]}

/-- **The shape of a file:** closed regions, and then at most one piece of text or an open region. -/
def fileShape : Language TokenKind := closedRegion∗ * (optionalText + openRegion)

section Words

variable {word : List TokenKind}

/-- An open tag behind closed regions and a piece of text opens one more region. -/
theorem opened_mem (h : word ∈ closedRegion∗ * optionalText) :
    word ++ [.openTag] ∈ closedRegion∗ * openRegion := by
  have hopen : word ++ [.openTag] ++ []
      ∈ closedRegion∗ * optionalText * {[.openTag]} * codeLetters∗ :=
    Language.append_mem_mul (Language.append_mem_mul h rfl) (Language.nil_mem_kstar _)
  rw [List.append_nil] at hopen
  rwa [openRegion, ← mul_assoc, ← mul_assoc]

/-- The open region goes on with a token of code. -/
theorem continued_mem {kind : TokenKind} (h : word ∈ closedRegion∗ * openRegion)
    (hkind : [kind] ∈ codeLetters) : word ++ [kind] ∈ closedRegion∗ * openRegion := by
  have hle : openRegion * codeLetters ≤ openRegion := by
    unfold openRegion
    rw [mul_assoc]
    exact mul_le_mul_right kstar_mul_le_kstar _
  have hword := Language.append_mem_mul h hkind
  rw [mul_assoc] at hword
  exact mul_le_mul_right hle _ hword

/-- The close tag closes it. -/
theorem closed_mem (h : word ∈ closedRegion∗ * openRegion) :
    word ++ [.closeTag] ∈ closedRegion∗ := by
  have hword : word ++ [.closeTag] ∈ closedRegion∗ * openRegion * {[.closeTag]} :=
    Language.append_mem_mul h rfl
  have hle : closedRegion∗ * closedRegion ≤ closedRegion∗ := kstar_mul_le_kstar
  rw [mul_assoc] at hword
  exact hle hword

/-- A piece of text may stand behind closed regions, and need not. -/
theorem optionalText_mem (h : word ∈ closedRegion∗) :
    word ∈ closedRegion∗ * optionalText
      ∧ word ++ [.inlineHtml] ∈ closedRegion∗ * optionalText := by
  have hnone : word ++ [] ∈ closedRegion∗ * optionalText :=
    Language.append_mem_mul h (Or.inl rfl)
  rw [List.append_nil] at hnone
  exact ⟨hnone, Language.append_mem_mul h (Or.inr rfl)⟩

end Words

namespace Reading

variable {r : Reading} {c : Char} {rest : List Char}

/-! ## One token and the next -/

/-- Where an open tag begins, text ends with it. -/
theorem kind_of_open (htext : r.region = .text) (h : BeginsOpenTag (c :: rest)) :
    (r.token c rest).kind = .openTag := by
  obtain ⟨rfl, htag⟩ := beginsOpenTag_cons.1 h
  obtain ⟨n, hn⟩ := Option.isSome_iff_exists.1 htag
  rw [token, nextToken_of_text htext, if_pos (by rfl), hn]

/-- Elsewhere text goes on up to the next open tag. -/
theorem nextToken_html (htext : r.region = .text) (h : ¬ BeginsOpenTag (c :: rest)) :
    r.nextToken c rest = (.inlineHtml, html rest) := by
  have hnone : (if c == '<' then openTag rest else none) = none := by
    by_cases hc : c = '<'
    · subst hc
      rw [beginsOpenTag_cons] at h
      simpa using h
    · simp [hc]
  rw [nextToken_of_text htext, hnone]

/-- A piece of text is read in text, where no open tag begins. -/
theorem html_of_kind (h : (r.token c rest).kind = .inlineHtml) :
    r.region = .text ∧ ¬ BeginsOpenTag (c :: rest) := by
  have htext : r.region = .text := by
    apply isOutside_token_iff.1
    rw [h]
    rfl
  refine ⟨htext, ?_⟩
  intro hbegins
  rw [kind_of_open htext hbegins] at h
  cases h

/-- White space in code begins with a blank. -/
theorem blank_of_kind (h : (r.token c rest).kind = .whitespace) :
    r.region = .code ∧ isBlank c = true := by
  have hcode : r.region = .code := by
    apply code_of_kind
    rw [h]
    rfl
  refine ⟨hcode, ?_⟩
  have hcases := kind_of_code hcode c rest
  rw [h] at hcases
  rcases hcases with ⟨hblank, -⟩ | ⟨-, hno⟩ | ⟨-, hno⟩ | ⟨-, hno⟩
  · exact hblank
  · exact absurd hno (by decide)
  · exact absurd hno (by decide)
  · exact absurd hno (by decide)

/-- **Two tokens in a row:** the second one is read from what is left behind the first. -/
theorem read_next {cs : List Char} {before later : List Token} {first second : Token}
    (h : r.tokens cs = before ++ first :: second :: later) :
    ∃ c rest d left, first = (r.afterAll before).token c rest
      ∧ (r.afterAll before).behind c rest = d :: left
      ∧ second = (r.afterAll (before ++ [first])).token d left := by
  obtain ⟨c, rest, -, hfirst, hlater⟩ := read_at h
  rw [← afterAll_concat] at hlater
  cases hbehind : (r.afterAll before).behind c rest with
  | nil => simp [hbehind] at hlater
  | cons d left =>
    rw [hbehind, tokens_cons] at hlater
    exact ⟨c, rest, d, left, hfirst, hbehind, (List.cons.inj hlater).1⟩

/-- **Behind a piece of text** comes an open tag. -/
theorem openTag_of_html {cs : List Char} {before later : List Token} {first second : Token}
    (h : r.tokens cs = before ++ first :: second :: later) (hkind : first.kind = .inlineHtml) :
    second.kind = .openTag := by
  obtain ⟨c, rest, d, left, hfirst, hbehind, hsecond⟩ := read_next h
  rw [hfirst] at hkind
  obtain ⟨htext, hbegins⟩ := html_of_kind hkind
  have hregion : (r.afterAll (before ++ [first])).region = .text := by
    rw [afterAll_concat, region_after, hfirst, hkind, if_neg (by decide), if_neg (by decide), htext]
  rw [behind, nextToken_html htext hbegins] at hbehind
  -- the text does not end where something is left of it
  have hreached := (firstEnd_html rest).reached
  rw [hbehind] at hreached
  have hopen : BeginsOpenTag (d :: left) := by
    apply hreached.resolve_left
    intro hall
    rw [hall, List.drop_length] at hbehind
    cases hbehind
  rw [hsecond, kind_of_open hregion hopen]

/-- **Behind a run in code** comes no more of its characters. -/
theorem not_of_behind_run (hcode : r.region = .code) {p : Char → Bool} {d : Char}
    {left : List Char} (hrun : (codeToken c rest).2 = run p rest)
    (hbehind : r.behind c rest = d :: left) : p d = false := by
  rw [behind, nextToken_snd_of_code hcode, hrun] at hbehind
  exact head?_drop_run (by rw [hbehind, List.head?_cons])

/-! ## The tokens so far -/

/-- **What the classes of the tokens so far are,** in code and in text. In code the last region is open.
In text all of them are closed, and a piece of text may stand behind them. -/
inductive Shaped : List Token → Region → Prop
  | inCode {before : List Token} (h : before.map Token.kind ∈ closedRegion∗ * openRegion) :
    Shaped before .code
  | closed {before : List Token} (h : before.map Token.kind ∈ closedRegion∗) : Shaped before .text
  | html {front : List Token} {t : Token} (h : front.map Token.kind ∈ closedRegion∗)
    (hkind : t.kind = .inlineHtml) : Shaped (front ++ [t]) .text

namespace Shaped

variable {before : List Token} {region : Region}

/-- In text the classes so far are those of closed regions and of at most one piece of text. -/
theorem text_mem (h : Shaped before .text) :
    before.map Token.kind ∈ closedRegion∗ * optionalText := by
  cases h with
  | closed hclosed => exact (optionalText_mem hclosed).1
  | html hclosed hkind =>
    rw [List.map_append, List.map_singleton, hkind]
    exact (optionalText_mem hclosed).2

/-- At every place the classes so far have the shape of a file. -/
theorem mem_fileShape (h : Shaped before region) : before.map Token.kind ∈ fileShape := by
  rw [fileShape, mul_add]
  cases region with
  | text => exact Or.inl h.text_mem
  | code =>
    cases h with
    | inCode hopen => exact Or.inr hopen

end Shaped

/-- **One token more.** -/
theorem shaped_step {cs : List Char} {before later : List Token} {t : Token}
    (htokens : r.tokens cs = before ++ t :: later)
    (h : Shaped before (r.afterAll before).region) :
    Shaped (before ++ [t]) (r.afterAll (before ++ [t])).region := by
  obtain ⟨c, rest, -, htoken, -⟩ := read_at htokens
  have houtside : t.kind.isOutside = true ↔ (r.afterAll before).region = .text := by
    rw [htoken]
    exact isOutside_token_iff
  have hword : (before ++ [t]).map Token.kind = before.map Token.kind ++ [t.kind] := by simp
  rw [afterAll_concat, region_after]
  cases hregion : (r.afterAll before).region with
  | text =>
    rw [hregion] at h
    by_cases hbegins : BeginsOpenTag (c :: rest)
    · have hkind : t.kind = .openTag := by rw [htoken, kind_of_open hregion hbegins]
      rw [if_pos hkind]
      apply Shaped.inCode
      rw [hword, hkind]
      exact opened_mem h.text_mem
    · have hkind : t.kind = .inlineHtml := by rw [htoken, token, nextToken_html hregion hbegins]
      rw [hkind, if_neg (by decide), if_neg (by decide)]
      refine .html ?_ hkind
      -- the piece of text is the first behind the regions, since an open tag follows such a piece
      cases h with
      | closed hclosed => exact hclosed
      | html _ hlast =>
        rw [List.append_assoc, List.singleton_append] at htokens
        rw [openTag_of_html htokens hlast] at hkind
        cases hkind
  | code =>
    rw [hregion] at h
    obtain ⟨hopen⟩ := h
    have hinside : t.kind ≠ .openTag ∧ t.kind ≠ .inlineHtml := by
      constructor
      · intro hkind
        rw [hkind, hregion] at houtside
        cases houtside.1 rfl
      · intro hkind
        rw [hkind, hregion] at houtside
        cases houtside.1 rfl
    rw [if_neg hinside.1]
    by_cases hclose : t.kind = .closeTag
    · rw [if_pos hclose]
      apply Shaped.closed
      rw [hword, hclose]
      exact closed_mem hopen
    · rw [if_neg hclose]
      apply Shaped.inCode
      rw [hword]
      exact continued_mem hopen ⟨t.kind, hinside.2, hinside.1, hclose, rfl⟩

/-- **The tokens of a file,** as far as they are read. -/
theorem shaped {cs : List Char} {before later : List Token}
    (htokens : ({} : Reading).tokens cs = before ++ later) :
    Shaped before (({} : Reading).afterAll before).region := by
  induction before using List.reverseRecOn generalizing later with
  | nil => exact .closed (Language.nil_mem_kstar _)
  | append_singleton before t ih =>
    rw [List.append_assoc, List.singleton_append] at htokens
    exact shaped_step htokens (ih htokens)

end Reading

/-- **The shape of a file.** The classes of its tokens are those of closed regions of code and then of
at most one piece of text or of an open region. Every piece of text ends at the first place, from where
it begins, at which an open tag begins in the file, or else with the file. And neither two tokens of
white space nor two words stand next to each other. -/
theorem file_shape_exact (source : String) :
    let tokens := (TokenStream.ofSource source).tokens.toList
    tokens.map Token.kind ∈ fileShape
      ∧ (∀ earlier token later, tokens = earlier ++ token :: later → token.kind = .inlineHtml →
        FirstEnd BeginsOpenTag (source.toList.drop (joinedText earlier).length) token.text.length)
      ∧ ∀ earlier first second later, tokens = earlier ++ first :: second :: later →
        ¬ (first.kind = .whitespace ∧ second.kind = .whitespace)
          ∧ ¬ (ReadAsWord earlier first ∧ ReadAsWord (earlier ++ [first]) second) := by
  intro tokens
  have hsource : tokens = ({} : Reading).tokens source.toList := TokenStream.toList_ofSource source
  refine ⟨?_, ?_, ?_⟩
  · rw [hsource]
    exact (Reading.shaped (List.append_nil _).symm).mem_fileShape
  · intro earlier token later htokens hkind
    rw [hsource] at htokens
    obtain ⟨c, rest, hleft, htoken⟩ := Reading.resume_token htokens
    rw [htoken] at hkind
    obtain ⟨htext, hbegins⟩ := Reading.html_of_kind hkind
    -- the scan looks behind the first character, where no open tag begins
    have hfirst := firstEnd_html rest
    have hlength : token.text.length = html rest + 1 := by
      rw [htoken, Reading.token, Reading.nextToken_html htext hbegins]
      simp [hfirst.le_length, Nat.add_comm]
    rw [hleft, ← String.length_toList, List.drop_left, hlength]
    exact hfirst.cons hbegins
  · intro earlier first second later htokens
    rw [hsource] at htokens
    obtain ⟨c, rest, d, left, hfirst, hbehind, hsecond⟩ := Reading.read_next htokens
    -- the second token would begin with one more character of the run that the first one is
    constructor
    · rintro ⟨hwhite, hagain⟩
      rw [hfirst] at hwhite
      obtain ⟨hcode, hblank⟩ := Reading.blank_of_kind hwhite
      rw [hsecond] at hagain
      obtain ⟨-, hnext⟩ := Reading.blank_of_kind hagain
      have hrule := Reading.codeToken_blank hblank rest
      have hno := Reading.not_of_behind_run hcode (by rw [hrule]) hbehind
      rw [hno] at hnext
      cases hnext
    · rintro ⟨hword, hagain⟩
      rw [hfirst, readAsWord_token_iff] at hword
      obtain ⟨hcode, hname⟩ := hword
      rw [hsecond, readAsWord_token_iff] at hagain
      have hrule := Reading.codeToken_word hname rest
      have hno := Reading.not_of_behind_run hcode (by rw [hrule]) hbehind
      rw [isWord_of_isNameStart hagain.2] at hno
      cases hno

/-- A tag with a letter right behind its name is text, and the words behind an open tag are kept apart
by white space. -/
theorem file_shape_exact_of_unfinished_tag :
    let source := "a<?phpb<?PHP x y?>"
    let tokens := (TokenStream.ofSource source).tokens.toList
    let text : Token := ⟨.inlineHtml, "a<?phpb", 1⟩
    let tag : Token := ⟨.openTag, "<?PHP ", 1⟩
    let word : Token := ⟨.identifier, "x", 1⟩
    let blank : Token := ⟨.whitespace, " ", 1⟩
    tokens = [] ++ text :: [tag, word, blank, ⟨.identifier, "y", 1⟩, ⟨.closeTag, "?>", 1⟩]
      ∧ tokens.map Token.kind ∈ fileShape
      ∧ FirstEnd BeginsOpenTag source.toList 7
      ∧ ReadAsWord [text, tag] word ∧ ¬ ReadAsWord [text, tag, word] blank := by
  intro source tokens text tag word blank
  have htokens : tokens
      = [] ++ text :: [tag, word, blank, ⟨.identifier, "y", 1⟩, ⟨.closeTag, "?>", 1⟩] := by
    decide +kernel
  have hword : ReadAsWord [text, tag] word := by
    exact ⟨by decide +kernel, 'x', [], by decide, by decide +kernel, by simp⟩
  obtain ⟨hshape, hends, hapart⟩ := file_shape_exact source
  have hnext := hapart [text, tag] word blank [⟨.identifier, "y", 1⟩, ⟨.closeTag, "?>", 1⟩] htokens
  have hend := hends [] text _ htokens rfl
  have hlength : text.text.length = 7 := by decide
  rw [hlength, joinedText_nil, String.length_empty, List.drop_zero] at hend
  exact ⟨htokens, hshape, hend, hword, fun hagain => hnext.2 ⟨hword, hagain⟩⟩

end DocCoverage
