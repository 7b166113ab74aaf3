/-
Which words are keywords. A word of the code is a keyword if its lower-case form is one, unless it
names a member: the last token before it that is neither layout nor comment is an access operator. The
reading remembers that token as it goes along and forgets it where a region of code begins; that it is
always the one a look back over all the tokens would find is the invariant here. Where the two differ,
at the beginning of a region, the look back finds the open tag, which is no operator.

The lower-case form is taken in full, while the reading changes the ASCII letters only. For the
keywords it is the same: a character outside ASCII goes to another one outside ASCII, but for the sign
of the kelvin, which goes to `k`, and no keyword has a `k` in it.
-/
import Mathlib
import DocCoverage.Proofs.Text.LowerCase
import DocCoverage.Proofs.Token.Rules

set_option autoImplicit false

namespace DocCoverage

open Text Extent

/-! ## Lower case -/

/-- The letters of the keywords. -/
def keywordLetters : List Char :=
  ['a', 'b', 'c', 'd', 'e', 'f', 'i', 'l', 'n', 'o', 'p', 'r', 's', 't', 'u', 'v']

/-- Beyond ASCII no lower-case form lies in ASCII, but for that of the kelvin sign. -/
theorem lowerRuns_beyond :
    ∀ r ∈ lowerRuns, r.2.1 < 128 ∨ 128 ≤ r.1 + r.2.2.2 ∨ r.1 = r.2.1 ∧ r.1 + r.2.2.2 = 0x6B := by
  decide +kernel

/-- In ASCII the two lower-case forms of a character are the same. -/
theorem lowerChar_ascii : ∀ n < 128, lowerChar (Char.ofNat n) = (Char.ofNat n).toLower := by
  decide +kernel

theorem toNat_keywordLetters {d : Char} (hd : d ∈ keywordLetters) :
    97 ≤ d.toNat ∧ d.toNat < 128 ∧ d.toNat ≠ 0x6B := by
  have hall : keywordLetters.all (fun d => 97 ≤ d.toNat ∧ d.toNat < 128 ∧ d.toNat ≠ 0x6B) := by
    decide
  simpa using List.all_eq_true.1 hall d hd

/-- The two characters with a lower-case form of their own, and what they go to, are no such letters. -/
theorem exceptions_apart {d : Char} (hd : d ∈ keywordLetters) :
    'Σ' ≠ d ∧ 'σ' ≠ d ∧ 'ς' ≠ d ∧ 'İ' ≠ d ∧ '\u0307' ≠ d := by
  have hall : keywordLetters.all
      (fun d => 'Σ' ≠ d ∧ 'σ' ≠ d ∧ 'ς' ≠ d ∧ 'İ' ≠ d ∧ '\u0307' ≠ d) := by
    decide
  simpa using List.all_eq_true.1 hall d hd

/-- A character beyond ASCII has no letter of a keyword as its lower-case form. -/
theorem lowerChar_not_mem {c : Char} (hc : 128 ≤ c.toNat) : lowerChar c ∉ keywordLetters := by
  intro hmem
  obtain ⟨hfirst, hlast, hkelvin⟩ := toNat_keywordLetters hmem
  rcases lowerChar_cases c with hself | ⟨r, hr, hbegin, hend, hform⟩
  · rw [hself] at hlast
    omega
  · have hbeyond := lowerRuns_beyond r hr
    rw [hform, Char.toNat_ofNat] at hfirst hlast hkelvin
    -- the sum is the number of a character, or the form is the character of number zero
    by_cases hvalid : (c.toNat + r.2.2.2).toNat.isValidChar
    · rw [if_pos hvalid] at hfirst hlast hkelvin
      omega
    · rw [if_neg hvalid] at hfirst
      omega

/-- **A character has a letter of a keyword as its lower-case form** in the full sense exactly if it
has it in the sense of ASCII. -/
theorem lowerChar_eq_iff {c d : Char} (hd : d ∈ keywordLetters) :
    lowerChar c = d ↔ c.toLower = d := by
  by_cases hascii : c.toNat < 128
  · have hsame := lowerChar_ascii c.toNat hascii
    rw [Char.ofNat_toNat] at hsame
    rw [hsame]
  · obtain ⟨-, hlast, -⟩ := toNat_keywordLetters hd
    have hself : c.toLower = c := by
      unfold Char.toLower
      rw [dif_neg]
      simp [UInt32.le_iff_toNat_le]
      omega
    constructor
    · rintro rfl
      exact absurd hd (lowerChar_not_mem (by omega))
    · rintro rfl
      rw [hself] at hlast
      omega

/-- So it is with the lower-case form of a text, whose two exceptions lead beyond ASCII. -/
theorem lowerAfter_eq_iff {word : List Char} (hword : ∀ d ∈ word, d ∈ keywordLetters)
    (before cs : List Char) : lowerAfter before cs = word ↔ cs.map Char.toLower = word := by
  -- the induction follows the scan, whose two exceptions give no letter of a keyword
  fun_induction lowerAfter before cs generalizing word with
  | case1 => simp
  | case2 before rest ih =>
    cases word with
    | nil => simp
    | cons d word =>
      obtain ⟨hcapital, hsmall, hfinal, -, -⟩ := exceptions_apart (hword d List.mem_cons_self)
      split <;> simp [hcapital, hsmall, hfinal]
  | case3 before rest ih =>
    cases word with
    | nil => simp
    | cons d word =>
      obtain ⟨-, -, -, hdotted, -⟩ := exceptions_apart (hword d List.mem_cons_self)
      have hdot : ∀ tail, '\u0307' :: tail ≠ word := by
        rintro tail rfl
        obtain ⟨-, -, -, -, hdot⟩ := exceptions_apart (hword '\u0307' (by simp))
        exact hdot rfl
      simp [hdotted, hdot]
  | case4 before c rest hsigma hdotted ih =>
    cases word with
    | nil => simp
    | cons d word =>
      rw [List.forall_mem_cons] at hword
      simp [lowerChar_eq_iff hword.1, ih hword.2]

/-- A text of these letters is had as a lower-case form exactly where it is had in ASCII. -/
theorem lower_eq_iff {word : String} (hword : ∀ d ∈ word.toList, d ∈ keywordLetters)
    (text : String) : lower text = word ↔ lowerAscii text = word := by
  have hlower := lowerAfter_eq_iff hword [] text.toList
  rw [← String.toList_inj, ← String.toList_inj, lower, lowerAscii, String.toList_ofList,
    String.toList_ofList, hlower]

/-- The letters of a keyword are letters of keywords. -/
theorem letters_of_keyword {word : String} {kind : TokenKind} (h : (word, kind) ∈ keywords) :
    ∀ d ∈ word.toList, d ∈ keywordLetters := by
  have hall : keywords.all (fun entry => entry.1.toList.all fun d => d ∈ keywordLetters) := by
    decide +kernel
  intro d hd
  have hletters := List.all_eq_true.1 hall _ h
  simpa using List.all_eq_true.1 hletters d hd

/-- **A text has the class of a keyword** if its lower-case form is that keyword. -/
theorem lookup_eq_some_iff {text : String} {kind : TokenKind} :
    keywords.lookup (lowerAscii text) = some kind ↔ (lower text, kind) ∈ keywords := by
  have hsame : ∀ word, (word, kind) ∈ keywords → (lower text = word ↔ lowerAscii text = word) :=
    fun _ hword => lower_eq_iff (letters_of_keyword hword) text
  have hlookup : keywords.all (fun entry => keywords.lookup entry.1 == some entry.2) := by
    decide +kernel
  constructor
  · intro hfound
    obtain ⟨before, after, hentry, -⟩ := List.lookup_eq_some_iff.1 hfound
    have hmem : (lowerAscii text, kind) ∈ keywords := by
      rw [hentry]
      simp
    rwa [(hsame _ hmem).2 rfl]
  · intro hmem
    have hfound := List.all_eq_true.1 hlookup _ hmem
    rw [(hsame _ hmem).1 rfl]
    simpa using hfound

/-- An identifier is no keyword. -/
theorem identifier_not_mem (word : String) : (word, TokenKind.identifier) ∉ keywords := by
  intro hmem
  have hkind : TokenKind.identifier ∈ keywords.map Prod.snd := List.mem_map_of_mem hmem
  exact absurd hkind (by decide)

/-- **The class of a word** is that of a keyword exactly if its lower-case form is one and the token
before is no access operator. -/
theorem mem_keywords_wordKind_iff (previous : Option Token) (text : String) :
    (lower text, wordKind previous text) ∈ keywords
      ↔ (∃ kind, (lower text, kind) ∈ keywords) ∧ previous.any Token.isMemberAccess = false := by
  unfold wordKind
  by_cases hmember : previous.any Token.isMemberAccess = true
  · simp [hmember, identifier_not_mem]
  · rw [Bool.not_eq_true] at hmember
    cases hlookup : keywords.lookup (lowerAscii text) with
    | none =>
      have hno : ∀ kind, (lower text, kind) ∉ keywords := by
        intro kind hmem
        rw [lookup_eq_some_iff.2 hmem] at hlookup
        cases hlookup
      simp [hmember, hno]
    | some kind =>
      have hmem := lookup_eq_some_iff.1 hlookup
      simp only [hmember, Bool.false_eq_true, if_false, Option.getD_some, and_true]
      exact ⟨fun h => ⟨kind, h⟩, fun _ => hmem⟩

/-- Otherwise it is that of an identifier. -/
theorem wordKind_eq_identifier {previous : Option Token} {text : String}
    (h : (lower text, wordKind previous text) ∉ keywords) :
    wordKind previous text = .identifier := by
  unfold wordKind at h ⊢
  by_cases hmember : previous.any Token.isMemberAccess = true
  · simp [hmember]
  · cases hlookup : keywords.lookup (lowerAscii text) with
    | none => simp
    | some kind =>
      have hmem := lookup_eq_some_iff.1 hlookup
      simp [hmember, hlookup, hmem] at h

/-! ## The last significant token -/

/-- **The last significant token:** the nearest of the tokens before that is neither layout nor
comment. -/
def lastSignificant (before : List Token) : Option Token :=
  before.reverse.find? fun t => !t.kind.isTrivia

theorem lastSignificant_concat (before : List Token) (t : Token) :
    lastSignificant (before ++ [t])
      = if t.kind.isTrivia then lastSignificant before else some t := by
  unfold lastSignificant
  rw [List.reverse_append, List.reverse_singleton, List.singleton_append, List.find?_cons]
  cases t.kind.isTrivia <;> rfl

/-- **A member is named** behind the tokens: the last significant one is an access operator. -/
def NamesMember (before : List Token) : Prop :=
  ∃ p, lastSignificant before = some p ∧ p.kind = .operator
    ∧ (p.text = "->" ∨ p.text = "?->" ∨ p.text = "::")

theorem namesMember_iff {before : List Token} :
    (lastSignificant before).any Token.isMemberAccess = true ↔ NamesMember before := by
  simp [NamesMember, Token.isMemberAccess, Option.any_eq_true, or_assoc]

namespace Reading

/-- What is remembered behind a token. -/
theorem previous_after (r : Reading) (t : Token) :
    (r.after t).previous
      = if t.kind = .openTag then none
        else if t.kind = .closeTag ∨ t.kind = .inlineHtml ∨ t.kind.isTrivia = true then r.previous
        else some t := by
  unfold after
  split
  next h => simp [h]
  next h => simp [h]
  next h => simp [h]
  next hopen hclose htext =>
    rw [if_neg hopen]
    have hinside : ¬ (t.kind = .closeTag ∨ t.kind = .inlineHtml) := not_or.2 ⟨hclose, htext⟩
    simp [← or_assoc, hinside]

/-- **What is remembered in code** decides as the last significant token does. -/
theorem previous_of_code {cs : List Char} {before later : List Token}
    (htokens : ({} : Reading).tokens cs = before ++ later)
    (hcode : (({} : Reading).afterAll before).region = .code) :
    (({} : Reading).afterAll before).previous.any Token.isMemberAccess
      = (lastSignificant before).any Token.isMemberAccess := by
  induction before using List.reverseRecOn generalizing later with
  | nil => cases hcode
  | append_singleton before t ih =>
    rw [List.append_assoc, List.singleton_append] at htokens
    obtain ⟨c, rest, -, htoken, -⟩ := read_at htokens
    have hbefore := ih htokens
    rw [afterAll_concat, region_after] at hcode
    rw [afterAll_concat, previous_after, lastSignificant_concat]
    by_cases hopen : t.kind = .openTag
    -- a region begins: nothing is remembered, and the tag is no operator
    · simp [hopen, TokenKind.isTrivia, Token.isMemberAccess]
    rw [if_neg hopen] at hcode ⊢
    by_cases hclose : t.kind = .closeTag
    · rw [if_pos hclose] at hcode
      cases hcode
    rw [if_neg hclose] at hcode
    have htext : t.kind ≠ .inlineHtml := by
      intro htext
      have houtside : t.kind.isOutside = true := by rw [htext]; rfl
      rw [htoken, isOutside_token_iff, hcode] at houtside
      cases houtside
    -- inside a region the two go along
    by_cases htrivia : t.kind.isTrivia = true
    · simp [htrivia, hbefore hcode]
    · simp [htrivia, hclose, htext]

end Reading

/-- **Which words are keywords.** A token of a file that is read as a word has the class of the keyword
that its lower-case form is, exactly if it is one and does not name a member, that is, the last token
before it that is neither layout nor comment is no access operator. Otherwise it is an identifier. And
no other token has the class of a keyword. -/
theorem word_class_exact (source : String) {earlier later : List Token} {token : Token}
    (htokens : (TokenStream.ofSource source).tokens.toList = earlier ++ token :: later) :
    (ReadAsWord earlier token →
        ((lower token.text, token.kind) ∈ keywords
          ↔ (∃ kind, (lower token.text, kind) ∈ keywords) ∧ ¬ NamesMember earlier)
        ∧ ((lower token.text, token.kind) ∉ keywords → token.kind = .identifier))
      ∧ (token.kind ∈ keywords.map Prod.snd → ReadAsWord earlier token) := by
  rw [TokenStream.toList_ofSource] at htokens
  obtain ⟨c, rest, -, htoken, -⟩ := Reading.read_at htokens
  constructor
  · intro hword
    rw [htoken, readAsWord_token_iff] at hword
    obtain ⟨hcode, hname⟩ := hword
    -- the class is decided by the token remembered, and so by the last significant one
    have hprevious := Reading.previous_of_code htokens hcode
    have hkind : token.kind = wordKind (({} : Reading).afterAll earlier).previous token.text := by
      rw [htoken, Reading.token_of_word hcode hname]
    rw [hkind, mem_keywords_wordKind_iff, hprevious, ← namesMember_iff, Bool.not_eq_true]
    refine ⟨Iff.rfl, ?_⟩
    intro hno
    apply wordKind_eq_identifier
    rwa [mem_keywords_wordKind_iff, hprevious]
  · intro hkeyword
    -- a class of keywords is none of text, and in code no sign has it
    have hinside : ∀ kind ∈ keywords.map Prod.snd, kind.isOutside = false := by decide
    have houtside := hinside _ hkeyword
    have hkind : token.kind ∈ wordKinds := List.mem_cons_of_mem _ hkeyword
    rw [htoken] at houtside hkind ⊢
    have hcode := Reading.code_of_kind houtside
    exact readAsWord_token_iff.2 ⟨hcode, Reading.isNameStart_of_kind hcode hkind⟩

/-- Behind an access operator and a comment the word `class` is an identifier, although it is the
lower-case form of `CLASS`, and the next one is a keyword. -/
theorem word_class_exact_of_member :
    let tokens := (TokenStream.ofSource "<?php $a->/**/CLASS class").tokens.toList
    let earlier : List Token := [⟨.openTag, "<?php ", 1⟩, ⟨.variableName, "$a", 1⟩,
      ⟨.operator, "->", 1⟩, ⟨.comment, "/**/", 1⟩]
    let member : Token := ⟨.identifier, "CLASS", 1⟩
    let keyword : Token := ⟨.classWord, "class", 1⟩
    tokens = earlier ++ member :: [⟨.whitespace, " ", 1⟩, keyword]
      ∧ ReadAsWord earlier member ∧ NamesMember earlier
      ∧ (lower member.text, TokenKind.classWord) ∈ keywords ∧ member.kind = .identifier
      ∧ ReadAsWord (earlier ++ [member, ⟨.whitespace, " ", 1⟩]) keyword := by
  intro tokens earlier member keyword
  have htokens : tokens = earlier ++ member :: [⟨.whitespace, " ", 1⟩, keyword] := by
    decide +kernel
  have hbehind : tokens = (earlier ++ [member, ⟨.whitespace, " ", 1⟩]) ++ keyword :: [] := by
    rw [htokens]
    simp
  have hword : ReadAsWord earlier member := by
    refine ⟨by decide +kernel, 'C', ['L', 'A', 'S', 'S'], by decide, by decide +kernel, ?_⟩
    exact List.all_eq_true.1 (by decide +kernel)
  have hmember : NamesMember earlier :=
    ⟨⟨.operator, "->", 1⟩, by decide +kernel, rfl, Or.inl rfl⟩
  have hlower : (lower member.text, TokenKind.classWord) ∈ keywords := by decide +kernel
  obtain ⟨hkeyword, hidentifier⟩ := (word_class_exact _ htokens).1 hword
  refine ⟨htokens, hword, hmember, hlower, ?_, ?_⟩
  · apply hidentifier
    intro hin
    exact (hkeyword.1 hin).2 hmember
  · exact (word_class_exact _ hbehind).2 (by decide +kernel)

end DocCoverage
