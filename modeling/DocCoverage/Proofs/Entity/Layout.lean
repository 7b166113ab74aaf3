/-
The layout between a doc comment and a member does not matter. The table of modifiers says where white
space may stand, and on tokens in any order that is a condition of its own: two blanks in a row, or a
keyword right behind another, stop the search. In a file neither can be. A run of white space is one
token, and two words never touch, so the words alone decide where the white space is; what remains of
the table is the order of the words.

Of the two halves the one from the table to the words holds for all tokens, since leaving the white
space out goes through products. The other needs the file: behind `static` there is exactly one blank,
which the table asks for, and at most one behind a visibility, for which it has room.
-/
import Mathlib
import DocCoverage.Proofs.Entity.Attachment
import DocCoverage.Proofs.Token.Shape

set_option autoImplicit false

open Computability

namespace DocCoverage

open Text Extent

/-! ## Neighbours in a file -/

/-- **Two classes as they may stand next to each other:** not both are white space and not both are
classes of words. -/
structure Apart (a b : TokenKind) : Prop where
  blank : ¬ (a = .whitespace ∧ b = .whitespace)
  word : ¬ (a ∈ wordKinds ∧ b ∈ wordKinds)

namespace TokenStream

/-- A token of a stream and the next one, as parts of the list of its tokens. -/
theorem exists_split {s : TokenStream} {i : Int} {t u : Token} (ht : s.at? i = some t)
    (hu : s.at? (i + 1) = some u) :
    ∃ before later, s.tokens.toList = before ++ t :: u :: later := by
  have hnonneg := (bounds_of_at? ht).1
  have hnext : (i + 1).toNat = i.toNat + 1 := by omega
  rw [at?, if_pos hnonneg, ← Array.getElem?_toList] at ht
  rw [at?, if_pos (by omega), ← Array.getElem?_toList, hnext] at hu
  obtain ⟨hlt, ht⟩ := List.getElem?_eq_some_iff.1 ht
  obtain ⟨hlt', hu⟩ := List.getElem?_eq_some_iff.1 hu
  refine ⟨s.tokens.toList.take i.toNat, s.tokens.toList.drop (i.toNat + 2), ?_⟩
  rw [← ht, ← hu, ← List.drop_eq_getElem_cons, ← List.drop_eq_getElem_cons, List.take_append_drop]

/-- **Neighbours in a file are apart.** A run of white space, or of the characters of a word, ends
before a character of another class. -/
theorem apart_ofSource {source : String} {i : Int} {a b : TokenKind}
    (ha : (ofSource source).kind? i = some a) (hb : (ofSource source).kind? (i + 1) = some b) :
    Apart a b := by
  obtain ⟨t, ht, rfl⟩ := Option.map_eq_some_iff.1 ha
  obtain ⟨u, hu, rfl⟩ := Option.map_eq_some_iff.1 hb
  obtain ⟨before, later, hsplit⟩ := exists_split ht hu
  rw [toList_ofSource] at hsplit
  obtain ⟨c, rest, d, left, hfirst, hbehind, hsecond⟩ := Reading.read_next hsplit
  constructor
  · rintro ⟨hwhite, hagain⟩
    rw [hfirst] at hwhite
    rw [hsecond] at hagain
    obtain ⟨hcode, hblank⟩ := Reading.blank_of_kind hwhite
    obtain ⟨-, hnext⟩ := Reading.blank_of_kind hagain
    have hrule := Reading.codeToken_blank hblank rest
    have hother := Reading.not_of_behind_run hcode (by rw [hrule]) hbehind
    rw [hnext] at hother
    cases hother
  · rintro ⟨hword, hagain⟩
    have hinside : ∀ kind ∈ wordKinds, kind.isOutside = false := by decide
    rw [hfirst] at hword
    rw [hsecond] at hagain
    have hcode := Reading.code_of_kind (hinside _ hword)
    have hname := Reading.isNameStart_of_kind hcode hword
    have hnext := Reading.isNameStart_of_kind (Reading.code_of_kind (hinside _ hagain)) hagain
    have hrule := Reading.codeToken_word hname rest
    have hother := Reading.not_of_behind_run hcode (by rw [hrule]) hbehind
    rw [isWord_of_isNameStart hnext] at hother
    cases hother

end TokenStream

/-! ## Arrangements -/

/-- The classes without the white space among them. -/
def withoutBlanks (word : List TokenKind) : List TokenKind :=
  word.filter (· ≠ .whitespace)

theorem withoutBlanks_append (u v : List TokenKind) :
    withoutBlanks (u ++ v) = withoutBlanks u ++ withoutBlanks v := List.filter_append ..

theorem withoutBlanks_blank (word : List TokenKind) :
    withoutBlanks (.whitespace :: word) = withoutBlanks word := List.filter_cons_of_neg (by decide)

theorem withoutBlanks_cons {kind : TokenKind} (h : kind ≠ .whitespace) (word : List TokenKind) :
    withoutBlanks (kind :: word) = kind :: withoutBlanks word :=
  List.filter_cons_of_pos (by simpa using h)

open TokenKind in
/-- **The arrangements of modifiers** that a member allows: `static` before or behind the visibility,
or on both sides of it, and each of the three may be missing. -/
def memberArrangements : List (List TokenKind) :=
  [[], [staticWord], [staticWord, staticWord]]
    ++ visibility.flatMap fun v =>
      [[v], [staticWord, v], [v, staticWord], [staticWord, v, staticWord]]

/-- The word `static`, or nothing. -/
def optionalStatic : List (List TokenKind) := [[], [.staticWord]]

/-- A word for the visibility, or nothing. -/
def optionalVisibility : List (List TokenKind) := [] :: TokenKind.visibility.map fun v => [v]

/-- **An arrangement has three parts,** and each of them may be missing. -/
theorem mem_memberArrangements_iff {kinds : List TokenKind} :
    kinds ∈ memberArrangements
      ↔ ∃ first ∈ optionalStatic, ∃ v ∈ optionalVisibility, ∃ last ∈ optionalStatic,
          kinds = first ++ v ++ last := by
  constructor
  · have hall : ∀ kinds ∈ memberArrangements, ∃ first ∈ optionalStatic,
        ∃ v ∈ optionalVisibility, ∃ last ∈ optionalStatic, kinds = first ++ v ++ last := by decide
    exact hall kinds
  · have hall : ∀ first ∈ optionalStatic, ∀ v ∈ optionalVisibility, ∀ last ∈ optionalStatic,
        first ++ v ++ last ∈ memberArrangements := by decide
    rintro ⟨first, hfirst, v, hv, last, hlast, rfl⟩
    exact hall first hfirst v hv last hlast

/-! ## From the table to the arrangements -/

/-- An optional `static` with the blank behind it. -/
def staticWords : Language TokenKind := 1 + {[.staticWord, .whitespace]}

/-- An optional blank. -/
def blankWords : Language TokenKind := 1 + {[.whitespace]}

/-- An optional word for the visibility. -/
def visibilityWords : Language TokenKind :=
  1 + {[.publicWord], [.privateWord], [.protectedWord]}

theorem memberModifierWords_eq :
    memberModifierWords
      = staticWords * blankWords * visibilityWords * blankWords * staticWords := rfl

section Parts

variable {word : List TokenKind}

theorem withoutBlanks_staticWords (h : word ∈ staticWords) :
    withoutBlanks word ∈ optionalStatic := by
  rcases h with rfl | rfl <;> decide

theorem withoutBlanks_blankWords (h : word ∈ blankWords) : withoutBlanks word = [] := by
  rcases h with rfl | rfl <;> rfl

theorem withoutBlanks_visibilityWords (h : word ∈ visibilityWords) :
    withoutBlanks word ∈ optionalVisibility := by
  rcases h with rfl | rfl | rfl | rfl <;> decide

/-- Of a run of white space nothing is left. -/
theorem withoutBlanks_run (h : word ∈ ({[.whitespace]} : Language TokenKind)∗) :
    withoutBlanks word = [] := by
  obtain ⟨pieces, rfl, hpieces⟩ := Language.mem_kstar.1 h
  refine List.filter_eq_nil_iff.2 fun kind hkind => ?_
  obtain ⟨piece, hpiece, hmem⟩ := List.mem_flatten.1 hkind
  rw [hpieces piece hpiece, List.mem_singleton] at hmem
  simp [hmem]

/-- **What the table allows is an arrangement,** once the white space is left out. -/
theorem arrangement_of_modifiers
    (h : word ∈ ({[.whitespace]} : Language TokenKind)∗ * memberModifierWords) :
    withoutBlanks word ∈ memberArrangements := by
  rw [memberModifierWords_eq] at h
  obtain ⟨run, hrun, _, hmodifiers, rfl⟩ := Language.mem_mul.1 h
  obtain ⟨_, hfour, last, hlast, rfl⟩ := Language.mem_mul.1 hmodifiers
  obtain ⟨_, hthree, blank', hblank', rfl⟩ := Language.mem_mul.1 hfour
  obtain ⟨_, htwo, v, hv, rfl⟩ := Language.mem_mul.1 hthree
  obtain ⟨first, hfirst, blank, hblank, rfl⟩ := Language.mem_mul.1 htwo
  simp only [withoutBlanks_append, withoutBlanks_run hrun, withoutBlanks_blankWords hblank,
    withoutBlanks_blankWords hblank', List.nil_append, List.append_nil]
  exact mem_memberArrangements_iff.2 ⟨_, withoutBlanks_staticWords hfirst, _,
    withoutBlanks_visibilityWords hv, _, withoutBlanks_staticWords hlast, rfl⟩

end Parts

/-! ## From the arrangements to the table -/

/-- **Classes as they are laid out in a file** before a member: neighbours are apart, and the member
does not touch the word `static`. -/
structure LaidOut (word : List TokenKind) : Prop where
  apart : word.IsChain Apart
  last : word.getLast? ≠ some .staticWord

/-- What comes behind the first of them is laid out too. -/
theorem LaidOut.tail {kind : TokenKind} {word : List TokenKind} (h : LaidOut (kind :: word)) :
    LaidOut word where
  apart := h.apart.tail
  last hlast := by
    apply h.last
    cases word with
    | nil => cases hlast
    | cons next rest => rwa [List.getLast?_cons_cons]

/-- The words of such classes that are an arrangement when the white space is left out, and do not
begin with it. -/
def laidOutAs (kinds : List TokenKind) : Language TokenKind :=
  {word | LaidOut word ∧ word.head? ≠ some .whitespace ∧ withoutBlanks word = kinds}

section LaidOutAs

variable {kinds word : List TokenKind} {kind : TokenKind}

/-- Without a modifier there is nothing at all. -/
theorem laidOutAs_nil_le : laidOutAs [] ≤ 1 := by
  rintro word ⟨-, hhead, hnone⟩
  cases word with
  | nil => rfl
  | cons kind rest =>
    have hkind : kind ≠ .whitespace := fun hblank => hhead (by rw [hblank]; rfl)
    rw [withoutBlanks_cons hkind] at hnone
    cases hnone

/-- The first modifier stands at the front, and behind it there is one blank or none. -/
theorem exists_rest (h : word ∈ laidOutAs (kind :: kinds)) :
    (∃ rest ∈ laidOutAs kinds, word = kind :: .whitespace :: rest)
      ∨ ∃ rest ∈ laidOutAs kinds, word = kind :: rest := by
  obtain ⟨hlaid, hhead, hkinds⟩ := h
  cases word with
  | nil => cases hkinds
  | cons first rest =>
    have hfirst : first ≠ .whitespace := fun hblank => hhead (by rw [hblank]; rfl)
    rw [withoutBlanks_cons hfirst] at hkinds
    obtain ⟨rfl, hrest⟩ := List.cons.inj hkinds
    cases rest with
    | nil => exact Or.inr ⟨[], ⟨hlaid.tail, nofun, hrest⟩, rfl⟩
    | cons second later =>
      by_cases hblank : second = .whitespace
      · subst hblank
        refine Or.inl ⟨later, ⟨hlaid.tail.tail, fun hagain => ?_, ?_⟩, rfl⟩
        -- one blank is all there is
        · cases later with
          | nil => cases hagain
          | cons third last =>
            have hapart := (List.isChain_cons_cons.1 hlaid.tail.apart).1
            exact hapart.blank ⟨rfl, Option.some.inj hagain⟩
        · rwa [withoutBlanks_blank] at hrest
      · exact Or.inr ⟨second :: later, ⟨hlaid.tail, fun h => hblank (Option.some.inj h), hrest⟩, rfl⟩

/-- **Behind `static` there is a blank,** since neither the next modifier nor the member touches it. -/
theorem laidOutAs_static_le (hwords : ∀ kind ∈ kinds, kind ∈ wordKinds) :
    laidOutAs (.staticWord :: kinds) ≤ {[.staticWord, .whitespace]} * laidOutAs kinds := by
  intro word hword
  have hlaid : LaidOut word := hword.1
  rcases exists_rest hword with ⟨rest, hrest, rfl⟩ | ⟨rest, hrest, rfl⟩
  · exact Language.mem_mul.2 ⟨_, rfl, rest, hrest, rfl⟩
  · exfalso
    obtain ⟨-, hhead, hkinds⟩ := hrest
    cases rest with
    | nil => exact hlaid.last rfl
    | cons next later =>
      have hnext : next ≠ .whitespace := fun hblank => hhead (by rw [hblank]; rfl)
      rw [withoutBlanks_cons hnext] at hkinds
      have happart := (List.isChain_cons_cons.1 hlaid.apart).1
      exact happart.word ⟨by decide, hwords next (hkinds ▸ List.mem_cons_self)⟩

/-- **Behind any modifier** there is at most one blank. -/
theorem laidOutAs_cons_le : laidOutAs (kind :: kinds) ≤ {[kind]} * blankWords * laidOutAs kinds := by
  intro word hword
  have hletter : [kind] ∈ ({[kind]} : Language TokenKind) := rfl
  have hblank : [.whitespace] ∈ blankWords := Or.inr rfl
  have hnone : [] ∈ blankWords := Or.inl rfl
  rcases exists_rest hword with ⟨rest, hrest, rfl⟩ | ⟨rest, hrest, rfl⟩
  · exact Language.append_mem_mul (Language.append_mem_mul hletter hblank) hrest
  · exact Language.append_mem_mul (Language.append_mem_mul hletter hnone) hrest

/-- An optional `static` is read by its part of the table. -/
theorem laidOutAs_optionalStatic_le {first : List TokenKind} (hfirst : first ∈ optionalStatic)
    (hwords : ∀ kind ∈ kinds, kind ∈ wordKinds) :
    laidOutAs (first ++ kinds) ≤ staticWords * laidOutAs kinds := by
  simp only [optionalStatic, List.mem_cons, List.not_mem_nil, or_false] at hfirst
  rcases hfirst with rfl | rfl
  · exact le_mul_of_one_le_left' le_self_add
  · exact (laidOutAs_static_le hwords).trans (mul_le_mul_left le_add_self _)

/-- An optional visibility is read by its part, with the blank behind it. -/
theorem laidOutAs_optionalVisibility_le {v : List TokenKind} (hv : v ∈ optionalVisibility) :
    laidOutAs (v ++ kinds) ≤ visibilityWords * blankWords * laidOutAs kinds := by
  have hletter : ∀ kind ∈ TokenKind.visibility, ({[kind]} : Language TokenKind) ≤ visibilityWords := by
    rintro kind hkind word rfl
    right
    rw [← visibility_words]
    exact ⟨kind, hkind, rfl⟩
  rcases List.mem_cons.1 hv with rfl | hv
  · exact le_mul_of_one_le_left' (one_le_mul le_self_add le_self_add)
  · obtain ⟨kind, hkind, rfl⟩ := List.mem_map.1 hv
    exact laidOutAs_cons_le.trans (mul_le_mul_left (mul_le_mul_left (hletter kind hkind) _) _)

/-- **An arrangement that is laid out as in a file** is allowed by the table. -/
theorem laidOutAs_le (h : kinds ∈ memberArrangements) : laidOutAs kinds ≤ memberModifierWords := by
  have hwords : ∀ kinds ∈ memberArrangements, ∀ kind ∈ kinds, kind ∈ wordKinds := by decide
  have hall := hwords kinds h
  obtain ⟨first, hfirst, v, hv, last, hlast, rfl⟩ := mem_memberArrangements_iff.1 h
  rw [List.append_assoc] at hall ⊢
  have hlater : laidOutAs last ≤ staticWords := by
    rw [← List.append_nil last]
    refine (laidOutAs_optionalStatic_le hlast (by simp)).trans ?_
    exact mul_le_of_le_one_right' laidOutAs_nil_le
  calc laidOutAs (first ++ (v ++ last))
    _ ≤ staticWords * laidOutAs (v ++ last) := by
      refine laidOutAs_optionalStatic_le hfirst fun kind hkind => ?_
      exact hall kind (List.mem_append.2 (Or.inr hkind))
    _ ≤ staticWords * (visibilityWords * blankWords * staticWords) := by
      refine mul_le_mul_right ?_ _
      exact (laidOutAs_optionalVisibility_le hv).trans (mul_le_mul_right hlater _)
    _ ≤ staticWords * blankWords * (visibilityWords * blankWords * staticWords) := by
      exact mul_le_mul_left (le_mul_of_one_le_right' le_self_add) _
    _ = memberModifierWords := by
      rw [memberModifierWords_eq]
      simp only [mul_assoc]

end LaidOutAs

/-- **On what is laid out as in a file** the table allows the arrangements and nothing else. -/
theorem LaidOut.mem_modifiers_iff {word : List TokenKind} (h : LaidOut word) :
    word ∈ ({[.whitespace]} : Language TokenKind)∗ * memberModifierWords
      ↔ withoutBlanks word ∈ memberArrangements := by
  refine ⟨arrangement_of_modifiers, fun harrangement => ?_⟩
  have hfront : ∀ {word}, word ∈ memberModifierWords →
      word ∈ ({[.whitespace]} : Language TokenKind)∗ * memberModifierWords :=
    fun hword => Language.append_mem_mul (Language.nil_mem_kstar _) hword
  induction word with
  | nil => exact hfront (laidOutAs_le harrangement ⟨h, nofun, rfl⟩)
  | cons kind rest ih =>
    by_cases hblank : kind = .whitespace
    -- the white space right behind the comment is passed over
    · subst hblank
      rw [withoutBlanks_blank] at harrangement
      have hone : [.whitespace] ∈ ({[.whitespace]} : Language TokenKind) := rfl
      have hruns : ({[.whitespace]} : Language TokenKind) * {[.whitespace]}∗ ≤ {[.whitespace]}∗ :=
        mul_kstar_le_kstar
      have hrest := Language.append_mem_mul hone (ih h.tail harrangement)
      rw [← mul_assoc] at hrest
      exact mul_le_mul_left hruns memberModifierWords hrest
    · exact hfront
        (laidOutAs_le harrangement ⟨h, fun hhead => hblank (Option.some.inj hhead), rfl⟩)

/-! ## In a file -/

namespace TokenStream

variable {s : TokenStream} {first last : Int} {word : List TokenKind}

/-- The classes between two positions, without the white space. -/
def significantBetween (s : TokenStream) (first last : Int) : List TokenKind :=
  withoutBlanks (s.kindsBetween first last).reduceOption

theorem significantBetween_of_spells (h : s.Spells first last word) :
    s.significantBetween first last = withoutBlanks word := by
  have hword : (word.map some).reduceOption = word := by simp [List.reduceOption]
  rw [significantBetween, h.2, hword]

/-- Between two positions of a stream there is a word. -/
theorem exists_spells (hfirst : 0 ≤ first) (hle : first ≤ last) (hlast : last ≤ s.size) :
    ∃ word, s.Spells first last word := by
  obtain ⟨n, hn⟩ : ∃ n : Nat, last = first + n := ⟨(last - first).toNat, by omega⟩
  induction n generalizing first with
  | zero => exact ⟨[], spells_nil.2 (by omega)⟩
  | succ n ih =>
    have hin : first.toNat < s.tokens.size := by
      unfold size at hlast
      omega
    have hkind : s.kind? first = some s.tokens[first.toNat].kind := by
      rw [kind?, at?, if_pos hfirst, Array.getElem?_eq_getElem hin, Option.map_some]
    obtain ⟨word, hword⟩ := @ih (first + 1) (by omega) (by omega) (by omega)
    exact ⟨_, spells_cons.2 ⟨hkind, hword⟩⟩

/-- **The nearest doc comment** before a place. -/
structure NearestDoc (s : TokenStream) (place doc : Int) : Prop where
  before : doc < place
  kind : s.kind? doc = some .docComment
  nearest : ∀ j, doc < j → j < place → s.kind? j ≠ some .docComment

/-- There is one nearest doc comment at most. -/
theorem NearestDoc.unique {place doc doc' : Int} (h : s.NearestDoc place doc)
    (h' : s.NearestDoc place doc') : doc = doc' := by
  rcases Int.lt_trichotomy doc doc' with hlt | heq | hgt
  · exact absurd h'.kind (h.nearest doc' hlt h'.before)
  · exact heq
  · exact absurd h.kind (h'.nearest doc hgt h.before)

/-- The classes between two positions of a file are a chain of neighbours. -/
theorem isChain_of_spells {source : String} (h : (ofSource source).Spells first last word) :
    word.IsChain Apart := by
  induction word generalizing first with
  | nil => exact .nil
  | cons kind rest ih =>
    obtain ⟨hkind, hrest⟩ := spells_cons.1 h
    cases rest with
    | nil => exact .singleton kind
    | cons next later =>
      have hnext := (spells_cons.1 hrest).1
      exact List.isChain_cons_cons.2 ⟨apart_ofSource hkind hnext, ih hrest⟩

end TokenStream

/-- **The anchor of a member:** the keyword of a function, or the name of a variable that does not
stand right behind the word `static`. -/
def Declaration.MemberAt (stream : TokenStream) (anchor : Int) : Declaration → Prop
  | .function => stream.kind? anchor = some .functionWord
  | .classVariable =>
    stream.kind? anchor = some .variableName ∧ stream.kind? (anchor - 1) ≠ some .staticWord
  | .classDecl | .interfaceDecl | .classConstant | .constant => False

section Member

variable {source : String} {declaration : Declaration} {anchor : Int}

/-- Members have the modifiers of members. -/
theorem modifierWords_of_memberAt {stream : TokenStream} (h : declaration.MemberAt stream anchor) :
    declaration.modifierWords = memberModifierWords := by
  cases declaration with
  | function | classVariable => rfl
  | classDecl | interfaceDecl | classConstant | constant => exact absurd h id

/-- What stands before a member in a file is laid out. -/
theorem laidOut_of_spells (h : declaration.MemberAt (.ofSource source) anchor) {first : Int}
    {word : List TokenKind} (hspells : (TokenStream.ofSource source).Spells first anchor word) :
    LaidOut word where
  apart := TokenStream.isChain_of_spells hspells
  last hstatic := by
    obtain ⟨front, rfl⟩ := List.getLast?_eq_some_iff.1 hstatic
    obtain ⟨_, -, hlast⟩ := TokenStream.spells_append.1 hspells
    have hbefore := (TokenStream.spells_singleton.1 hlast).2
    cases declaration with
    | function =>
      have hkeyword : (TokenStream.ofSource source).kind? (anchor - 1 + 1) = some .functionWord := by
        rw [Int.sub_add_cancel]
        exact h
      exact (TokenStream.apart_ofSource hbefore hkeyword).word ⟨by decide, by decide⟩
    | classVariable => exact h.2 hbefore
    | classDecl | interfaceDecl | classConstant | constant => exact h

/-- **Attached to a member** is the nearest doc comment, with an arrangement of modifiers behind it. -/
theorem attached_member_iff (h : declaration.MemberAt (.ofSource source) anchor) {doc : Int} :
    Attached declaration (.ofSource source) anchor doc
      ↔ (TokenStream.ofSource source).NearestDoc anchor doc
        ∧ (TokenStream.ofSource source).significantBetween (doc + 1) anchor ∈ memberArrangements := by
  constructor
  · intro hattached
    have hnearest : (TokenStream.ofSource source).NearestDoc anchor doc :=
      ⟨hattached.1, hattached.2.1, fun j => kind_ne_docComment_of_attached hattached⟩
    obtain ⟨-, -, word, hword, hspells⟩ := hattached
    rw [modifierWords_of_memberAt h] at hword
    rw [TokenStream.significantBetween_of_spells hspells]
    exact ⟨hnearest, arrangement_of_modifiers hword⟩
  · rintro ⟨hnearest, harrangement⟩
    have hdoc := TokenStream.bounds_of_kind? hnearest.kind
    have hanchor : anchor ≤ (TokenStream.ofSource source).size := by
      obtain ⟨kind, hkind⟩ : ∃ kind, (TokenStream.ofSource source).kind? anchor = some kind := by
        cases declaration with
        | function => exact ⟨_, h⟩
        | classVariable => exact ⟨_, h.1⟩
        | classDecl | interfaceDecl | classConstant | constant => exact absurd h id
      have hbounds := TokenStream.bounds_of_kind? hkind
      omega
    have hbefore := hnearest.before
    have hfrom : 0 ≤ doc + 1 := by omega
    obtain ⟨word, hspells⟩ := TokenStream.exists_spells hfrom (by omega) hanchor
    rw [TokenStream.significantBetween_of_spells hspells] at harrangement
    refine ⟨hbefore, hnearest.kind, word, ?_, hspells⟩
    rw [modifierWords_of_memberAt h]
    exact (laidOut_of_spells h hspells).mem_modifiers_iff.2 harrangement

end Member

/-- **The layout does not matter for a member.** In every file, at the keyword of a function and at
the name of a variable that does not stand right behind `static`, the search finds a doc comment
exactly if there is one before and the classes between the nearest one and the anchor, white space
left out, are an arrangement of modifiers. And it finds no other one than the nearest. -/
theorem member_attached_in_any_layout (source : String) (declaration : Declaration) (anchor : Int)
    (h : declaration.MemberAt (.ofSource source) anchor) :
    let stream := TokenStream.ofSource source
    ((docComment? declaration stream anchor).isSome = true
        ↔ ∃ doc, stream.NearestDoc anchor doc
          ∧ stream.significantBetween (doc + 1) anchor ∈ memberArrangements)
      ∧ ∀ doc, docComment? declaration stream anchor = some doc → stream.NearestDoc anchor doc := by
  intro stream
  have hfound : ∀ doc, docComment? declaration stream anchor = some doc
      ↔ stream.NearestDoc anchor doc
        ∧ stream.significantBetween (doc + 1) anchor ∈ memberArrangements := by
    intro doc
    rw [← attached_member_iff h]
    exact ⟨attached_of_docComment?, docComment?_of_attached⟩
  refine ⟨?_, fun doc hdoc => ((hfound doc).1 hdoc).1⟩
  rw [Option.isSome_iff_exists]
  exact exists_congr hfound

/-- With a line end behind `static` and no blank before the variable the comment is found, and two
visibilities are no arrangement. -/
theorem member_attached_in_any_layout_of_two :
    let stream := TokenStream.ofSource "<?php /** */static\n public$x;/** */public private $y;"
    Declaration.classVariable.MemberAt stream 5 ∧ Declaration.classVariable.MemberAt stream 12
      ∧ stream.NearestDoc 5 1 ∧ stream.NearestDoc 12 7
      ∧ (docComment? .classVariable stream 5).isSome = true
      ∧ (docComment? .classVariable stream 12).isSome = false := by
  intro stream
  have hstream : stream = ⟨#[⟨.openTag, "<?php ", 1⟩, ⟨.docComment, "/** */", 1⟩,
      ⟨.staticWord, "static", 1⟩, ⟨.whitespace, "\n ", 1⟩, ⟨.publicWord, "public", 2⟩,
      ⟨.variableName, "$x", 2⟩, ⟨.semicolon, ";", 2⟩, ⟨.docComment, "/** */", 2⟩,
      ⟨.publicWord, "public", 2⟩, ⟨.whitespace, " ", 2⟩, ⟨.privateWord, "private", 2⟩,
      ⟨.whitespace, " ", 2⟩, ⟨.variableName, "$y", 2⟩, ⟨.semicolon, ";", 2⟩]⟩ := by decide +kernel
  have hfirst : Declaration.classVariable.MemberAt stream 5 := by
    rw [hstream]
    exact ⟨by decide, by decide⟩
  have hsecond : Declaration.classVariable.MemberAt stream 12 := by
    rw [hstream]
    exact ⟨by decide, by decide⟩
  have hdoc : stream.NearestDoc 5 1 := by
    rw [hstream]
    refine ⟨by decide, by decide, fun j hfrom hto => ?_⟩
    interval_cases j <;> decide
  have hdoc' : stream.NearestDoc 12 7 := by
    rw [hstream]
    refine ⟨by decide, by decide, fun j hfrom hto => ?_⟩
    interval_cases j <;> decide
  have harranged : stream.significantBetween (1 + 1) 5 ∈ memberArrangements := by
    rw [hstream]
    decide +kernel
  have hnone : stream.significantBetween (7 + 1) 12 ∉ memberArrangements := by
    rw [hstream]
    decide +kernel
  refine ⟨hfirst, hsecond, hdoc, hdoc', ?_, ?_⟩
  · exact (member_attached_in_any_layout _ _ 5 hfirst).1.2 ⟨1, hdoc, harranged⟩
  · rw [← Bool.not_eq_true, (member_attached_in_any_layout _ _ 12 hsecond).1]
    rintro ⟨doc, hnearest, harrangement⟩
    rw [hnearest.unique hdoc'] at harrangement
    exact hnone harrangement

end DocCoverage
