/-
Attachment is exact: a declaration's doc comment is the one that the table of modifiers allows, if
there is one, and it does not matter in which order the ways to read the modifiers are tried.

The table is restated as a language for each kind of declaration, and a doc comment is *attached*
to an anchor if what stands between the two is white space followed by a word of that language. The
search finds a comment exactly if it is attached. The one half is that every position the pattern
reaches is read by its language; the other needs that all of them are listed, since the first one is
often wrong: before `static public function` the optional blank next to the keyword takes the blank
that belongs to the word `static`.

No word of the table contains a doc comment. An attached comment therefore is the nearest one before
the anchor, so there is at most one, and whichever position leads to a comment leads to that one.
-/
import DocCoverage.Entity.Attachment
import DocCoverage.Proofs.Pattern.Language

set_option autoImplicit false

open Computability

namespace DocCoverage

/-! ## The table -/

/-- The modifiers of a function, a method or a property: `static` before or behind the visibility,
with the blanks between. -/
def memberModifierWords : Language TokenKind :=
  (1 + {[.staticWord, .whitespace]}) * (1 + {[.whitespace]})
    * (1 + {[.publicWord], [.privateWord], [.protectedWord]}) * (1 + {[.whitespace]})
    * (1 + {[.staticWord, .whitespace]})

/-- **The words of modifiers** that a kind of declaration allows. -/
def Declaration.modifierWords : Declaration → Language TokenKind
  | .classDecl => 1 + {[.abstractWord, .whitespace]}
  | .function => memberModifierWords
  | .classVariable => memberModifierWords
  | .interfaceDecl | .classConstant | .constant => 1

/-- **The token at `i` is the doc comment attached to the anchor:** it stands before the anchor, and
between the two there is white space and then a word of modifiers. -/
def Attached (declaration : Declaration) (s : TokenStream) (anchor i : Int) : Prop :=
  i < anchor ∧ s.kind? i = some .docComment
    ∧ ∃ word ∈ ({[.whitespace]} : Language TokenKind)∗ * declaration.modifierWords,
        s.Spells (i + 1) anchor word

/-- Two letters in a row are a word of two letters. -/
theorem letter_mul_letter (a b : TokenKind) :
    ({[a]} : Language TokenKind) * {[b]} = {[a, b]} := by
  ext word
  rw [Language.mem_mul]
  constructor
  · rintro ⟨_, rfl, _, rfl, rfl⟩
    rfl
  · rintro rfl
    exact ⟨[a], rfl, [b], rfl, rfl⟩

/-- The words for the visibility, as a set of words of one letter. -/
theorem visibility_words :
    {word | ∃ kind ∈ TokenKind.visibility, word = [kind]}
      = ({[.publicWord], [.privateWord], [.protectedWord]} : Language TokenKind) := by
  ext word
  constructor
  · rintro ⟨kind, hkind, rfl⟩
    simp only [TokenKind.visibility, List.mem_cons, List.not_mem_nil, or_false] at hkind
    rcases hkind with rfl | rfl | rfl
    · exact Or.inl rfl
    · exact Or.inr (Or.inl rfl)
    · exact Or.inr (Or.inr rfl)
  · rintro (rfl | rfl | rfl) <;> exact ⟨_, by decide, rfl⟩

/-- The pattern of the modifiers of a member stands for their words. -/
theorem language_memberModifiers : memberModifiers.language = memberModifierWords := by
  simp only [memberModifiers, memberModifierWords, Pattern.optionalAll, Pattern.language,
    Pattern.languageAll, mul_one, letter_mul_letter, visibility_words, mul_assoc]

/-- **The pattern of a kind of declaration stands for the words of the table.** -/
theorem language_modifiers (declaration : Declaration) :
    declaration.modifiers.language = declaration.modifierWords := by
  cases declaration with
  | classDecl =>
    simp only [Declaration.modifiers, Declaration.modifierWords, Pattern.optionalAll,
      Pattern.language, Pattern.languageAll, mul_one, letter_mul_letter]
  | interfaceDecl => rfl
  | function => exact language_memberModifiers
  | classVariable => exact language_memberModifiers
  | classConstant => rfl
  | constant => rfl

/-- The patterns of the table are patterns in every node. -/
theorem isKnown_modifiers (declaration : Declaration) :
    declaration.modifiers.isKnown = true := by
  cases declaration <;> rfl

/-! ## The letters of the modifiers -/

/-- What may stand between a doc comment and its declaration: white space and modifiers. -/
def TokenKind.isModifier : TokenKind → Bool
  | .whitespace | .abstractWord | .staticWord | .publicWord | .privateWord | .protectedWord => true
  | _ => false

/-- White space and modifiers, as words of one letter. -/
def modifierLetters : Language TokenKind := {word | ∃ kind, kind.isModifier = true ∧ word = [kind]}

section Letters

variable {l m : Language TokenKind} {kind : TokenKind}

/-- Words in these letters make a word in them. -/
theorem mul_le_modifierLetters (hl : l ≤ modifierLetters∗) (hm : m ≤ modifierLetters∗) :
    l * m ≤ modifierLetters∗ := by
  rw [← kstar_mul_kstar modifierLetters]
  exact mul_le_mul' hl hm

/-- A word in these letters may be left out. -/
theorem optional_le_modifierLetters (hl : l ≤ modifierLetters∗) : 1 + l ≤ modifierLetters∗ :=
  add_le one_le_kstar hl

theorem letter_le_modifierLetters (hkind : kind.isModifier = true) :
    ({[kind]} : Language TokenKind) ≤ modifierLetters∗ := by
  have hletter : ({[kind]} : Language TokenKind) ≤ modifierLetters := by
    rintro word rfl
    exact ⟨kind, hkind, rfl⟩
  exact hletter.trans le_kstar

/-- A modifier and white space are written in these letters. -/
theorem pair_le_modifierLetters (hkind : kind.isModifier = true) :
    ({[kind, .whitespace]} : Language TokenKind) ≤ modifierLetters∗ := by
  rw [← letter_mul_letter]
  exact mul_le_modifierLetters (letter_le_modifierLetters hkind) (letter_le_modifierLetters rfl)

/-- The modifiers of members are written in these letters. -/
theorem memberModifierWords_le_modifierLetters : memberModifierWords ≤ modifierLetters∗ := by
  have hvisibility : ({[.publicWord], [.privateWord], [.protectedWord]} : Language TokenKind)
      ≤ modifierLetters∗ := by
    rintro word (rfl | rfl | rfl)
    · exact letter_le_modifierLetters rfl rfl
    · exact letter_le_modifierLetters rfl rfl
    · exact letter_le_modifierLetters rfl rfl
  have hblank : 1 + ({[.whitespace]} : Language TokenKind) ≤ modifierLetters∗ :=
    optional_le_modifierLetters (letter_le_modifierLetters rfl)
  have hstatic : 1 + ({[.staticWord, .whitespace]} : Language TokenKind) ≤ modifierLetters∗ :=
    optional_le_modifierLetters (pair_le_modifierLetters rfl)
  have hoptional := optional_le_modifierLetters hvisibility
  have hbefore := mul_le_modifierLetters hstatic hblank
  exact mul_le_modifierLetters
    (mul_le_modifierLetters (mul_le_modifierLetters hbefore hoptional) hblank) hstatic

/-- **White space and then a word of modifiers** is written in these letters. -/
theorem modifiers_le_kstar (declaration : Declaration) :
    ({[.whitespace]} : Language TokenKind)∗ * declaration.modifierWords ≤ modifierLetters∗ := by
  have hblanks : ({[.whitespace]} : Language TokenKind)∗ ≤ modifierLetters∗ := by
    rw [← kstar_idem modifierLetters]
    exact kstar_mono (letter_le_modifierLetters rfl)
  refine mul_le_modifierLetters hblanks ?_
  cases declaration with
  | classDecl => exact optional_le_modifierLetters (pair_le_modifierLetters rfl)
  | function | classVariable => exact memberModifierWords_le_modifierLetters
  | interfaceDecl | classConstant | constant => exact one_le_kstar

end Letters

/-- Every letter between a doc comment and its declaration is white space or a modifier. -/
theorem isModifier_of_mem {declaration : Declaration} {word : List TokenKind}
    (hword : word ∈ ({[.whitespace]} : Language TokenKind)∗ * declaration.modifierWords)
    {kind : TokenKind} (hkind : kind ∈ word) : kind.isModifier = true := by
  obtain ⟨letters, rfl, hletters⟩ := Language.mem_kstar.1 (modifiers_le_kstar declaration hword)
  obtain ⟨letter, hletter, hmem⟩ := List.mem_flatten.1 hkind
  obtain ⟨kind', hkind', rfl⟩ := hletters letter hletter
  rw [List.mem_singleton] at hmem
  rw [hmem, hkind']

/-- A language without the letter of a doc comment. -/
def DocFree (l : Language TokenKind) : Prop :=
  ∀ word ∈ l, TokenKind.docComment ∉ word

/-- Neither white space nor any modifier is a doc comment. -/
theorem docFree_modifiers (declaration : Declaration) :
    DocFree (({[.whitespace]} : Language TokenKind)∗ * declaration.modifierWords) := by
  intro word hword hdoc
  have hmodifier := isModifier_of_mem hword hdoc
  exact absurd hmodifier Bool.false_ne_true

/-! ## Where an attached comment is -/

section Attached

variable {declaration : Declaration} {s : TokenStream} {anchor : Int}

/-- Between an attached comment and its anchor there is no other doc comment. -/
theorem kind_ne_docComment_of_attached {i j : Int} (h : Attached declaration s anchor i)
    (hi : i < j) (hj : j < anchor) : s.kind? j ≠ some .docComment := by
  obtain ⟨-, -, word, hword, hspells⟩ := h
  obtain ⟨kind, hkind, hat⟩ := TokenStream.kind_mem_of_spells hspells (by omega : i + 1 ≤ j) hj
  rw [hat]
  intro hdoc
  exact docFree_modifiers declaration word hword (Option.some.inj hdoc ▸ hkind)

/-- **All that stands between an attached comment and its anchor** is white space and modifiers. -/
theorem isModifier_of_attached {i j : Int} (h : Attached declaration s anchor i) (hi : i < j)
    (hj : j < anchor) : ∃ kind, s.kind? j = some kind ∧ kind.isModifier = true := by
  obtain ⟨-, -, word, hword, hspells⟩ := h
  obtain ⟨kind, hkind, hat⟩ := TokenStream.kind_mem_of_spells hspells (by omega : i + 1 ≤ j) hj
  exact ⟨kind, hat, isModifier_of_mem hword hkind⟩

/-- **At most one comment is attached.** Of two, the farther one would have the nearer one between
itself and the anchor. -/
theorem attached_unique {i j : Int} (hi : Attached declaration s anchor i)
    (hj : Attached declaration s anchor j) : i = j := by
  rcases Int.lt_trichotomy i j with hlt | heq | hgt
  · exact absurd hj.2.1 (kind_ne_docComment_of_attached hi hlt hj.1)
  · exact heq
  · exact absurd hi.2.1 (kind_ne_docComment_of_attached hj hgt hi.1)

/-! ## What the search finds -/

/-- Going back over white space stops behind a token of another class that it can reach. -/
theorem skipBlankBackward_eq {i position : Int} (hi : i < position)
    (hother : s.kind? i ≠ some .whitespace)
    (hblank : ∀ j, i < j → j < position → s.kind? j = some .whitespace) :
    s.skipBlankBackward position = i + 1 := by
  induction position using TokenStream.skipBlankBackward.induct s with
  | case1 position hkind ih =>
    -- the token before the position is blank, so it is not the one at `i`
    have hne : i ≠ position - 1 := fun h => hother (h ▸ hkind)
    rw [TokenStream.skipBlankBackward, dif_pos hkind]
    exact ih (by omega) fun j hij hj => hblank j hij (by omega)
  | case2 position hkind =>
    -- and here it is not blank, so no blank is left to pass
    have hlast : ¬ i < position - 1 := fun h => hkind (hblank (position - 1) h (by omega))
    rw [TokenStream.skipBlankBackward, dif_neg hkind]
    omega

/-- From where going back over white space stops there is white space only. -/
theorem blank_of_skipBlankBackward (s : TokenStream) (position : Int) :
    s.skipBlankBackward position ≤ position
      ∧ ∀ j, s.skipBlankBackward position ≤ j → j < position → s.kind? j = some .whitespace := by
  induction position using TokenStream.skipBlankBackward.induct s with
  | case1 position hkind ih =>
    rw [TokenStream.skipBlankBackward, dif_pos hkind]
    refine ⟨by omega, fun j hfrom hto => ?_⟩
    rcases Int.lt_or_le j (position - 1) with hlt | hge
    · exact ih.2 j hfrom hlt
    · have hj : j = position - 1 := by omega
      rw [hj, hkind]
  | case2 position hkind =>
    rw [TokenStream.skipBlankBackward, dif_neg hkind]
    exact ⟨Int.le_refl _, fun j hfrom hto => absurd hto (by omega)⟩

/-- The comment right before a position is a doc comment with white space only behind it. -/
theorem docBefore?_eq_some_iff {position i : Int} :
    docBefore? s position = some i
      ↔ s.kind? i = some .docComment
        ∧ s.Reads ({[.whitespace]} : Language TokenKind)∗ (i + 1) position := by
  rw [TokenStream.reads_run]
  unfold docBefore?
  constructor
  · intro h
    dsimp only at h
    split at h
    next hdoc =>
      obtain ⟨hle, hblank⟩ := blank_of_skipBlankBackward s position
      have hi : i = s.skipBlankBackward position - 1 := (Option.some.inj h).symm
      refine ⟨hi ▸ hdoc, by omega, fun j hfrom hto => hblank j (by omega) hto⟩
    next => simp at h
  · rintro ⟨hdoc, hle, hblank⟩
    have hedge : s.skipBlankBackward position = i + 1 :=
      skipBlankBackward_eq (by omega) (by rw [hdoc]; decide) fun j hij hj => hblank j hij hj
    have hback : i + 1 - 1 = i := by omega
    dsimp only
    rw [hedge, hback, if_pos hdoc]

/-- **A comment is attached** exactly if it is right before a position to which the pattern of the
modifiers goes back. -/
theorem attached_iff_exists_reach {i : Int} :
    Attached declaration s anchor i
      ↔ ∃ position ∈ (declaration.modifiers.reach s anchor).positions,
          docBefore? s position = some i := by
  -- both sides are now said with languages, and a product is read in two parts
  have hreach : ∀ position, position ∈ (declaration.modifiers.reach s anchor).positions
      ↔ s.Reads declaration.modifierWords position anchor := by
    intro position
    rw [Pattern.mem_reach_iff s _ (isKnown_modifiers declaration), language_modifiers]
  simp only [hreach, docBefore?_eq_some_iff]
  constructor
  · rintro ⟨-, hdoc, hwords⟩
    obtain ⟨position, hblank, hmodifiers⟩ := TokenStream.reads_mul.1 hwords
    exact ⟨position, hmodifiers, hdoc, hblank⟩
  · rintro ⟨position, hmodifiers, hdoc, hblank⟩
    obtain ⟨word, hword, hspells⟩ := TokenStream.reads_mul.2 ⟨position, hblank, hmodifiers⟩
    have hle : i + 1 ≤ anchor := hspells.1
    exact ⟨by omega, hdoc, word, hword, hspells⟩

/-- What the search finds is attached. -/
theorem attached_of_docComment? {i : Int} (h : docComment? declaration s anchor = some i) :
    Attached declaration s anchor i := by
  obtain ⟨position, hposition, hfound⟩ := List.exists_of_findSome?_eq_some h
  exact attached_iff_exists_reach.2 ⟨position, hposition, hfound⟩

/-- What is attached is found: some position leads to it, so the search finds a comment, and that
one is attached too. -/
theorem docComment?_of_attached {i : Int} (h : Attached declaration s anchor i) :
    docComment? declaration s anchor = some i := by
  obtain ⟨position, hposition, hfound⟩ := attached_iff_exists_reach.1 h
  -- the search may stop at another position first, but only at one that leads to a comment
  have hsome : (docComment? declaration s anchor).isSome = true :=
    List.findSome?_isSome_iff.2 ⟨position, hposition, by rw [hfound]; rfl⟩
  obtain ⟨j, hj⟩ := Option.isSome_iff_exists.1 hsome
  rw [hj, attached_unique (attached_of_docComment? hj) h]

end Attached

/-- **Documented means exactly what the table says.** For every kind of declaration, in every stream
and at every anchor, the search answers the attached doc comment. There is at most one, no other doc
comment stands between it and the anchor, and where there is none the search answers none. -/
theorem docComment?_exact (declaration : Declaration) (s : TokenStream) (anchor : Int) :
    (∀ i, docComment? declaration s anchor = some i ↔ Attached declaration s anchor i)
      ∧ (∀ i j, Attached declaration s anchor i → Attached declaration s anchor j → i = j)
      ∧ (∀ i, Attached declaration s anchor i →
          ∀ j, i < j → j < anchor → s.kind? j ≠ some .docComment)
      ∧ ((∀ i, ¬ Attached declaration s anchor i) → docComment? declaration s anchor = none) := by
  refine ⟨fun i => ⟨attached_of_docComment?, docComment?_of_attached⟩,
    fun i j => attached_unique, fun i h j => kind_ne_docComment_of_attached h, fun hnone => ?_⟩
  rw [Option.eq_none_iff_forall_ne_some]
  exact fun i hi => hnone i (attached_of_docComment? hi)

end DocCoverage
