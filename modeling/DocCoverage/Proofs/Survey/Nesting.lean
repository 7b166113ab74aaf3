/-
A survey is a walk of the nesting. A survey has no tree: it keeps a stack of classes, each with a
count of its braces, and one count for all functions together, and it jumps over headers. Where the
tokens of a file are those of a tree of items, both counts come back, behind every item, to what
they were before it, and so what the survey looks at is what the walk of the tree looks at.
-/
import DocCoverage.Proofs.Survey.Places

set_option autoImplicit false

namespace DocCoverage

variable {stream : TokenStream} {defines : Bool} {past ahead : List Token}

/-! ## Items -/

/-- **An item is walked** if, wherever it stands, a survey looks at what its walk looks at, and then
goes on behind it in the state it had before it. -/
def Item.IsWalked (stream : TokenStream) (defines : Bool) (item : Item) : Prop :=
  ∀ (past after : List Token) (scope : Scope) (s : SurveyState),
    item.isWellFormed past = true → stream.Cut past (item.tokens ++ after) → scope.Fits s →
      subjectsAt stream defines past s
        = item.walk defines scope past.length after
          ++ subjectsAt stream defines (item.tokens.reverse ++ past) s

/-- **Items are walked,** one after the other. -/
def AreWalked (stream : TokenStream) (defines : Bool) (items : List Item) : Prop :=
  ∀ (past after : List Token) (scope : Scope) (s : SurveyState),
    areWellFormed past items = true → stream.Cut past (tokensOf items ++ after) → scope.Fits s →
      subjectsAt stream defines past s
        = walkAll defines scope past.length after items
          ++ subjectsAt stream defines ((tokensOf items).reverse ++ past) s

/-- **Items in braces** are walked in the scope that the opening brace opens. -/
theorem subjectsAt_braces {items : List Item} (hitems : AreWalked stream defines items)
    {scope : Scope} {s : SurveyState} {opening closing : Token} {after : List Token}
    (h : stream.Cut past (opening :: (tokensOf items ++ closing :: after)))
    (hopening : opening.kind = .openBrace) (hclosing : closing.kind = .closeBrace)
    (hwell : areWellFormed (opening :: past) items = true) (hfits : scope.Fits s.openBrace) :
    subjectsAt stream defines past s
      = walkAll defines scope (past.length + 1) (closing :: after) items
        ++ subjectsAt stream defines (closing :: ((tokensOf items).reverse ++ opening :: past))
            s.openBrace.closeBrace := by
  have hclose : stream.Cut ((tokensOf items).reverse ++ opening :: past) (closing :: after) :=
    h.next.moveOn
  rw [subjectsAt_openBrace s h hopening,
    hitems (opening :: past) (closing :: after) scope s.openBrace hwell h.next hfits,
    subjectsAt_closeBrace s.openBrace hclose hclosing]
  rfl

/-- A leaf is walked. -/
theorem isWalked_leaf (t : Token) : (Item.leaf t).IsWalked stream defines :=
  fun _ _ _ _ hwell h hfits => subjectsAt_leaf hfits h hwell

/-- **A block is walked,** in the scope it stands in. -/
theorem isWalked_block {items : List Item} (hitems : AreWalked stream defines items)
    (opening closing : Token) : (Item.block opening items closing).IsWalked stream defines := by
  intro past after scope s hwell h hfits
  simp only [Item.isWellFormed, Bool.and_eq_true, beq_iff_eq] at hwell
  obtain ⟨⟨hopening, hinside⟩, hclosing⟩ := hwell
  simp only [Item.tokens, List.cons_append, List.append_assoc, List.nil_append] at h
  have hbehind : (Item.block opening items closing).tokens.reverse ++ past
      = closing :: ((tokensOf items).reverse ++ opening :: past) := by
    simp [Item.tokens]
  have hback : subjectsAt stream defines (closing :: ((tokensOf items).reverse ++ opening :: past))
      s.openBrace.closeBrace
        = subjectsAt stream defines (closing :: ((tokensOf items).reverse ++ opening :: past)) s :=
    subjectsAt_congr (SurveyState.contexts_closeBrace_openBrace hfits.opened)
      (SurveyState.functionNesting_closeBrace_openBrace hfits.count)
  rw [subjectsAt_braces hitems h hopening hclosing hinside hfits.openBrace, hback, hbehind,
    Item.walk]

/-- The tokens of an item with a header, read backward. -/
theorem reverse_headed (keyword : Token) (header : List Token) (opening : Token)
    (items : List Item) (closing : Token) (past : List Token) :
    (keyword :: (header ++ opening :: (tokensOf items ++ [closing]))).reverse ++ past
      = closing
        :: ((tokensOf items).reverse ++ opening :: (header.reverse ++ keyword :: past)) := by
  simp

/-- The place behind a header and its opening brace. -/
theorem length_headed (keyword : Token) (header past : List Token) :
    (header.reverse ++ keyword :: past).length + 1 = past.length + 1 + header.length + 1 := by
  rw [List.length_append, List.length_reverse, List.length_cons]
  omega

/-- **A class is walked.** Its braces close it, whatever function it stands in. -/
theorem isWalked_classLike {items : List Item} (hitems : AreWalked stream defines items)
    (keyword : Token) (header : List Token) (opening closing : Token) :
    (Item.classLike keyword header opening items closing).IsWalked stream defines := by
  intro past after scope s hwell h hfits
  -- keyword, header, body: the surveys of the three parts are put one behind the other
  simp only [Item.isWellFormed, Bool.and_eq_true, Bool.or_eq_true, beq_iff_eq] at hwell
  obtain ⟨⟨⟨⟨hkeyword, hheader⟩, hopening⟩, hinside⟩, hclosing⟩ := hwell
  simp only [Item.tokens, List.cons_append, List.append_assoc, List.nil_append] at h
  obtain ⟨context, hname, hdepth, hfirst⟩ :=
    subjectsAt_classKeyword defines s h hkeyword
  rw [firstWord_append anonymousClass header _ (Or.inl hopening)] at hname hfirst
  have hbody := hfits.enter hdepth
  rw [hname] at hbody
  have hback : ∀ behind, subjectsAt stream defines behind (s.enter context).openBrace.closeBrace
      = subjectsAt stream defines behind s := by
    intro behind
    refine subjectsAt_congr (SurveyState.contexts_closeBrace_enter hfits.opened hdepth) ?_
    -- the count for functions does not notice the class, only its braces
    rw [SurveyState.functionNesting_closeBrace_openBrace (by
      rw [SurveyState.functionNesting_enter]
      exact hfits.count), SurveyState.functionNesting_enter]
  rw [hfirst, subjectsAt_classHeader (s.isEmpty_contexts_enter context) h.next hheader,
    subjectsAt_braces hitems h.next.moveOn hopening hclosing hinside hbody, hback, length_headed,
    Item.walk, Item.tokens, reverse_headed]
  rfl

/-- **A function without a body is walked,** and leaves no trace. -/
theorem isWalked_bodiless (keyword : Token) (header : List Token) (ending : Token) :
    (Item.bodiless keyword header ending).IsWalked stream defines := by
  intro past after scope s hwell h hfits
  simp only [Item.isWellFormed, Bool.and_eq_true, Bool.not_eq_true', beq_iff_eq] at hwell
  obtain ⟨⟨⟨hkeyword, huse⟩, hheader⟩, hending⟩ := hwell
  simp only [Item.tokens, List.cons_append, List.append_assoc, List.nil_append] at h
  have hplain : ending.isPlain = true := by rw [Token.isPlain, hending]
  have hback : ∀ behind, subjectsAt stream defines behind (s.afterHeader (some ending.kind))
      = subjectsAt stream defines behind s := by
    intro behind
    rw [hending]
    exact subjectsAt_congr rfl (SurveyState.functionNesting_afterHeader_semicolon hfits.count)
  rw [subjectsAt_functionKeyword s h hkeyword huse hheader (Or.inr hending), hback,
    subjectsAt_plain s h.next.moveOn hplain, Item.walk, Item.tokens, hfits.owner]
  simp

/-- **A function is walked.** Its braces leave it and no function around it. -/
theorem isWalked_function {items : List Item} (hitems : AreWalked stream defines items)
    (keyword : Token) (header : List Token) (opening closing : Token) :
    (Item.function keyword header opening items closing).IsWalked stream defines := by
  intro past after scope s hwell h hfits
  simp only [Item.isWellFormed, Bool.and_eq_true, Bool.not_eq_true', beq_iff_eq] at hwell
  obtain ⟨⟨⟨⟨⟨hkeyword, huse⟩, hheader⟩, hopening⟩, hinside⟩, hclosing⟩ := hwell
  simp only [Item.tokens, List.cons_append, List.append_assoc, List.nil_append] at h
  have hback : ∀ behind, subjectsAt stream defines behind s.beginFunction.openBrace.closeBrace
      = subjectsAt stream defines behind s :=
    fun behind => subjectsAt_congr
      (SurveyState.contexts_closeBrace_openBrace hfits.opened)
      (SurveyState.functionNesting_closeBrace_beginFunction hfits.count)
  rw [subjectsAt_functionKeyword s h hkeyword huse hheader (Or.inl hopening), hopening,
    SurveyState.afterHeader_openBrace,
    subjectsAt_braces hitems h.next.moveOn hopening hclosing hinside hfits.beginFunction, hback,
    length_headed, Item.walk, Item.tokens, reverse_headed, hfits.owner]
  rfl

/-- Of no items nothing is looked at. -/
theorem areWalked_nil : AreWalked stream defines [] :=
  fun _ _ _ _ _ _ _ => rfl

/-- Behind an item that is walked the next ones are, since the state is the same again. -/
theorem areWalked_cons {item : Item} {rest : List Item} (hitem : item.IsWalked stream defines)
    (hrest : AreWalked stream defines rest) : AreWalked stream defines (item :: rest) := by
  intro past after scope s hwell h hfits
  rw [areWellFormed, Bool.and_eq_true] at hwell
  obtain ⟨hfirst, hothers⟩ := hwell
  rw [tokensOf, List.append_assoc] at h
  -- what follows the item is read by it too: the name of a constant, the parenthesis of a call
  rw [hitem past (tokensOf rest ++ after) scope s hfirst h hfits,
    hrest (item.tokens.reverse ++ past) after scope s hothers h.moveOn hfits, walkAll, tokensOf]
  have hplace : (item.tokens.reverse ++ past).length = past.length + item.tokens.length := by
    rw [List.length_append, List.length_reverse, Nat.add_comm]
  rw [hplace, List.reverse_append, List.append_assoc, List.append_assoc]

mutual

/-- **Every item is walked.** -/
theorem Item.isWalked : ∀ item : Item, item.IsWalked stream defines
  | .leaf t => isWalked_leaf t
  | .block opening items closing => isWalked_block (areWalked items) opening closing
  | .classLike keyword header opening items closing =>
    isWalked_classLike (areWalked items) keyword header opening closing
  | .bodiless keyword header ending => isWalked_bodiless keyword header ending
  | .function keyword header opening items closing =>
    isWalked_function (areWalked items) keyword header opening closing

/-- **And so are all items in a row.** -/
theorem areWalked : ∀ items : List Item, AreWalked stream defines items
  | [] => areWalked_nil
  | item :: rest => areWalked_cons item.isWalked (areWalked rest)

end

/-! ## The whole file -/

/-- One pass over the opening of a file. Where a token of a plain class may stand, the place behind
it is as good as the one before it. -/
theorem exists_cut_pass {kind : TokenKind} (hplain : ∀ u : Token, u.kind = kind → u.isPlain = true)
    {here : Nat × Int} (hhere : here.1 = past.length) (h : stream.Cut past ahead) :
    ∃ past' ahead', stream.Cut past' ahead'
      ∧ (match stream.at? here.1 with
          | some u => if u.kind = kind then (here.1 + 1, (u.line : Int)) else here
          | none => here).1 = past'.length
      ∧ subjectsAt stream defines past {} = subjectsAt stream defines past' {} := by
  rw [hhere, h.at?_here]
  rcases ahead with _ | ⟨u, rest⟩
  · exact ⟨past, [], h, hhere, rfl⟩
  · by_cases hkind : u.kind = kind
    · refine ⟨u :: past, rest, h.next, ?_, subjectsAt_plain {} h (hplain u hkind)⟩
      dsimp only [List.head?_cons]
      rw [if_pos hkind]
      rfl
    · refine ⟨past, u :: rest, h, ?_, rfl⟩
      dsimp only [List.head?_cons]
      rw [if_neg hkind, hhere]

/-- The first place after the opening of a file. -/
theorem exists_cut_fileComment :
    ∃ past ahead, stream.Cut past ahead ∧ (fileComment stream).start = past.length
      ∧ subjectsAt stream defines [] {} = subjectsAt stream defines past {} := by
  have hhtml : ∀ u : Token, u.kind = .inlineHtml → u.isPlain = true := by
    intro u hkind
    rw [Token.isPlain, hkind]
  have htag : ∀ u : Token, u.kind = .openTag → u.isPlain = true := by
    intro u hkind
    rw [Token.isPlain, hkind]
  have hfirst : ((0, 1) : Nat × Int).1 = ([] : List Token).length := rfl
  obtain ⟨past₁, ahead₁, hcut₁, hplace₁, hsame₁⟩ :=
    exists_cut_pass hhtml hfirst stream.cut_nil
  obtain ⟨past₂, ahead₂, hcut₂, hplace₂, hsame₂⟩ := exists_cut_pass htag hplace₁ hcut₁
  exact ⟨past₂, ahead₂, hcut₂, hplace₂, hsame₁.trans hsame₂⟩

/-- **Where a survey begins** it looks at what it would look at from the first token on. -/
theorem subjectsFrom_startState :
    subjectsFrom stream defines (startState stream) = subjectsAt stream defines [] {} := by
  obtain ⟨past, ahead, hcut, hstart, hsame⟩ := exists_cut_fileComment
  rw [hsame]
  have hdoc : (fileComment stream).doc
      = if stream.kind? past.length = some .docComment then some (past.length : Int) else none := by
    rw [← hstart]
    rfl
  unfold startState
  dsimp only
  rw [hdoc]
  by_cases hkind : stream.kind? past.length = some .docComment
  · rw [if_pos hkind]
    have hhere := hcut.kind?_here
    rcases ahead with _ | ⟨u, rest⟩
    · exact absurd (hkind.symm.trans hhere) (fun hnone => by cases hnone)
    · have hplain : u.isPlain = true := by
        rw [Token.isPlain, Option.some.inj (hhere.symm.trans hkind)]
      -- the comment is held for the file, which what is looked at does not depend on
      rw [subjectsAt_plain {} hcut hplain]
      exact subjectsFrom_congr rfl
  · rw [if_neg hkind, hstart]
    rfl

/-- **A survey of a well-nested file is a walk of its tree.** What the survey looks at, in order,
with the kind of declaration, its place, its name and the class it belongs to, is what the walk
looks at, whether calls of `define` are looked at or not. -/
theorem checks_eq_walkAll (stream : TokenStream) (defines : Bool) (items : List Item)
    (htokens : stream.tokens.toList = tokensOf items) (hwell : areWellFormed [] items = true) :
    (Survey.of stream defines).checks.map Check.subject = walkAll defines {} 0 [] items := by
  have hcut : stream.Cut [] (tokensOf items ++ []) := by
    rw [List.append_nil, ← htokens]
    exact stream.cut_nil
  -- behind all items nothing is left
  have hend : subjectsAt stream defines ((tokensOf items).reverse ++ []) {} = [] := by
    refine subjectsFrom_end ?_
    rw [List.append_nil, SurveyState.cursor_moveTo, List.length_reverse, ← htokens]
    exact Int.le_refl _
  rw [checks_map_subject, subjectsFrom_startState, areWalked items [] [] {} {} hwell hcut
    Scope.fits_start, hend, List.append_nil]
  rfl

/-- A class with a constant, a property, a method and an abstract method, and a call of `define`
behind it; in the method's body stand a closure and an anonymous class. -/
def nestedItems : List Item :=
  let blank : Token := ⟨.whitespace, " ", 1⟩
  let word : String → Token := fun text => ⟨.identifier, text, 1⟩
  let variableNamed : String → Token := fun text => ⟨.variableName, text, 1⟩
  let key : TokenKind → Token := fun kind => ⟨kind, "", 1⟩
  [.classLike (key .classWord) [blank, word "A", blank] (key .openBrace)
      [.leaf (key .constWord), .leaf blank, .leaf (word "int"), .leaf blank, .leaf (word "X"),
        .leaf (key .semicolon), .leaf (variableNamed "$p"), .leaf (key .semicolon),
        .function (key .functionWord)
          [blank, word "f", key .openParen, variableNamed "$a", key .closeParen] (key .openBrace)
          [.leaf (variableNamed "$x"),
            .function (key .functionWord) [key .openParen, key .closeParen] (key .openBrace)
              [.leaf (variableNamed "$z")] (key .closeBrace),
            .classLike (key .classWord) [blank] (key .openBrace) [.leaf (variableNamed "$q")]
              (key .closeBrace)]
          (key .closeBrace),
        .bodiless (key .functionWord) [blank, word "g", key .openParen, key .closeParen]
          (key .semicolon),
        .leaf (variableNamed "$r")]
      (key .closeBrace),
    .leaf (word "define"), .leaf (key .openParen), .leaf ⟨.string, "'K'", 1⟩,
    .leaf (key .closeParen)]

/-- In that file the class and its five members, the closure, the anonymous class and the constant
are looked at, and none of the three variables in the method's body. -/
theorem checks_of_nestedItems :
    (Survey.of ⟨(tokensOf nestedItems).toArray⟩ true).checks.map Check.subject
      = [⟨.classDecl, 0, "A", none⟩, ⟨.classConstant, 5, "X", some "A"⟩,
          ⟨.classVariable, 11, "$p", some "A"⟩, ⟨.function, 13, "f", some "A"⟩,
          ⟨.function, 21, closure, some "A"⟩, ⟨.classDecl, 27, anonymousClass, none⟩,
          ⟨.function, 33, "g", some "A"⟩, ⟨.classVariable, 39, "$r", some "A"⟩,
          ⟨.constant, 41, "K", none⟩] :=
  (checks_eq_walkAll _ true nestedItems rfl (by decide)).trans (by decide)

end DocCoverage
