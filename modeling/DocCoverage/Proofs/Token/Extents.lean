/-
How far the reading of a token looks ahead. Several rules run to the end of the file, take one more
character if it is there, or wait for a sign that may never come, so that what stands behind a text
could reach back into it. It does not where the text ends in a line end, with two provisos: the token
is not the last one of the text, and it is no heredoc.

For most rules the reason is that they never go beyond a line end: they are *settled* by any text that
ends in one. Rules put in a row are settled if their parts are, since each of them leaves something of
the text. The others (white space, block comments, quoted texts, text outside the code) are settled
only where they end before the text does, and then by what they ended at.
-/
import DocCoverage.Proofs.Token.Lossless

set_option autoImplicit false

namespace DocCoverage.Extent

open DocCoverage.Text

variable {cs more : List Char}

/-! ## Texts that end in a line end -/

/-- The text ends in a line end. -/
def EndsLine (cs : List Char) : Prop := cs.getLast? = some '\n'

namespace EndsLine

theorem ne_nil (h : EndsLine cs) : cs ≠ [] := by
  rintro rfl
  cases h

/-- Its first character is the line end itself, or what follows ends in it. -/
theorem cons_cases {c : Char} {rest : List Char} (h : EndsLine (c :: rest)) :
    rest = [] ∧ c = '\n' ∨ EndsLine rest := by
  cases rest with
  | nil => exact Or.inl ⟨rfl, Option.some.inj h⟩
  | cons d rest =>
    unfold EndsLine at h
    rw [List.getLast?_cons_cons] at h
    exact Or.inr h

/-- Behind another character, what follows ends in the line end. -/
theorem tail {c : Char} {rest : List Char} (h : EndsLine (c :: rest)) (hc : c ≠ '\n') :
    EndsLine rest :=
  h.cons_cases.resolve_left fun hend => hc hend.2

/-- A character in front changes nothing about the end. -/
theorem cons (h : EndsLine cs) (c : Char) : EndsLine (c :: cs) := by
  cases cs with
  | nil => exact absurd rfl h.ne_nil
  | cons d rest =>
    unfold EndsLine at h ⊢
    rw [List.getLast?_cons_cons, h]

/-- What is left of the text ends in the line end, if anything is left. -/
theorem drop (h : EndsLine cs) {n : Nat} (hn : n < cs.length) : EndsLine (cs.drop n) := by
  unfold EndsLine at h ⊢
  rw [List.getLast?_drop, if_neg (by omega), h]

end EndsLine

/-! ## Rules that a line end settles -/

/-- **Settled by a line end:** what the rule says of a text that ends in one does not change with what
stands behind the text. -/
def Settled {α : Type} (rule : List Char → α) : Prop :=
  ∀ cs more : List Char, EndsLine cs → rule (cs ++ more) = rule cs

/-- **Stopped by a line end:** the extent leaves something of a text that ends in one. -/
def Stopped (extent : List Char → Nat) : Prop :=
  ∀ cs : List Char, EndsLine cs → extent cs < cs.length

/-- Of a rule that comes after an extent, what is left of the text decides. -/
theorem Settled.behind {α : Type} {extent : List Char → Nat} {rule : List Char → α}
    (hextent : Settled extent) (hstopped : Stopped extent) (hrule : Settled rule) :
    Settled fun cs => rule (cs.drop (extent cs)) := by
  intro cs more hcs
  have hlt := hstopped cs hcs
  dsimp only
  rw [hextent cs more hcs, List.drop_append_of_le_length (Nat.le_of_lt hlt)]
  exact hrule _ more (hcs.drop hlt)

/-- Two extents in a row leave something, if each of them does. -/
theorem Stopped.andThen {first second : List Char → Nat} (hfirst : Stopped first)
    (hsecond : Stopped second) : Stopped fun cs => first cs + second (cs.drop (first cs)) := by
  intro cs hcs
  have hlt := hfirst cs hcs
  have hrest := hsecond _ (hcs.drop hlt)
  rw [List.length_drop] at hrest
  dsimp only
  omega

/-- Two extents in a row are settled, if each of them is. -/
theorem Settled.andThen {first second : List Char → Nat} (hfirst : Settled first)
    (hstopped : Stopped first) (hsecond : Settled second) :
    Settled fun cs => first cs + second (cs.drop (first cs)) := by
  intro cs more hcs
  have hrest := hfirst.behind hstopped hsecond cs more hcs
  dsimp only at hrest ⊢
  rw [hrest, hfirst cs more hcs]

/-! ### Runs -/

/-- A run that ends before the text does ends there whatever comes behind. -/
theorem run_append {p : Char → Bool} (h : run p cs < cs.length) :
    run p (cs ++ more) = run p cs := by
  unfold run at h ⊢
  rw [List.takeWhile_append, if_neg (by omega)]

/-- A run of characters among which there is no line end leaves one. -/
theorem stopped_run {p : Char → Bool} (hp : p '\n' = false) : Stopped (run p) := by
  intro cs hcs
  unfold run
  induction cs with
  | nil => exact absurd rfl hcs.ne_nil
  | cons c rest ih =>
    by_cases hc : p c = true
    · have hne : c ≠ '\n' := by
        rintro rfl
        rw [hp] at hc
        exact Bool.false_ne_true hc
      rw [List.takeWhile_cons_of_pos hc, List.length_cons, List.length_cons]
      exact Nat.succ_lt_succ (ih (hcs.tail hne))
    · rw [List.takeWhile_cons_of_neg hc]
      exact Nat.zero_lt_succ _

theorem settled_run {p : Char → Bool} (hp : p '\n' = false) : Settled (run p) :=
  fun cs _ hcs => run_append (stopped_run hp cs hcs)

/-! ### Numbers -/

/-- No line end is part of a number. -/
theorem isDecimalPart_newline : isDecimalPart '\n' = false := by decide

theorem isDigit_newline : isDigit '\n' = false := by decide

/-- No line end is part of a word. -/
theorem isWord_newline : isWord '\n' = false := by decide +kernel

theorem stopped_fraction : Stopped fraction := by
  intro cs hcs
  have hpos : 0 < cs.length := List.length_pos_iff.2 hcs.ne_nil
  unfold fraction
  split
  next rest =>
    have hrest := stopped_run isDecimalPart_newline rest (hcs.tail (by decide))
    rw [List.length_cons]
    omega
  next => exact hpos

/-- Where no point stands there is no fraction. -/
theorem fraction_of_ne {c : Char} (hc : c ≠ '.') (rest : List Char) : fraction (c :: rest) = 0 := by
  simp [fraction, hc]

theorem settled_fraction : Settled fraction := by
  intro cs more hcs
  cases cs with
  | nil => exact absurd rfl hcs.ne_nil
  | cons c rest =>
    rw [List.cons_append]
    by_cases hc : c = '.'
    · subst hc
      have hdigits := settled_run isDecimalPart_newline rest more (hcs.tail (by decide))
      simp only [fraction, hdigits]
    · rw [fraction_of_ne hc, fraction_of_ne hc]

/-- **An exponent** is settled: at its letter the line end is still to come, and so it is behind a
sign. -/
theorem settled_exponent : Settled exponent := by
  intro cs more hcs
  cases cs with
  | nil => exact absurd rfl hcs.ne_nil
  | cons e rest =>
    by_cases he : (e == 'e' || e == 'E') = true
    · have hrest : EndsLine rest := hcs.tail (by rintro rfl; exact absurd he (by decide))
      cases rest with
      | nil => exact absurd rfl hrest.ne_nil
      | cons c digits =>
        simp only [exponent, List.cons_append]
        rw [if_pos he, if_pos he]
        by_cases hsign : (c == '+' || c == '-') = true
        · have hdigits : EndsLine digits :=
            hrest.tail (by rintro rfl; exact absurd hsign (by decide))
          rw [if_pos hsign, List.drop_succ_cons, List.drop_succ_cons, List.drop_zero,
            List.drop_zero, settled_run isDigit_newline digits more hdigits]
        · rw [if_neg hsign, List.drop_zero, List.drop_zero, ← List.cons_append,
            settled_run isDigit_newline (c :: digits) more hrest]
    · simp only [exponent, List.cons_append]
      rw [if_neg he, if_neg he]

theorem settled_decimal : Settled decimal := by
  have hwhole := settled_run isDecimalPart_newline
  have hstopped := stopped_run isDecimalPart_newline
  have hpoint := hwhole.andThen hstopped settled_fraction
  exact hpoint.andThen (hstopped.andThen stopped_fraction) settled_exponent

theorem settled_based : Settled based := by
  intro cs more hcs
  cases cs with
  | nil => exact absurd rfl hcs.ne_nil
  | cons b rest =>
    rw [List.cons_append]
    rcases hcs.cons_cases with ⟨rfl, rfl⟩ | hrest
    · cases more <;> rfl
    · unfold based
      dsimp only
      -- whatever the base is, no line end is a digit of it
      rw [settled_run ?_ rest more hrest]
      split
      · decide
      · split
        · decide
        · split <;> decide

theorem settled_number (first : Char) : Settled (number first) := by
  intro cs more hcs
  unfold number
  rw [settled_based cs more hcs, settled_decimal cs more hcs]

theorem settled_pointNumber : Settled pointNumber := by
  intro cs more hcs
  have hdigits := settled_run isDecimalPart_newline
  have hexponent := hdigits.behind (stopped_run isDecimalPart_newline) settled_exponent cs more hcs
  have hhead : (cs ++ more).head? = cs.head? := by
    rw [List.head?_append, Option.or_of_isSome (List.isSome_head?.2 hcs.ne_nil)]
  unfold pointNumber
  dsimp only at hexponent ⊢
  rw [hhead, hexponent, hdigits cs more hcs]

/-! ### Comments and tags -/

theorem lineComment_cons_cons (c d : Char) (rest : List Char) :
    lineComment (c :: d :: rest)
      = if c = '\r' ∨ c = '\n' ∨ c = '?' ∧ d = '>' then 0 else lineComment (d :: rest) + 1 := by
  rw [lineComment.eq_def]
  split <;> grind

/-- A comment to the end of the line ends there at the latest. -/
theorem settled_lineComment : Settled lineComment := by
  intro cs more hcs
  induction cs with
  | nil => exact absurd rfl hcs.ne_nil
  | cons c rest ih =>
    rcases hcs.cons_cases with ⟨rfl, rfl⟩ | hrest
    · rfl
    · cases rest with
      | nil => exact absurd rfl hrest.ne_nil
      | cons d rest =>
        have hbehind := ih hrest
        simp only [List.cons_append] at hbehind ⊢
        rw [lineComment_cons_cons, lineComment_cons_cons, hbehind]

/-- What makes a comment a doc comment is settled by its first two characters. -/
theorem settled_opensDoc : Settled opensDoc := by
  intro cs more hcs
  rcases cs with _ | ⟨c, _ | ⟨d, rest⟩⟩
  · exact absurd rfl hcs.ne_nil
  · obtain rfl : c = '\n' := Option.some.inj hcs
    rfl
  · by_cases hc : c = '*'
    · subst hc
      rfl
    · simp [opensDoc, hc]

theorem lineEnd_cons_cons (c d : Char) (rest : List Char) :
    lineEnd (c :: d :: rest)
      = if c = '\r' ∧ d = '\n' then 2 else if c = '\n' then 1 else 0 := by
  rw [lineEnd.eq_def]
  split
  · simp_all
  · simp_all
  next hcrlf hlf =>
    have hno : ¬ (c = '\r' ∧ d = '\n') := fun h => hcrlf rest (by rw [h.1, h.2])
    rw [if_neg hno, if_neg (fun h => hlf (d :: rest) (by rw [h]))]

/-- The line end behind a close tag is settled: after a carriage return there is a line feed to
come. -/
theorem settled_lineEnd : Settled lineEnd := by
  intro cs more hcs
  rcases cs with _ | ⟨c, _ | ⟨d, rest⟩⟩
  · exact absurd rfl hcs.ne_nil
  · obtain rfl : c = '\n' := Option.some.inj hcs
    rfl
  · rw [List.cons_append, List.cons_append, lineEnd_cons_cons, lineEnd_cons_cons]

theorem afterTagName_cons_cons (c d : Char) (rest : List Char) :
    afterTagName (c :: d :: rest)
      = if c = '\r' ∧ d = '\n' then some 2
        else if c == ' ' || c == '\t' || c == '\r' || c == '\n' then some 1 else none := by
  rw [afterTagName.eq_def]
  split
  next h => cases h
  · simp_all
  next hcrlf h =>
    obtain ⟨rfl, rfl⟩ := List.cons.inj h
    have hno : ¬ (c = '\r' ∧ d = '\n') := fun h => hcrlf rest h.1 (by rw [h.2])
    rw [if_neg hno]

theorem settled_afterTagName : Settled afterTagName := by
  intro cs more hcs
  rcases cs with _ | ⟨c, _ | ⟨d, rest⟩⟩
  · exact absurd rfl hcs.ne_nil
  · obtain rfl : c = '\n' := Option.some.inj hcs
    rfl
  · rw [List.cons_append, List.cons_append, afterTagName_cons_cons, afterTagName_cons_cons]

/-- An open tag that is not the one with the equals sign is spelled out. -/
theorem openTag_of_ne {p h q : Char} (hp : p ≠ '=') (rest : List Char) :
    openTag ('?' :: p :: h :: q :: rest)
      = if startsWith ['p', 'h', 'p'] [p, h, q] then (afterTagName rest).map (· + 4)
        else none := by
  rw [openTag]
  exact hp

/-- Three characters with a line end among them are not the name in an open tag. -/
theorem startsWith_php_of_newline {p h q : Char} (hnewline : p = '\n' ∨ h = '\n' ∨ q = '\n') :
    startsWith ['p', 'h', 'p'] [p, h, q] = false := by
  rcases hnewline with rfl | rfl | rfl <;> simp [startsWith, List.isPrefixOf]

/-- A line end in its first two characters spoils the name in an open tag. -/
theorem openTag_of_newline {p h : Char} (hp : p ≠ '=') (hnewline : p = '\n' ∨ h = '\n')
    (rest : List Char) : openTag ('?' :: p :: h :: rest) = none := by
  rcases rest with _ | ⟨q, rest⟩
  · simp [openTag, hp]
  · have hname : startsWith ['p', 'h', 'p'] [p, h, q] = false :=
      startsWith_php_of_newline (hnewline.imp id Or.inl)
    rw [openTag_of_ne hp, hname]
    rfl

/-- **An open tag** is settled: no line end is in its name, so what belongs to it is still to come
behind the name. -/
theorem settled_openTag : Settled openTag := by
  intro cs more hcs
  have hother : ∀ {a : Char} (xs : List Char), a ≠ '?' → openTag (a :: xs) = none := by
    intro a xs ha
    simp [openTag, ha]
  rcases cs with _ | ⟨a, rest⟩
  · exact absurd rfl hcs.ne_nil
  by_cases ha : a = '?'
  · subst ha
    have hrest := hcs.tail (by decide)
    rcases rest with _ | ⟨p, rest⟩
    · exact absurd rfl hrest.ne_nil
    by_cases hp : p = '='
    · subst hp
      rfl
    · -- of a text too short for the name, the line end stands in the first two characters of it
      rcases rest with _ | ⟨h, _ | ⟨q, rest⟩⟩
      · obtain rfl : p = '\n' := Option.some.inj hcs
        rcases more with _ | ⟨m, more⟩
        · rfl
        · exact openTag_of_newline hp (Or.inl rfl) more
      · obtain rfl : h = '\n' := Option.some.inj hcs
        simp only [List.cons_append, List.nil_append]
        rw [openTag_of_newline hp (Or.inr rfl), openTag_of_newline hp (Or.inr rfl)]
      · simp only [List.cons_append]
        rw [openTag_of_ne hp, openTag_of_ne hp]
        by_cases hname : startsWith ['p', 'h', 'p'] [p, h, q] = true
        · have hspelled : ¬ (p = '\n' ∨ h = '\n' ∨ q = '\n') := by
            intro hnewline
            rw [startsWith_php_of_newline hnewline] at hname
            exact Bool.false_ne_true hname
          simp only [not_or] at hspelled
          have htail : EndsLine rest :=
            ((hrest.tail hspelled.1).tail hspelled.2.1).tail hspelled.2.2
          rw [settled_afterTagName rest more htail]
        · rw [if_neg hname, if_neg hname]
  · rw [List.cons_append, hother _ ha, hother _ ha]

/-! ### Operators -/

/-- Whether a word without a line end stands at the front is settled. -/
theorem settled_isPrefixOf (word : List Char) (hword : '\n' ∉ word) :
    Settled fun cs => word.isPrefixOf cs := by
  intro cs more hcs
  dsimp only
  induction word generalizing cs with
  | nil => cases cs <;> rfl
  | cons o word ih =>
    rw [List.mem_cons, not_or] at hword
    rcases cs with _ | ⟨c, rest⟩
    · exact absurd rfl hcs.ne_nil
    rw [List.cons_append, List.isPrefixOf_cons_cons, List.isPrefixOf_cons_cons]
    rcases hcs.cons_cases with ⟨rfl, rfl⟩ | hrest
    · have hne : (o == '\n') = false := beq_eq_false_iff_ne.2 (Ne.symm hword.1)
      rw [hne, Bool.false_and, Bool.false_and]
    · rw [ih hword.2 rest hrest]

/-- **An operator** is settled: none of them has a line end in it. -/
theorem settled_operator (c : Char) : Settled (operator c) := by
  intro cs more hcs
  have hnewline : ∀ op ∈ longOperators, '\n' ∉ op := by decide
  have hfind : ∀ ops : List (List Char), (∀ op ∈ ops, '\n' ∉ op) →
      ops.find? (·.isPrefixOf (c :: (cs ++ more))) = ops.find? (·.isPrefixOf (c :: cs)) := by
    intro ops hops
    induction ops with
    | nil => rfl
    | cons op ops ih =>
      have hfirst : op.isPrefixOf (c :: (cs ++ more)) = op.isPrefixOf (c :: cs) :=
        settled_isPrefixOf op (hops op List.mem_cons_self) (c :: cs) more (hcs.cons c)
      rw [List.find?_cons, List.find?_cons, hfirst,
        ih fun o ho => hops o (List.mem_cons_of_mem op ho)]
  unfold operator
  rw [hfind longOperators hnewline]

/-! ## Rules that run on

They may reach the end of the text, and then what comes behind counts. Where they end before it, they
have met what ends them. -/

/-- **A block comment** that ends before the text does has met its end. -/
theorem throughCommentEnd_append (h : throughCommentEnd cs < cs.length) :
    throughCommentEnd (cs ++ more) = throughCommentEnd cs := by
  fun_induction throughCommentEnd cs with
  | case1 => exact absurd h (Nat.not_lt_zero _)
  | case2 rest => rfl
  | case3 c rest hend ih =>
    -- a star may not be the last character, or a slash could come behind it
    rw [List.length_cons] at h
    have hrest : throughCommentEnd rest < rest.length := by omega
    rcases rest with _ | ⟨d, rest⟩
    · exact absurd hrest (Nat.not_lt_zero _)
    · have hbehind := ih hrest
      simp only [List.cons_append] at hbehind ⊢
      rw [throughCommentEnd, hbehind]
      rintro tail rfl htail
      exact hend rest rfl (by rw [(List.cons.inj htail).1])

/-- A character that neither stands alone nor escapes another one is no backslash. -/
theorem ne_backslash {c : Char} {rest : List Char} (hlone : c = '\\' → rest = [] → False)
    (hescaped : ∀ (d : Char) (tail : List Char), c = '\\' → rest = d :: tail → False) :
    c ≠ '\\' := by
  intro hc
  cases rest with
  | nil => exact hlone hc rfl
  | cons d tail => exact hescaped d tail hc rfl

/-- Any character but a backslash closes a quoted text or belongs to it. -/
theorem quoted_of_ne {quote c : Char} (hc : c ≠ '\\') (rest : List Char) :
    quoted quote (c :: rest)
      = if c == quote then some 1 else (quoted quote rest).map (· + 1) := by
  rw [quoted]
  · exact fun h => absurd h hc
  · exact fun _ _ h => absurd h hc

/-- **A quoted text** that ends before the text does has met its closing quote. -/
theorem quoted_append {quote : Char} {n : Nat} (hquoted : quoted quote cs = some n)
    (h : n < cs.length) : quoted quote (cs ++ more) = some n := by
  fun_induction quoted quote cs generalizing n with
  | case1 => exact absurd h (Nat.not_lt_zero _)
  | case2 => cases hquoted
  | case3 c rest ih =>
    obtain ⟨m, hm, rfl⟩ := Option.map_eq_some_iff.1 hquoted
    simp only [List.length_cons] at h
    simp only [List.cons_append, quoted, ih hm (by omega), Option.map_some]
  | case4 c rest hlone hescaped hclosing =>
    have hc : c ≠ '\\' := ne_backslash hlone hescaped
    rw [List.cons_append, quoted_of_ne hc, if_pos hclosing, hquoted]
  | case5 c rest hlone hescaped hopen ih =>
    have hc : c ≠ '\\' := ne_backslash hlone hescaped
    obtain ⟨m, hm, rfl⟩ := Option.map_eq_some_iff.1 hquoted
    rw [List.length_cons] at h
    rw [List.cons_append, quoted_of_ne hc, if_neg hopen, ih hm (by omega), Option.map_some]

/-- A quoted text does not end in a lone backslash where a line end ends the text. -/
theorem isSome_quoted {quote : Char} (hcs : EndsLine cs) : (quoted quote cs).isSome = true := by
  fun_induction quoted quote cs with
  | case1 => rfl
  | case2 => cases hcs
  | case3 c rest ih =>
    rw [Option.isSome_map]
    rcases (hcs.tail (by decide)).cons_cases with ⟨rfl, -⟩ | hrest
    · rfl
    · exact ih hrest
  | case4 c rest hlone hescaped hclosing => rfl
  | case5 c rest hlone hescaped hopen ih =>
    rw [Option.isSome_map]
    rcases hcs.cons_cases with ⟨rfl, -⟩ | hrest
    · rfl
    · exact ih hrest

/-- **Text outside the code** that ends before the text does has met an open tag. -/
theorem html_append (hcs : EndsLine cs) (h : html cs < cs.length) :
    html (cs ++ more) = html cs := by
  induction cs with
  | nil => exact absurd rfl hcs.ne_nil
  | cons c rest ih =>
    rw [List.cons_append]
    rcases hcs.cons_cases with ⟨rfl, rfl⟩ | hrest
    · exact absurd h (by decide)
    · unfold html at h ⊢
      rw [settled_openTag rest more hrest]
      split at h
      next htag => rw [if_pos htag, if_pos htag]
      next htag =>
        rw [List.length_cons] at h
        rw [if_neg htag, if_neg htag, ih hrest (by omega)]

/-- **A heredoc** needs three angle brackets. -/
theorem heredoc_eq_none (h : ¬ ['<', '<'].isPrefixOf cs = true) : heredoc cs = none := by
  unfold heredoc
  split
  next rest => exact absurd rfl h
  next => rfl

/-- So where there are fewer, none comes about behind the text. -/
theorem heredoc_append (hcs : EndsLine cs) (h : ¬ ['<', '<'].isPrefixOf cs = true) :
    heredoc (cs ++ more) = heredoc cs := by
  have hbrackets : ['<', '<'].isPrefixOf (cs ++ more) = ['<', '<'].isPrefixOf cs :=
    settled_isPrefixOf ['<', '<'] (by decide) cs more hcs
  rw [heredoc_eq_none h, heredoc_eq_none (by rwa [hbrackets])]

end DocCoverage.Extent
