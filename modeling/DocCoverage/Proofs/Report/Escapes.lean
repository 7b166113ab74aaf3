/-
Texts inside annotations. Escaping takes line ends and percent signs out of a text, and nothing is
lost by it: an escape begins with a percent sign, and every percent sign of an escaped text begins
an escape, so a single pass from the left tells escapes and characters apart again. The texts
without line ends in which every percent sign begins an escape are exactly the escaped ones, and
each is the escape of what the pass reads in it.

The escapes can also be put in one after the other, throughout the text. The percent sign has to go
first then, since every escape holds one; a line end is in none of them.
-/
import DocCoverage.Report.Annotation

set_option autoImplicit false

namespace DocCoverage.Annotation

/-! ## Plain characters -/

/-- A character that is neither a percent sign nor a line end. -/
def Plain (c : Char) : Prop := c ≠ '%' ∧ c ≠ '\r' ∧ c ≠ '\n'

instance (c : Char) : Decidable (Plain c) :=
  inferInstanceAs (Decidable (c ≠ '%' ∧ c ≠ '\r' ∧ c ≠ '\n'))

theorem escaped_or_plain (c : Char) : c = '%' ∨ c = '\r' ∨ c = '\n' ∨ Plain c := by
  by_cases hpercent : c = '%'
  · exact Or.inl hpercent
  by_cases hreturn : c = '\r'
  · exact Or.inr (Or.inl hreturn)
  by_cases hend : c = '\n'
  · exact Or.inr (Or.inr (Or.inl hend))
  · exact Or.inr (Or.inr (Or.inr ⟨hpercent, hreturn, hend⟩))

/-- A plain character stands for itself. -/
theorem escapedChar_of_plain {c : Char} (hc : Plain c) : escapedChar c = [c] := by
  rw [escapedChar, if_neg hc.1, if_neg hc.2.1, if_neg hc.2.2]

/-! ## Reading escapes -/

/-- **What an escaped text says:** each escape stands for its character, and any other character for
itself. -/
def unescape : List Char → List Char
  | '%' :: '2' :: '5' :: rest => '%' :: unescape rest
  | '%' :: '0' :: 'D' :: rest => '\r' :: unescape rest
  | '%' :: '0' :: 'A' :: rest => '\n' :: unescape rest
  | c :: rest => c :: unescape rest
  | [] => []

/-- A character that begins no escape stands for itself. -/
theorem unescape_cons {c : Char} (h : c ≠ '%') (rest : List Char) :
    unescape (c :: rest) = c :: unescape rest := by
  rw [unescape]
  all_goals
    intro later hc
    exact absurd hc h

/-- The escape of a character is read as that character. -/
theorem unescape_escapedChar (c : Char) (rest : List Char) :
    unescape (escapedChar c ++ rest) = c :: unescape rest := by
  rcases escaped_or_plain c with rfl | rfl | rfl | hplain
  · rfl
  · rfl
  · rfl
  · rw [escapedChar_of_plain hplain, List.singleton_append, unescape_cons hplain.1]

/-- **Escaping is undone by one pass from the left.** -/
theorem unescape_escape (cs : List Char) : unescape (escape cs) = cs := by
  induction cs with
  | nil => rfl
  | cons c rest ih => rw [escape_cons, unescape_escapedChar, ih]

/-- Different texts are escaped differently. -/
theorem escape_injective {cs others : List Char} (h : escape cs = escape others) :
    cs = others := by
  rw [← unescape_escape cs, h, unescape_escape]

/-! ## What escaping leaves -/

/-- The escapes. -/
def escapes : List (List Char) := [['%', '2', '5'], ['%', '0', 'D'], ['%', '0', 'A']]

/-- **A text as escaping leaves it:** it holds no line end, and every percent sign begins an
escape. -/
structure WellEscaped (t : List Char) : Prop where
  lineEnd : '\n' ∉ t ∧ '\r' ∉ t
  percent : ∀ rest, '%' :: rest <:+ t → ∃ e ∈ escapes, e <+: '%' :: rest

theorem wellEscaped_nil : WellEscaped [] := by
  refine ⟨⟨List.not_mem_nil, List.not_mem_nil⟩, ?_⟩
  intro rest h
  cases List.suffix_nil.1 h

/-- What is asked of a text is asked of its first character and of the rest. -/
theorem wellEscaped_cons_iff {c : Char} {t : List Char} :
    WellEscaped (c :: t)
      ↔ (c ≠ '\n' ∧ c ≠ '\r') ∧ (c = '%' → ∃ e ∈ escapes, e <+: c :: t) ∧ WellEscaped t := by
  constructor
  · intro h
    obtain ⟨hend, hreturn⟩ := h.lineEnd
    rw [List.mem_cons, not_or] at hend hreturn
    refine ⟨⟨Ne.symm hend.1, Ne.symm hreturn.1⟩, ?_, ⟨hend.2, hreturn.2⟩, ?_⟩
    · rintro rfl
      exact h.percent t List.suffix_rfl
    · intro rest hrest
      exact h.percent rest (List.suffix_cons_iff.2 (Or.inr hrest))
  · rintro ⟨⟨hend, hreturn⟩, hbegins, h⟩
    refine ⟨⟨?_, ?_⟩, ?_⟩
    · exact List.not_mem_cons_of_ne_of_not_mem (Ne.symm hend) h.lineEnd.1
    · exact List.not_mem_cons_of_ne_of_not_mem (Ne.symm hreturn) h.lineEnd.2
    · intro rest hrest
      rcases List.suffix_cons_iff.1 hrest with hhere | hlater
      · obtain ⟨rfl, rfl⟩ := List.cons.inj hhere
        exact hbegins rfl
      · exact h.percent rest hlater

/-- A plain character may stand before a text. -/
theorem WellEscaped.cons {c : Char} {t : List Char} (h : WellEscaped t) (hc : Plain c) :
    WellEscaped (c :: t) :=
  wellEscaped_cons_iff.2 ⟨⟨hc.2.2, hc.2.1⟩, fun hpercent => absurd hpercent hc.1, h⟩

/-- An escape may stand before a text. -/
theorem WellEscaped.append_of_mem_escapes {e t : List Char} (h : WellEscaped t)
    (he : e ∈ escapes) : WellEscaped (e ++ t) := by
  have hbegins : ∃ e' ∈ escapes, e' <+: e ++ t := ⟨e, he, List.prefix_append e t⟩
  simp only [escapes, List.mem_cons, List.not_mem_nil, or_false] at he
  -- behind its percent sign an escape has two plain characters
  rcases he with rfl | rfl | rfl
  all_goals
    exact wellEscaped_cons_iff.2
      ⟨by decide, fun _ => hbegins, (h.cons (by decide)).cons (by decide)⟩

/-- What stands for a character may stand before a text. -/
theorem WellEscaped.append_escapedChar {t : List Char} (h : WellEscaped t) (c : Char) :
    WellEscaped (escapedChar c ++ t) := by
  rcases escaped_or_plain c with rfl | rfl | rfl | hplain
  · exact h.append_of_mem_escapes (by decide)
  · exact h.append_of_mem_escapes (by decide)
  · exact h.append_of_mem_escapes (by decide)
  · rw [escapedChar_of_plain hplain]
    exact h.cons hplain

/-- **Escaping leaves no line end, and every percent sign begins an escape.** -/
theorem wellEscaped_escape (cs : List Char) : WellEscaped (escape cs) := by
  induction cs with
  | nil => exact wellEscaped_nil
  | cons c rest ih =>
    rw [escape_cons]
    exact ih.append_escapedChar c

/-- **An escaped text holds no line end.** -/
theorem lineEnd_notMem_escape (cs : List Char) : '\n' ∉ escape cs ∧ '\r' ∉ escape cs :=
  (wellEscaped_escape cs).lineEnd

/-! ## Which texts are escaped ones -/

/-- What stands behind an escape is as escaping leaves it. -/
theorem WellEscaped.of_suffix {t u : List Char} (h : WellEscaped u) (hsuffix : t <:+ u) :
    WellEscaped t := by
  refine ⟨⟨fun hmem => h.lineEnd.1 (hsuffix.subset hmem),
    fun hmem => h.lineEnd.2 (hsuffix.subset hmem)⟩, ?_⟩
  intro rest hrest
  exact h.percent rest (hrest.trans hsuffix)

/-- **A text without line ends, in which every percent sign begins an escape, is the escape of what
it says.** The induction is on the pass: it never meets a percent sign that it leaves as it is. -/
theorem escape_unescape {t : List Char} (h : WellEscaped t) : escape (unescape t) = t := by
  fun_induction unescape t with
  | case1 rest ih =>
    rw [escape_cons, ih (h.of_suffix (List.suffix_append ['%', '2', '5'] rest))]
    rfl
  | case2 rest ih =>
    rw [escape_cons, ih (h.of_suffix (List.suffix_append ['%', '0', 'D'] rest))]
    rfl
  | case3 rest ih =>
    rw [escape_cons, ih (h.of_suffix (List.suffix_append ['%', '0', 'A'] rest))]
    rfl
  | case4 c rest hnoPercent hnoReturn hnoEnd ih =>
    obtain ⟨⟨hend, hreturn⟩, hbegins, hrest⟩ := wellEscaped_cons_iff.1 h
    have hpercent : c ≠ '%' := by
      intro hc
      obtain ⟨e, he, later, hlater⟩ := hbegins hc
      simp only [escapes, List.mem_cons, List.not_mem_nil, or_false] at he
      rcases he with rfl | rfl | rfl
      · exact hnoPercent later hc (List.cons.inj hlater).2.symm
      · exact hnoReturn later hc (List.cons.inj hlater).2.symm
      · exact hnoEnd later hc (List.cons.inj hlater).2.symm
    rw [escape_cons, escapedChar_of_plain ⟨hpercent, hreturn, hend⟩, List.singleton_append,
      ih hrest]
  | case5 => rfl

/-- Escaping gives exactly the texts that are well escaped and say what was escaped. -/
theorem escape_eq_iff {cs t : List Char} :
    escape cs = t ↔ WellEscaped t ∧ unescape t = cs := by
  constructor
  · rintro rfl
    exact ⟨wellEscaped_escape cs, unescape_escape cs⟩
  · rintro ⟨h, rfl⟩
    exact escape_unescape h

/-! ## One sign after the other -/

/-- A text with one sign replaced throughout: it is cut at the sign, and its parts are joined again
by what is put in. -/
def replaceSign (c : Char) (code cs : List Char) : List Char := code.intercalate (cs.splitOn c)

/-- Replacing goes character by character. -/
theorem replaceSign_cons (c : Char) (code : List Char) (d : Char) (cs : List Char) :
    replaceSign c code (d :: cs) = (if d = c then code else [d]) ++ replaceSign c code cs := by
  obtain ⟨first, others, hparts⟩ := List.exists_cons_of_ne_nil (List.splitOn_ne_nil c cs)
  unfold replaceSign
  rw [List.splitOn_cons_eq_if_modifyHead, hparts]
  by_cases hd : d = c
  · rw [if_pos (beq_iff_eq.2 hd), if_pos hd, List.intercalate_cons_cons, List.nil_append]
  · rw [if_neg (mt beq_iff_eq.1 hd), if_neg hd, List.modifyHead_cons, List.singleton_append,
      List.intercalate_cons_cons_left]

/-- A replaced text is put together from what stands for each character. -/
theorem replaceSign_eq_flatMap (c : Char) (code cs : List Char) :
    replaceSign c code cs = cs.flatMap fun d => if d = c then code else [d] := by
  induction cs with
  | nil => rfl
  | cons d rest ih => rw [replaceSign_cons, ih, List.flatMap_cons]

/-- **Escaping replaces the percent sign, then the carriage return, then the line feed.** No escape
holds a sign that is replaced after it. -/
theorem escape_eq_replaceSign (cs : List Char) :
    escape cs
      = replaceSign '\n' ['%', '0', 'A']
          (replaceSign '\r' ['%', '0', 'D'] (replaceSign '%' ['%', '2', '5'] cs)) := by
  rw [replaceSign_eq_flatMap, replaceSign_eq_flatMap, replaceSign_eq_flatMap, List.flatMap_assoc,
    List.flatMap_assoc, escape]
  congr 1
  funext c
  rcases escaped_or_plain c with rfl | rfl | rfl | hplain
  · rfl
  · rfl
  · rfl
  · simp only [escapedChar_of_plain hplain, if_neg hplain.1, if_neg hplain.2.1,
      if_neg hplain.2.2, List.flatMap_cons, List.flatMap_nil, List.append_nil]

/-- In another order escapes are escaped again, and two texts become the same. -/
example :
    let percentLast := fun cs =>
      replaceSign '%' ['%', '2', '5'] (replaceSign '\n' ['%', '0', 'A'] cs)
    percentLast ['\n'] = percentLast ['%', '0', 'A'] := by
  decide

/-! ## Texts -/

/-- What an escaped text says. -/
def unescaped (t : String) : String := String.ofList (unescape t.toList)

/-- **Escaping is reversible.** It replaces the percent sign, the carriage return and the line feed
throughout, one after the other. A text is the escape of another exactly if it holds no line end,
each percent sign in it begins an escape, and one pass from the left that reads the escapes gives
the other text. So different texts have different escapes. -/
theorem escaped_reversible :
    (∀ s : String, (escaped s).toList
        = replaceSign '\n' ['%', '0', 'A']
            (replaceSign '\r' ['%', '0', 'D'] (replaceSign '%' ['%', '2', '5'] s.toList)))
      ∧ (∀ s t : String, escaped s = t ↔ WellEscaped t.toList ∧ unescaped t = s)
      ∧ Function.Injective escaped := by
  have hiff : ∀ s t : String, escaped s = t ↔ WellEscaped t.toList ∧ unescaped t = s := by
    intro s t
    rw [← String.toList_inj, ← String.toList_inj, escaped, unescaped, String.toList_ofList,
      String.toList_ofList]
    exact escape_eq_iff
  refine ⟨?_, hiff, ?_⟩
  · intro s
    rw [escaped, String.toList_ofList, escape_eq_replaceSign]
  · intro s other h
    rw [← String.toList_inj, escaped, escaped, String.toList_ofList, String.toList_ofList] at h
    exact String.toList_inj.1 (escape_injective h)

/-- Text that looks like an escape is escaped itself. -/
example : escaped "%0A%250D\r\n" = "%250A%25250D%0D%0A" := by decide

end DocCoverage.Annotation
