/-
What can be told from a report in annotations. Every message and every path that does not exist is
escaped, so it stays on its line and can be read back. The name of a finding's file is not escaped.
It is followed by a mark, which holds the line number, and the message begins behind the mark: a
line end in the name breaks the annotation in two, and a mark in the name may be taken for the one
behind it.

These are the only two things that go wrong. The argument is about where marks stand: a mark begins
with a comma and has no other comma, so two marks in one text never overlap, and where two
annotations read alike, either their marks stand in the same place or the file of one goes on
through the whole mark of the other.
-/
import DocCoverage.Proofs.Report.Escapes
import Mathlib

set_option autoImplicit false

namespace DocCoverage

namespace Annotation

/-! ## Marks -/

/-- The mark behind the name of a file, which holds the number of the line. -/
def lineMark (n : Int) : List Char := ",line=".toList ++ ((toString n).toList ++ "::".toList)

/-- A number is written in digits, with a minus sign at most. -/
theorem notMem_number (n : Int) {c : Char} (hdigit : c.isDigit = false) (hminus : c ≠ '-') :
    c ∉ (toString n).toList := by
  have hdigits : ∀ m : Nat, c ∉ m.repr.toList := by
    intro m h
    rw [Nat.toList_repr] at h
    rw [Nat.isDigit_of_mem_toDigits (by omega) (Nat.le_refl 10) h] at hdigit
    cases hdigit
  rw [Int.toString_eq_repr, Int.repr_eq_if]
  by_cases hsign : 0 ≤ n
  · rw [if_pos hsign]
    exact hdigits n.toNat
  · have hsingle : "-".toList = ['-'] := rfl
    rw [if_neg hsign, String.toList_append, hsingle, List.singleton_append, List.mem_cons, not_or]
    exact ⟨hminus, hdigits (-n).toNat⟩

/-- A mark begins with its only comma. -/
theorem lineMark_eq_cons (n : Int) : ∃ rest, lineMark n = ',' :: rest ∧ ',' ∉ rest := by
  refine ⟨"line=".toList ++ ((toString n).toList ++ "::".toList), rfl, ?_⟩
  have hword : ',' ∉ "line=".toList := by decide
  have hcolons : ',' ∉ "::".toList := by decide
  simp only [List.mem_append, not_or]
  exact ⟨hword, notMem_number n (by decide) (by decide), hcolons⟩

/-- A mark holds no line end. -/
theorem lineEnd_notMem_lineMark (n : Int) : '\n' ∉ lineMark n ∧ '\r' ∉ lineMark n := by
  have hwords : ('\n' ∉ ",line=".toList ∧ '\r' ∉ ",line=".toList)
      ∧ ('\n' ∉ "::".toList ∧ '\r' ∉ "::".toList) := by decide
  obtain ⟨⟨hend, hreturn⟩, hend', hreturn'⟩ := hwords
  unfold lineMark
  simp only [List.mem_append, not_or]
  exact ⟨⟨hend, notMem_number n (by decide) (by decide), hend'⟩,
    hreturn, notMem_number n (by decide) (by decide), hreturn'⟩

/-- Two texts that go on to the same sign, and do not have it before, are the same. -/
theorem eq_of_append_cons {c : Char} {cs others rest later : List Char} (hcs : c ∉ cs)
    (hothers : c ∉ others) (h : cs ++ c :: rest = others ++ c :: later) :
    cs = others ∧ rest = later := by
  have hhead : ∀ {front behind : List Char}, c ∉ front →
      (front ++ c :: behind).takeWhile (· != c) = front := by
    intro front behind hfront
    rw [List.takeWhile_append_of_pos]
    · simp only [List.takeWhile_cons, bne_self_eq_false, Bool.false_eq_true, if_false,
        List.append_nil]
    · intro d hd
      rw [bne_iff_ne]
      exact fun heq => hfront (heq ▸ hd)
  have hsame : cs = others := by
    rw [← hhead hcs, h, hhead hothers]
  subst hsame
  exact ⟨rfl, (List.cons.inj (List.append_cancel_left h)).2⟩

/-- What begins with a mark tells the number and what follows. -/
theorem lineMark_append_inj {n m : Int} {rest later : List Char}
    (h : lineMark n ++ rest = lineMark m ++ later) : n = m ∧ rest = later := by
  unfold lineMark at h
  rw [List.append_assoc, List.append_assoc, List.append_assoc, List.append_assoc] at h
  -- the numbers end at the first colon behind them
  obtain ⟨hnumber, hbehind⟩ :=
    eq_of_append_cons (notMem_number n (by decide) (by decide))
      (notMem_number m (by decide) (by decide)) (List.append_cancel_left h)
  rw [Int.toString_eq_repr, Int.toString_eq_repr] at hnumber
  exact ⟨Int.repr_injective (String.toList_injective hnumber), (List.cons.inj hbehind).2⟩

/-- **Marks do not overlap.** Where a mark stands at the beginning of a text, another mark of the
text stands at its beginning as well, or behind the first one. -/
theorem lineMark_cases {n m : Int} {between rest later : List Char}
    (h : lineMark n ++ rest = between ++ (lineMark m ++ later)) :
    (between = [] ∧ n = m ∧ rest = later)
      ∨ ∃ inside, between = lineMark n ++ inside ∧ rest = inside ++ (lineMark m ++ later) := by
  rcases List.append_eq_append_iff.1 h with ⟨inside, hbetween, hrest⟩ | ⟨left, hmark, hlater⟩
  · exact Or.inr ⟨inside, hbetween, hrest⟩
  · cases between with
    | nil =>
      obtain ⟨hnumber, hrest⟩ := lineMark_append_inj h
      exact Or.inl ⟨rfl, hnumber, hrest⟩
    | cons c between =>
      cases left with
      | nil =>
        right
        rw [List.append_nil] at hmark
        exact ⟨[], by rw [List.append_nil, hmark], hlater.symm⟩
      | cons d left =>
        -- the second mark would have to begin at a later comma of the first one
        obtain ⟨inner, hcomma, hno⟩ := lineMark_eq_cons n
        obtain ⟨inner', hcomma', -⟩ := lineMark_eq_cons m
        rw [hcomma, List.cons_append] at hmark
        rw [hcomma', List.cons_append, List.cons_append] at hlater
        have hd : d = ',' := (List.cons.inj hlater).1.symm
        refine absurd ?_ hno
        rw [(List.cons.inj hmark).2, hd]
        exact List.mem_append_right _ List.mem_cons_self

/-! ## Annotations for findings -/

/-- What stands before the name of the file. -/
def warningHead : List Char := "::warning file=".toList

/-- An annotation is a head, the name of the file, the mark and the escaped message. -/
theorem toList_ofFinding (f : Finding) :
    (ofFinding f).toList
      = warningHead ++ (f.file.toList ++ (lineMark f.line ++ escape f.message.toList)) := by
  unfold ofFinding escaped warningHead lineMark
  simp only [String.toList_append, String.toList_ofList, List.append_assoc]

end Annotation

namespace Finding

open Annotation

/-- **The file of a finding swallows the mark of another one:** its name is the name of the other
file and goes on with the mark and the beginning of the message of the other finding, and the
message of the other finding ends like the rest of this one's annotation. -/
def Swallows (g f : Finding) : Prop :=
  ∃ between, g.file.toList = f.file.toList ++ (lineMark f.line ++ between)
    ∧ escape f.message.toList = between ++ (lineMark g.line ++ escape g.message.toList)

/-- **The name of a finding's file can be told:** no mark stands in it. -/
def Unmarked (f : Finding) : Prop :=
  ∀ before n after, f.file.toList ≠ before ++ (lineMark n ++ after)

/-- A file whose name can be told swallows nothing. -/
theorem Unmarked.not_swallows {f g : Finding} (h : g.Unmarked) : ¬ g.Swallows f := by
  rintro ⟨between, hfile, -⟩
  exact h _ _ _ hfile

/-- Findings that agree in all that is printed are the same. -/
theorem eq_of_toList {f g : Finding} (hfile : f.file.toList = g.file.toList)
    (hline : f.line = g.line) (hmessage : f.message.toList = g.message.toList) : f = g := by
  obtain ⟨file, line, message⟩ := f
  obtain ⟨file', line', message'⟩ := g
  rw [Finding.mk.injEq]
  exact ⟨String.toList_injective hfile, hline, String.toList_injective hmessage⟩

end Finding

namespace Annotation

/-- A file that swallows the mark of another finding makes the annotations the same. -/
theorem ofFinding_eq_of_swallows {f g : Finding} (h : g.Swallows f) :
    ofFinding f = ofFinding g := by
  obtain ⟨between, hfile, hmessage⟩ := h
  apply String.toList_injective
  simp only [toList_ofFinding, hfile, hmessage, List.append_assoc]

/-- **Two findings have the same annotation** exactly if they are the same or the file of one
swallows the mark of the other. -/
theorem ofFinding_eq_iff {f g : Finding} :
    ofFinding f = ofFinding g ↔ f = g ∨ g.Swallows f ∨ f.Swallows g := by
  constructor
  · intro h
    have hlist := congrArg String.toList h
    rw [toList_ofFinding, toList_ofFinding] at hlist
    -- one of the two names goes on where the other one ends
    rcases List.append_eq_append_iff.1 (List.append_cancel_left hlist) with
      ⟨between, hfile, hrest⟩ | ⟨between, hfile, hrest⟩
    · rcases lineMark_cases hrest with ⟨rfl, hline, hmessage⟩ | ⟨inside, rfl, hmessage⟩
      · rw [List.append_nil] at hfile
        exact Or.inl (Finding.eq_of_toList hfile.symm hline (escape_injective hmessage))
      · exact Or.inr (Or.inl ⟨inside, hfile, hmessage⟩)
    · rcases lineMark_cases hrest with ⟨rfl, hline, hmessage⟩ | ⟨inside, rfl, hmessage⟩
      · rw [List.append_nil] at hfile
        exact Or.inl (Finding.eq_of_toList hfile hline.symm (escape_injective hmessage.symm))
      · exact Or.inr (Or.inr ⟨inside, hfile, hmessage⟩)
  · rintro (rfl | hswallows | hswallows)
    · rfl
    · exact ofFinding_eq_of_swallows hswallows
    · exact (ofFinding_eq_of_swallows hswallows).symm

/-- **A finding can be told from its annotation,** as long as no mark stands in the names of
files. -/
theorem ofFinding_injOn {f g : Finding} (hf : f.Unmarked) (hg : g.Unmarked)
    (h : ofFinding f = ofFinding g) : f = g := by
  rcases ofFinding_eq_iff.1 h with heq | hswallows | hswallows
  · exact heq
  · exact absurd hswallows hg.not_swallows
  · exact absurd hswallows hf.not_swallows

/-! ## Lines -/

/-- The annotation for a missing path stays on its line. -/
theorem lineEnd_notMem_ofMissing (path : Path) :
    '\n' ∉ (ofMissing path).toList ∧ '\r' ∉ (ofMissing path).toList := by
  have hhead : '\n' ∉ "::error::".toList ∧ '\r' ∉ "::error::".toList := by decide
  obtain ⟨hend, hreturn⟩ := lineEnd_notMem_escape (missingPathText path).toList
  simp only [ofMissing, escaped, String.toList_append, String.toList_ofList, List.mem_append,
    not_or]
  exact ⟨⟨hhead.1, hend⟩, hhead.2, hreturn⟩

/-- **Line ends in the annotation for a finding** are those in the name of its file. -/
theorem lineEnd_mem_ofFinding_iff {c : Char} (hc : c = '\n' ∨ c = '\r') (f : Finding) :
    c ∈ (ofFinding f).toList ↔ c ∈ f.file.toList := by
  have hhead : '\n' ∉ warningHead ∧ '\r' ∉ warningHead := by decide
  have hmark := lineEnd_notMem_lineMark f.line
  have hmessage := lineEnd_notMem_escape f.message.toList
  have hother : c ∉ warningHead ∧ c ∉ lineMark f.line ∧ c ∉ escape f.message.toList := by
    rcases hc with rfl | rfl
    · exact ⟨hhead.1, hmark.1, hmessage.1⟩
    · exact ⟨hhead.2, hmark.2, hmessage.2⟩
  rw [toList_ofFinding, List.mem_append, List.mem_append, List.mem_append,
    or_iff_right hother.1, or_iff_left]
  exact not_or.2 hother.2

end Annotation

/-! ## Reports -/

namespace Report

open Annotation

/-- The annotations of a report, one for each missing path and one for each finding, in order. -/
def annotationLines (r : Report) : List (List Char) :=
  (r.missing.map ofMissing ++ r.findings.map ofFinding).map String.toList

theorem toList_annotations (r : Report) :
    r.annotations.toList = ['\n'].intercalate r.annotationLines := by
  unfold annotations
  rw [String.toList_intercalate]
  rfl

/-- No annotation holds a line end exactly if no name of a file does. -/
theorem lineEnd_notMem_annotationLines_iff {c : Char} (hc : c = '\n' ∨ c = '\r') (r : Report) :
    (∀ line ∈ r.annotationLines, c ∉ line) ↔ ∀ f ∈ r.findings, c ∉ f.file.toList := by
  have hmissing : ∀ path, c ∉ (ofMissing path).toList := by
    intro path
    rcases hc with rfl | rfl
    · exact (lineEnd_notMem_ofMissing path).1
    · exact (lineEnd_notMem_ofMissing path).2
  simp only [annotationLines, List.map_append, List.map_map, List.forall_mem_append,
    List.forall_mem_map, Function.comp_apply, lineEnd_mem_ofFinding_iff hc, hmissing,
    not_false_eq_true, implies_true, true_and]

/-- Nothing that is cut out between two signs holds the sign. -/
theorem notMem_of_mem_splitOn {c : Char} {cs part : List Char} (h : part ∈ cs.splitOn c) :
    c ∉ part := by
  induction cs generalizing part with
  | nil =>
    rw [List.splitOn_nil, List.mem_singleton] at h
    rw [h]
    exact List.not_mem_nil
  | cons d rest ih =>
    rw [List.splitOn_cons_eq_if_modifyHead] at h
    by_cases hd : d = c
    · rw [if_pos (beq_iff_eq.2 hd)] at h
      rcases List.mem_cons.1 h with rfl | hlater
      · exact List.not_mem_nil
      · exact ih hlater
    · rw [if_neg (mt beq_iff_eq.1 hd)] at h
      obtain ⟨first, others, hparts⟩ := List.exists_cons_of_ne_nil (List.splitOn_ne_nil c rest)
      rw [hparts, List.modifyHead_cons] at h
      rcases List.mem_cons.1 h with rfl | hlater
      · rw [List.mem_cons, not_or]
        exact ⟨fun heq => hd heq.symm, ih (hparts ▸ List.mem_cons_self)⟩
      · exact ih (hparts ▸ List.mem_cons_of_mem first hlater)

/-- **A report has one line for each annotation** exactly if no name of a file holds a line end. -/
theorem splitOn_annotations_iff {r : Report} (hsome : r.missing ≠ [] ∨ r.findings ≠ []) :
    r.annotations.toList.splitOn '\n' = r.annotationLines
      ↔ ∀ f ∈ r.findings, '\n' ∉ f.file.toList := by
  rw [← lineEnd_notMem_annotationLines_iff (Or.inl rfl)]
  constructor
  · intro h line hline
    rw [← h] at hline
    exact notMem_of_mem_splitOn hline
  · intro h
    rw [toList_annotations]
    apply List.splitOn_intercalate '\n' h
    simp only [annotationLines, ne_eq, List.map_eq_nil_iff, List.append_eq_nil_iff, not_and_or]
    exact hsome

/-- A warning is told from an error by its head. -/
theorem warningHead_isPrefixOf :
    (∀ f, warningHead.isPrefixOf (ofFinding f).toList = true)
      ∧ ∀ path, warningHead.isPrefixOf (ofMissing path).toList = false := by
  constructor
  · intro f
    rw [toList_ofFinding, List.isPrefixOf_iff_prefix]
    exact List.prefix_append _ _
  · intro path
    unfold ofMissing
    rw [String.toList_append]
    rfl

/-- Findings whose files' names hold no marks are told from their annotations. -/
theorem eq_of_map_ofFinding {fs gs : List Finding} (hfs : ∀ f ∈ fs, f.Unmarked)
    (hgs : ∀ g ∈ gs, g.Unmarked) (h : fs.map ofFinding = gs.map ofFinding) : fs = gs := by
  induction fs generalizing gs with
  | nil =>
    rw [List.map_nil] at h
    exact (List.map_eq_nil_iff.1 h.symm).symm
  | cons f fs ih =>
    cases gs with
    | nil => cases h
    | cons g gs =>
      obtain ⟨hf, hfs⟩ := List.forall_mem_cons.1 hfs
      obtain ⟨hg, hgs⟩ := List.forall_mem_cons.1 hgs
      rw [List.map_cons, List.map_cons, List.cons.injEq] at h
      rw [ofFinding_injOn hf hg h.1, ih hfs hgs h.2]

/-- The findings of a report are told from its annotations. -/
theorem findings_eq_of_annotationLines {r other : Report}
    (hr : ∀ f ∈ r.findings, f.Unmarked) (hother : ∀ f ∈ other.findings, f.Unmarked)
    (h : r.annotationLines = other.annotationLines) : r.findings = other.findings := by
  have hwarnings : ∀ s : Report,
      ((s.missing.map ofMissing ++ s.findings.map ofFinding).filter
        fun line => warningHead.isPrefixOf line.toList) = s.findings.map ofFinding := by
    intro s
    obtain ⟨hfinding, hmissing⟩ := warningHead_isPrefixOf
    simp only [List.filter_append, List.filter_map, Function.comp_def, hfinding, hmissing,
      List.filter_true, List.filter_false, List.map_nil, List.nil_append]
  have hlines := List.map_injective_iff.2 (fun _ _ => String.toList_injective) h
  apply eq_of_map_ofFinding hr hother
  rw [← hwarnings r, hlines, hwarnings other]

/-- **What a report in annotations tells.** It has exactly one line for each missing path and each
finding, in order and without a carriage return, exactly if no name of a file holds a line end. Two
findings have the same line exactly if the file of one swallows the mark of the other. So from names
that hold neither line ends nor marks the findings can be told. -/
theorem annotations_tell (r : Report) (hsome : r.missing ≠ [] ∨ r.findings ≠ []) :
    ((r.annotations.toList.splitOn '\n' = r.annotationLines
        ∧ ∀ line ∈ r.annotationLines, '\r' ∉ line)
      ↔ ∀ f ∈ r.findings, '\n' ∉ f.file.toList ∧ '\r' ∉ f.file.toList)
    ∧ (∀ f g : Finding, ofFinding f = ofFinding g ↔ f = g ∨ g.Swallows f ∨ f.Swallows g)
    ∧ ∀ other : Report, (other.missing ≠ [] ∨ other.findings ≠ []) →
      (∀ f ∈ r.findings ++ other.findings, '\n' ∉ f.file.toList ∧ f.Unmarked) →
      r.annotations = other.annotations → r.findings = other.findings := by
  refine ⟨?_, fun f g => ofFinding_eq_iff, ?_⟩
  · rw [splitOn_annotations_iff hsome, lineEnd_notMem_annotationLines_iff (Or.inr rfl)]
    exact forall₂_and.symm
  · intro other hsome' hnames h
    obtain ⟨hr, hother⟩ := List.forall_mem_append.1 hnames
    have hlines : r.annotationLines = other.annotationLines := by
      rw [← (splitOn_annotations_iff hsome).2 fun f hf => (hr f hf).1, h,
        (splitOn_annotations_iff hsome').2 fun f hf => (hother f hf).1]
    exact findings_eq_of_annotationLines (fun f hf => (hr f hf).2) (fun f hf => (hother f hf).2)
      hlines

/-- Names with commas and percent signs are told as well. -/
theorem annotations_tell_of_commas :
    let r : Report :=
      { settings := .default, missing := [{ parts := ["x"] }]
        findings := [⟨"a,b%.php", 1, "50%\r\nof it"⟩] }
    (r.missing ≠ [] ∨ r.findings ≠ [])
      ∧ r.annotations.toList.splitOn '\n'
        = ["::error::File or directory `x` does not exist.".toList,
          "::warning file=a,b%.php,line=1::50%25%0D%0Aof it".toList] := by
  refine ⟨Or.inr (List.cons_ne_nil _ _), ?_⟩
  refine ((annotations_tell _ (Or.inr (List.cons_ne_nil _ _))).1.2 ?_).1.trans (by decide)
  decide

/-- **A name that is not escaped breaks its annotation:** a line end makes two lines of it, and a
mark lets it be read as that of another finding. -/
theorem annotations_broken_by_names :
    let broken : Report := { settings := .default, findings := [⟨"a\nb.php", 1, "c"⟩] }
    let short : Report := { settings := .default, findings := [⟨"a", 1, "b,line=2::c"⟩] }
    let long : Report := { settings := .default, findings := [⟨"a,line=1::b", 2, "c"⟩] }
    broken.annotations.toList.splitOn '\n' ≠ broken.annotationLines
      ∧ short.findings ≠ long.findings ∧ short.annotations = long.annotations := by
  decide

end Report

end DocCoverage
