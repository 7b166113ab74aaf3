/-
Which files an accepted suffix selects. A suffix is accepted if it begins with a dot, but it is held
against the suffix of a name, which begins with the last dot of the name. So a suffix with a single
dot selects all that is named by it, whatever the case of its letters, and a suffix with more dots
selects nothing at all: a file that is named by it is listed only if some other suffix selects it.

The two sides meet in the number of dots. Lower-case forms have as many dots as what they are made
from, and the suffix of a name never has more than one.
-/
import DocCoverage.Proofs.Files.Listing
import DocCoverage.Proofs.Text.LowerCase
import Mathlib

set_option autoImplicit false

namespace DocCoverage

/-! ## Suffixes of names -/

namespace Path

/-- **The suffix of a name begins with its last dot,** unless that is its first or last
character. -/
theorem suffixOf_of_last_dot {name : String} {front tail : List Char}
    (hname : name.toList = front ++ '.' :: tail) (hfront : front ≠ []) (htail : tail ≠ [])
    (hlast : '.' ∉ tail) : suffixOf name = String.ofList ('.' :: tail) := by
  have hlength : name.length = front.length + tail.length + 1 := by
    rw [← String.length_toList, hname, List.length_append, List.length_cons]
    omega
  have hafter : name.toList.reverse.takeWhile (· != '.') = tail.reverse := by
    rw [hname, List.reverse_append, List.reverse_cons, List.append_assoc,
      List.takeWhile_append_of_pos]
    · simp only [List.singleton_append, List.takeWhile_cons, bne_self_eq_false,
        Bool.false_eq_true, if_false, List.append_nil]
    · intro c hc
      rw [bne_iff_ne]
      rintro rfl
      exact hlast (List.mem_reverse.1 hc)
  have hfront' := List.length_pos_iff.2 hfront
  unfold suffixOf
  dsimp only
  rw [hafter, if_neg, List.reverse_reverse]
  simp only [List.isEmpty_reverse, List.isEmpty_iff, htail, List.length_reverse, hlength,
    Bool.or_eq_true, decide_eq_true_eq, false_or, not_or]
  omega

/-- **The suffix of a name has one dot at most.** -/
theorem count_dot_suffixOf (name : String) : (suffixOf name).toList.count '.' ≤ 1 := by
  unfold suffixOf
  dsimp only
  split
  · exact Nat.zero_le 1
  · have hnone : (name.toList.reverse.takeWhile (· != '.')).reverse.count '.' = 0 := by
      rw [List.count_eq_zero, List.mem_reverse]
      intro hmem
      have hdot := List.mem_takeWhile_imp hmem
      rw [bne_self_eq_false] at hdot
      cases hdot
    rw [String.toList_ofList, List.count_cons_self, hnone]

/-- The last name of the path of an entry is that of the entry. -/
theorem name_child (p : Path) (name : String) : (p.child name).name = name := by
  unfold Path.name child
  rw [List.getLast?_concat, Option.getD_some]

end Path

/-! ## Names made with a suffix -/

/-- **A name is made with a suffix:** behind a stem it has the suffix, upper and lower case being
the same. -/
def MadeWith (suffix name : String) : Prop :=
  ∃ stem variant, stem ≠ "" ∧ Text.lower variant = Text.lower suffix ∧ name = stem ++ variant

section Suffix

variable {suffix name : String}

/-- A text that begins with a dot is not without dots. -/
theorem exists_cons_of_dotted (hdotted : suffix.startsWith "." = true) :
    ∃ rest, suffix.toList = '.' :: rest := by
  obtain ⟨rest, hrest⟩ := String.startsWith_string_iff.1 hdotted
  exact ⟨rest, hrest.symm⟩

/-- **A suffix with a single dot is the suffix of every name made with it,** but for the case of its
letters. -/
theorem lower_suffixOf_of_single (hdotted : suffix.startsWith "." = true) (hlong : suffix ≠ ".")
    (hsingle : suffix.toList.count '.' = 1) (hmade : MadeWith suffix name) :
    Text.lower (Path.suffixOf name) = Text.lower suffix := by
  obtain ⟨stem, variant, hstem, hvariant, rfl⟩ := hmade
  obtain ⟨rest, hrest⟩ := exists_cons_of_dotted hdotted
  have hsome : rest ≠ [] := by
    rintro rfl
    exact hlong (String.toList_injective hrest)
  -- the variant begins with a dot, and it has no other one
  have hlower := congrArg String.toList hvariant
  rw [Text.lower, Text.lower, String.toList_ofList, String.toList_ofList, hrest,
    Text.lowerAfter_dot_cons] at hlower
  obtain ⟨tail, htail, hforms⟩ := Text.exists_of_lowerAfter_eq_dot_cons hlower
  have htail' : tail ≠ [] := by
    rintro rfl
    exact hsome (Text.lowerAfter_eq_nil_iff.1 hforms.symm)
  have hlast : '.' ∉ tail := by
    have hcount : variant.toList.count '.' = 1 := by
      rw [← Text.count_dot_lower, hvariant, Text.count_dot_lower, hsingle]
    rw [htail, List.count_cons_self] at hcount
    exact List.count_eq_zero.1 (by omega)
  have hsuffix : Path.suffixOf (stem ++ variant) = String.ofList ('.' :: tail) := by
    apply Path.suffixOf_of_last_dot _ _ htail' hlast
    · exact stem.toList
    · rw [String.toList_append, htail]
    · exact fun hnil => hstem (String.toList_injective hnil)
  rw [hsuffix, ← htail, String.ofList_toList, hvariant]

/-- **A suffix with more dots is the suffix of no name.** -/
theorem lower_suffixOf_ne_of_more (hdotted : suffix.startsWith "." = true)
    (hmore : suffix.toList.count '.' ≠ 1) (name : String) :
    Text.lower (Path.suffixOf name) ≠ Text.lower suffix := by
  intro h
  have hcount : (Path.suffixOf name).toList.count '.' = suffix.toList.count '.' := by
    rw [← Text.count_dot_lower, h, Text.count_dot_lower]
  obtain ⟨rest, hrest⟩ := exists_cons_of_dotted hdotted
  have hmost := Path.count_dot_suffixOf name
  rw [hrest, List.count_cons_self] at hcount hmore
  omega

/-- **A name made with an accepted suffix is wanted** exactly if the suffix has no other dot, or
another accepted suffix is the suffix of the name. -/
theorem suffixWanted_iff_of_madeWith {suffixes : List String}
    (hdotted : ∀ other ∈ suffixes, other.startsWith "." = true) (hsuffix : suffix ∈ suffixes)
    (hlong : suffix ≠ ".") (hmade : MadeWith suffix name) :
    suffixWanted suffixes name = true
      ↔ suffix.toList.count '.' = 1 ∨ ∃ other ∈ suffixes, other ≠ suffix
        ∧ Text.lower (Path.suffixOf name) = Text.lower other := by
  unfold suffixWanted
  simp only [List.any_eq_true, beq_iff_eq]
  constructor
  · rintro ⟨other, hother, hsame⟩
    by_cases hsingle : suffix.toList.count '.' = 1
    · exact Or.inl hsingle
    · refine Or.inr ⟨other, hother, ?_, hsame⟩
      rintro rfl
      exact lower_suffixOf_ne_of_more (hdotted other hother) hsingle name hsame
  · rintro (hsingle | ⟨other, hother, -, hsame⟩)
    · exact ⟨suffix, hsuffix,
        lower_suffixOf_of_single (hdotted suffix hsuffix) hlong hsingle hmade⟩
    · exact ⟨other, hother, hsame⟩

end Suffix

/-! ## Listings -/

variable {fs : FileSystem} {root directory path : Path} {suffixes patterns : List String}
  {followLinks : Bool}

/-- Patterns that are all held against a path are texts. -/
theorem exists_texts_of_isExcluded {items : List Value}
    (h : isExcluded root items path = .ok false) :
    ∃ patterns : List String, items = patterns.map .text := by
  induction items with
  | nil => exact ⟨[], rfl⟩
  | cons item rest ih =>
    unfold isExcluded at h ih
    cases item with
    | text pattern =>
      rw [anyValue] at h
      dsimp only at h
      cases hmatch : (exclusionCandidates root path).any (Glob.isMatch pattern) with
      | true =>
        rw [hmatch] at h
        cases h
      | false =>
        rw [hmatch] at h
        obtain ⟨patterns, rfl⟩ := ih h
        exact ⟨pattern :: patterns, rfl⟩
    | null | bool b | int n | list items | table entries | literal kind written => cases h

namespace Selection

/-- Where entries are chosen, there is a verdict on every one of them. -/
theorem exists_accepts_of_filter {selection : Selection} {paths chosen : List Path}
    (h : selection.filter fs root paths = .ok chosen) :
    ∀ path ∈ paths, ∃ accepted, selection.accepts fs root path = .ok accepted := by
  induction paths generalizing chosen with
  | nil =>
    intro path hpath
    cases hpath
  | cons first rest ih =>
    rw [filter] at h
    cases hfirst : selection.accepts fs root first with
    | error f =>
      rw [hfirst] at h
      cases h
    | ok accepted =>
      cases hrest : selection.filter fs root rest with
      | error f =>
        rw [hfirst, hrest] at h
        cases h
      | ok others => exact List.forall_mem_cons.2 ⟨⟨accepted, hfirst⟩, ih hrest⟩

/-- **What is chosen** is what is accepted. -/
theorem mem_filter_iff {selection : Selection} {paths chosen : List Path}
    (h : selection.filter fs root paths = .ok chosen) {path : Path} :
    path ∈ chosen ↔ path ∈ paths ∧ selection.accepts fs root path = .ok true := by
  have hchosen := h.symm.trans (selection.filter_eq (exists_accepts_of_filter h))
  obtain rfl := Except.ok.inj hchosen
  rw [List.mem_filter]
  refine and_congr_right fun hpath => ?_
  obtain ⟨accepted, haccepts⟩ := exists_accepts_of_filter h path hpath
  unfold keeps
  rw [haccepts]
  simp only [Except.ok.injEq]

end Selection

/-- A directory that can be listed is chosen from. -/
theorem listDirectory_of_list {names : List String} {extensions excluded : Value} (root : Path)
    (hlist : fs.list directory = .ok names)
    (hsuffixes : extensions.elements = .ok (suffixes.map .text))
    (hpatterns : excluded.elements = .ok (patterns.map .text)) :
    listDirectory fs directory root extensions excluded followLinks
      = (Selection.ofTexts suffixes patterns followLinks).filter fs root
          (sortedEntries directory names) := by
  unfold listDirectory
  rw [hlist, hsuffixes, hpatterns]
  rfl

/-- **A file that is named by a suffix** and that nothing excludes, in a directory that can be
listed. -/
structure NamedBySuffix (fs : FileSystem) (settings : Settings) (root directory : Path)
    (suffix name : String) : Prop where
  listed : ∃ names, fs.list directory = .ok names ∧ name ∈ names
  file : fs.isFile? (directory.child name) = .ok true
  made : MadeWith suffix name
  kept : ∃ patterns, (settings.value .excludePatterns).elements = .ok patterns
    ∧ isExcluded root patterns (directory.child name) = .ok false

/-- **Which accepted suffixes select their files.** A file that is named by an accepted suffix is
listed if the suffix has a single dot. If it has more, the suffix selects nothing, and the file is
listed exactly if another accepted suffix is the suffix of its name. There is no listing only where
the operating system refuses to tell what some entry of the directory is. -/
theorem listed_of_accepted_suffix {settings : Settings} {suffix name : String} {items : List Value}
    (haccepted : settings.check = .ok settings)
    (hitems : (settings.value .extensions).elements = .ok items) (hsuffix : .text suffix ∈ items)
    (hlong : suffix ≠ ".") (hnamed : NamedBySuffix fs settings root directory suffix name)
    (followLinks : Bool) :
    (∃ entries, listDirectory fs directory root (settings.value .extensions)
          (settings.value .excludePatterns) followLinks = .ok entries
        ∧ (directory.child name ∈ entries ↔ suffix.toList.count '.' = 1
          ∨ ∃ other, .text other ∈ items ∧ other ≠ suffix
            ∧ Text.lower (Path.suffixOf name) = Text.lower other))
      ∨ ∃ names, fs.list directory = .ok names ∧ ∃ entry ∈ names, ∃ e,
        fs.Refuses (directory.child entry) e
          ∧ listDirectory fs directory root (settings.value .extensions)
            (settings.value .excludePatterns) followLinks = .error (.file e) := by
  obtain ⟨names, hlist, hname⟩ := hnamed.listed
  obtain ⟨excluded, hexcluded, hkept⟩ := hnamed.kept
  obtain ⟨patterns, rfl⟩ := exists_texts_of_isExcluded hkept
  obtain ⟨-, suffixes, hsuffixes, hdotted⟩ :=
    Settings.checkExtensions_eq_ok_iff.1 (Settings.check_eq_ok_iff.1 haccepted).2.1
  obtain rfl := Except.ok.inj (hitems.symm.trans hsuffixes)
  have hmem : ∀ other, Value.text other ∈ suffixes.map Value.text ↔ other ∈ suffixes := by
    intro other
    rw [List.mem_map]
    simp only [Value.text.injEq, exists_eq_right]
  rw [listDirectory_of_list root hlist hsuffixes hexcluded]
  cases hfilter : (Selection.ofTexts suffixes patterns followLinks).filter fs root
      (sortedEntries directory names) with
  | error f =>
    obtain ⟨path, hpath, e, rfl, hrefuses⟩ := Selection.refuses_of_filter hfilter
    obtain ⟨entry, hentry, rfl⟩ := mem_sortedEntries.1 hpath
    exact Or.inr ⟨names, hlist, entry, hentry, e, hrefuses, rfl⟩
  | ok entries =>
    left
    refine ⟨entries, rfl, ?_⟩
    have hout : leftOut patterns root (directory.child name) = false := by
      rw [isExcluded_texts] at hkept
      exact Except.ok.inj hkept
    have haccepts : (Selection.ofTexts suffixes patterns followLinks).accepts fs root
        (directory.child name) = .ok (true && suffixWanted suffixes (directory.child name).name) :=
      Selection.accepts_of_other hout (FileSystem.isDirectory_of_isFile hnamed.file) hnamed.file
    have hentry : directory.child name ∈ sortedEntries directory names :=
      mem_sortedEntries.2 ⟨name, hname, rfl⟩
    rw [Bool.true_and, Path.name_child] at haccepts
    rw [Selection.mem_filter_iff hfilter, haccepts, Except.ok.injEq,
      suffixWanted_iff_of_madeWith hdotted ((hmem suffix).1 hsuffix) hlong hnamed.made]
    simp only [hentry, true_and, hmem]

/-- A directory with one file, whose name has two dots. -/
def FileSystem.oneTemplate : FileSystem where
  root := [("a.blade.PHP", .file [] false)]
  current := []

/-- The settings with suffixes of their own. -/
def Settings.withSuffixes (suffixes : List String) : Settings :=
  Settings.default.set .extensions (.list (suffixes.map .text))

/-- The file is named by the suffix of two dots. -/
theorem namedBySuffix_oneTemplate (suffixes : List String) :
    NamedBySuffix .oneTemplate (.withSuffixes suffixes) ⟨"", []⟩ ⟨"", []⟩ ".blade.php"
      "a.blade.PHP" where
  listed := ⟨["a.blade.PHP"], by cbv, List.mem_cons_self⟩
  file := by cbv
  made := ⟨"a", ".blade.PHP", by decide, by decide +kernel, rfl⟩
  kept := ⟨[.text ".git", .text ".svn", .text ".hg"], rfl, by cbv⟩

/-- The file is listed if the suffix of its name is wanted. -/
theorem listDirectory_oneTemplate (suffixes : List String) :
    let settings := Settings.withSuffixes suffixes
    listDirectory .oneTemplate ⟨"", []⟩ ⟨"", []⟩ (settings.value .extensions)
        (settings.value .excludePatterns) false
      = .ok (if suffixWanted suffixes "a.blade.PHP" then [⟨"", ["a.blade.PHP"]⟩] else []) := by
  intro settings
  have hpatterns : (settings.value .excludePatterns).elements
      = .ok ([".git", ".svn", ".hg"].map .text) := rfl
  have hlist : FileSystem.oneTemplate.list ⟨"", []⟩ = .ok ["a.blade.PHP"] := by cbv
  have hsorted : sortedEntries ⟨"", []⟩ ["a.blade.PHP"] = [⟨"", ["a.blade.PHP"]⟩] := by
    rw [sortedEntries, List.mergeSort_singleton]
    rfl
  have haccepts : (Selection.ofTexts suffixes [".git", ".svn", ".hg"] false).accepts .oneTemplate
      ⟨"", []⟩ ⟨"", ["a.blade.PHP"]⟩ = .ok (true && suffixWanted suffixes "a.blade.PHP") :=
    Selection.accepts_of_other (by cbv) (by cbv) (by cbv)
  rw [listDirectory_of_list _ hlist rfl hpatterns, hsorted, Selection.filter, haccepts]
  cases suffixWanted suffixes "a.blade.PHP" <;> rfl

/-- Next to a suffix with two dots, the last part of it selects the file. -/
theorem listed_of_accepted_suffix_by_last_part :
    let settings := Settings.withSuffixes [".blade.php", ".php"]
    ∃ entries, listDirectory .oneTemplate ⟨"", []⟩ ⟨"", []⟩ (settings.value .extensions)
        (settings.value .excludePatterns) false = .ok entries
      ∧ Path.child ⟨"", []⟩ "a.blade.PHP" ∈ entries := by
  intro settings
  rcases listed_of_accepted_suffix (by cbv) rfl List.mem_cons_self (by decide)
      (namedBySuffix_oneTemplate [".blade.php", ".php"]) false with
    ⟨entries, hentries, hmem⟩ | ⟨_, _, _, _, _, _, hbroken⟩
  · refine ⟨entries, hentries, hmem.2 (Or.inr ⟨".php", ?_, by decide, by decide +kernel⟩)⟩
    exact List.mem_cons_of_mem _ List.mem_cons_self
  · cases (listDirectory_oneTemplate [".blade.php", ".php"]).symm.trans hbroken

/-- **An accepted suffix with two dots does not select its files.** -/
theorem accepted_suffix_selects_nothing :
    let settings := Settings.withSuffixes [".blade.php"]
    settings.check = .ok settings
      ∧ (settings.value .extensions).elements = .ok [.text ".blade.php"]
      ∧ NamedBySuffix .oneTemplate settings ⟨"", []⟩ ⟨"", []⟩ ".blade.php" "a.blade.PHP"
      ∧ listDirectory .oneTemplate ⟨"", []⟩ ⟨"", []⟩ (settings.value .extensions)
        (settings.value .excludePatterns) false = .ok [] := by
  have hnone : suffixWanted [".blade.php"] "a.blade.PHP" = false := by decide +kernel
  have hlisted := listDirectory_oneTemplate [".blade.php"]
  rw [hnone] at hlisted
  exact ⟨by cbv, rfl, namedBySuffix_oneTemplate _, hlisted⟩

end DocCoverage
