/-
Which entries below a starting directory are chosen, said without going through directories one by
one. An entry is given by the names that lead to it from the starting directory; directories lead
on, and symbolic links do not. It is left out if a pattern matches one of its names or the text of
its first names, however many of them, so whatever lies below an entry that is left out is left out
too.

That is what makes the directory by directory search right: it asks about an entry only when all the
directories above it are chosen, and then it is enough to look at the last name and at the whole
path.
-/
import DocCoverage.Proofs.Files.Listing
import DocCoverage.Proofs.Files.Walk
import Mathlib

set_option autoImplicit false

namespace DocCoverage

/-! ## Paths below a directory -/

namespace Path

/-- The path that names lead to from a directory. -/
def below (root : Path) (names : List String) : Path := { root with parts := root.parts ++ names }

theorem below_nil (root : Path) : root.below [] = root := by
  unfold below
  rw [List.append_nil]

theorem child_below (root : Path) (names : List String) (name : String) :
    (root.below names).child name = root.below (names ++ [name]) := by
  unfold below child
  rw [List.append_assoc]

/-- Different names lead to different paths. -/
theorem below_injective (root : Path) : Function.Injective root.below := by
  intro names others h
  exact List.append_cancel_left (congrArg Path.parts h)

/-- From a directory on, a path below it is the names that lead to it. -/
theorem relativeTo_below (root : Path) (names : List String) :
    (root.below names).relativeTo root = ⟨"", names⟩ := by
  have hunder : root.parts.isPrefixOf (root.parts ++ names) = true :=
    List.isPrefixOf_iff_prefix.2 (List.prefix_append _ _)
  unfold relativeTo below
  dsimp only
  rw [hunder, decide_eq_true rfl, Bool.and_self, if_pos rfl, List.drop_left]

/-- What patterns are held against is the text of the names and each of them. -/
theorem exclusionCandidates_below (root : Path) {names : List String} (hnames : names ≠ []) :
    exclusionCandidates root (root.below names) = "/".intercalate names :: names := by
  have hsome : names.isEmpty = false := List.isEmpty_eq_false_iff.2 hnames
  unfold exclusionCandidates
  rw [relativeTo_below]
  unfold shown Path.names isAbsolute
  dsimp only
  rw [hsome, Bool.and_false, if_neg Bool.false_ne_true, String.empty_append]
  rfl

end Path

/-! ## Exclusion -/

/-- **Nothing excludes the names:** no pattern matches one of them, nor the text of the first ones,
however many. -/
def Unexcluded (patterns names : List String) : Prop :=
  ∀ pattern ∈ patterns, (∀ name ∈ names, Glob.isMatch pattern name = false)
    ∧ ∀ first, first <+: names → first ≠ [] →
      Glob.isMatch pattern ("/".intercalate first) = false

namespace Unexcluded

variable {patterns names : List String} {name : String}

/-- Nothing excludes the starting directory. -/
theorem nil (patterns : List String) : Unexcluded patterns [] := by
  intro pattern _
  refine ⟨fun name hname => ?_, fun first hfirst hsome => ?_⟩
  · cases hname
  · exact absurd (List.prefix_nil.1 hfirst) hsome

/-- What excludes the first names excludes all of them. -/
theorem of_prefix {first : List String} (h : Unexcluded patterns names) (hfirst : first <+: names) :
    Unexcluded patterns first := by
  intro pattern hpattern
  obtain ⟨hname, htext⟩ := h pattern hpattern
  refine ⟨fun name hmem => hname name (hfirst.subset hmem), fun front hfront hsome => ?_⟩
  exact htext front (hfront.trans hfirst) hsome

/-- **Below names that nothing excludes, one name more is excluded by what matches it or the whole
path.** -/
theorem append_iff (root : Path) (h : Unexcluded patterns names) (name : String) :
    Unexcluded patterns (names ++ [name])
      ↔ leftOut patterns root (root.below (names ++ [name])) = false := by
  have hsome : names ++ [name] ≠ [] := List.append_ne_nil_of_right_ne_nil _ (List.cons_ne_nil _ _)
  unfold leftOut
  rw [Path.exclusionCandidates_below root hsome, List.any_eq_false]
  simp only [List.any_eq_true, not_exists, not_and, Bool.not_eq_true]
  constructor
  · intro hall pattern hpattern text htext
    obtain ⟨hname, hunder⟩ := hall pattern hpattern
    rcases List.mem_cons.1 htext with rfl | hmem
    · exact hunder _ (List.prefix_refl _) hsome
    · exact hname text hmem
  · intro hall pattern hpattern
    refine ⟨fun other hother => hall pattern hpattern other (List.mem_cons_of_mem _ hother),
      fun first hfirst hnonempty => ?_⟩
    -- the text of fewer names was held against the pattern one directory above
    rcases List.prefix_concat_iff.1 hfirst with rfl | hbefore
    · exact hall pattern hpattern _ List.mem_cons_self
    · exact (h pattern hpattern).2 first hbefore hnonempty

end Unexcluded

/-! ## Chosen entries -/

open FileSystem (nodeBelow entry?)

/-- **A directory to go through:** the names lead to it through directories that are no links, it is
none itself, and nothing excludes it. The starting directory is one. -/
structure ChosenDirectory (entries : List (String × Node)) (patterns names : List String) :
    Prop where
  there : ∃ below locked, nodeBelow entries false names = some (.directory below locked)
  kept : Unexcluded patterns names

/-- **A file to check:** the names lead to an entry through directories that are no links, there is
a file at its path, possibly behind links, its suffix is wanted, and nothing excludes it. -/
structure ChosenFile (fs : FileSystem) (root : Path) (entries : List (String × Node))
    (suffixes patterns names : List String) : Prop where
  there : ∃ node, nodeBelow entries false names = some node
  file : fs.isFile? (root.below names) = .ok true
  suffix : suffixWanted suffixes (root.below names).name = true
  kept : Unexcluded patterns names

/-- A search from a starting directory on, in a tree that a file system can hold. Every directory to
go through can be listed, and of no entry that nothing excludes does the operating system refuse to
tell whether it is a directory. -/
structure Searchable (fs : FileSystem) (root : Path) (entries : List (String × Node))
    (patterns : List String) : Prop where
  formed : fs.wellFormed = true
  found : ∃ location locked, fs.find .target root = .ok (location, .directory entries locked)
  listed : ∀ names, ChosenDirectory entries patterns names →
    ∃ listed, fs.list (root.below names) = .ok listed
  told : ∀ names node, nodeBelow entries false names = some node → Unexcluded patterns names →
    ∃ answer, fs.isDirectory? (root.below names) = .ok answer

/-- A directory that the search comes to: the path leads to it, and so do the names. -/
structure Reached (fs : FileSystem) (root : Path) (entries : List (String × Node))
    (patterns names : List String) (under : List (String × Node)) : Prop where
  plain : (root.below names).Plain
  found : ∃ location locked,
    fs.find .target (root.below names) = .ok (location, .directory under locked)
  there : ∃ locked, nodeBelow entries false names = some (.directory under locked)
  formed : Node.wellFormedEntries under = true
  kept : Unexcluded patterns names

section Search

variable {fs : FileSystem} {root : Path} {entries under : List (String × Node)}
  {suffixes patterns names : List String} {name : String} {node : Node}

/-- The starting directory is reached. -/
theorem Searchable.reached (h : Searchable fs root entries patterns) (hplain : root.Plain) :
    Reached fs root entries patterns [] entries := by
  obtain ⟨location, locked, hfind⟩ := h.found
  have hnode := FileSystem.nodeAt_of_find hfind
  refine ⟨?_, ⟨location, locked, ?_⟩, ⟨false, rfl⟩, (FileSystem.of_nodeBelow h.formed hnode).1,
    Unexcluded.nil patterns⟩
  · rw [Path.below_nil]
    exact hplain
  · rw [Path.below_nil]
    exact hfind

namespace Reached

/-- A directory that is reached is chosen. -/
theorem chosen (h : Reached fs root entries patterns names under) :
    ChosenDirectory entries patterns names := by
  obtain ⟨locked, hthere⟩ := h.there
  exact ⟨⟨under, locked, hthere⟩, h.kept⟩

/-- The names lead on to the entries of the directory. -/
theorem nodeBelow_append (h : Reached fs root entries patterns names under) (name : String)
    (rest : List String) :
    nodeBelow entries false (names ++ name :: rest) = nodeBelow under false (name :: rest) := by
  obtain ⟨locked, hthere⟩ := h.there
  rw [FileSystem.nodeBelow_append hthere]
  cases rest <;> rfl

/-- An entry that is told to be no directory is accepted exactly if it is a chosen file. -/
theorem accepts_of_no_directory (suffixes : List String)
    (h : Reached fs root entries patterns names under) (hentry : entry? name under = some node)
    (hnode : ∀ below locked, node ≠ .directory below locked)
    (hkept : Unexcluded patterns (names ++ [name]))
    (hanswer : fs.isDirectory? (root.below (names ++ [name])) = .ok false) :
    ∃ accepted, (Selection.ofTexts suffixes patterns false).accepts fs root
        (root.below (names ++ [name])) = .ok accepted
      ∧ (accepted = true ↔ ChosenDirectory entries patterns (names ++ [name])
        ∨ ChosenFile fs root entries suffixes patterns (names ++ [name])) := by
  have hthere : nodeBelow entries false (names ++ [name]) = some node :=
    (h.nodeBelow_append name []).trans hentry
  have hin := (Unexcluded.append_iff root h.kept name).1 hkept
  obtain ⟨file, hfile⟩ := FileSystem.exists_isFile_of_isDirectory hanswer
  refine ⟨_, Selection.accepts_of_other hin hanswer hfile, ?_⟩
  rw [Bool.and_eq_true]
  constructor
  · rintro ⟨rfl, hsuffix⟩
    exact Or.inr ⟨⟨node, hthere⟩, hfile, hsuffix, hkept⟩
  · rintro (hdirectory | hchosen)
    · obtain ⟨below, locked, hbelow⟩ := hdirectory.there
      exact absurd (Option.some.inj (hthere.symm.trans hbelow)) (hnode below locked)
    · exact ⟨Except.ok.inj (hfile.symm.trans hchosen.file), hchosen.suffix⟩

/-- **An entry is accepted exactly if it is chosen:** nothing excludes it, and it is a directory and
no link, or there is a file with a wanted suffix. -/
theorem accepts_child (suffixes : List String) (h : Reached fs root entries patterns names under)
    (hsearch : Searchable fs root entries patterns) (hentry : entry? name under = some node) :
    ∃ accepted, (Selection.ofTexts suffixes patterns false).accepts fs root
        (root.below (names ++ [name])) = .ok accepted
      ∧ (accepted = true ↔ ChosenDirectory entries patterns (names ++ [name])
        ∨ ChosenFile fs root entries suffixes patterns (names ++ [name])) := by
  have hthere : nodeBelow entries false (names ++ [name]) = some node :=
    (h.nodeBelow_append name []).trans hentry
  cases hout : leftOut patterns root (root.below (names ++ [name])) with
  | true =>
    have hexcluded : ¬ Unexcluded patterns (names ++ [name]) := by
      intro hkept
      rw [(Unexcluded.append_iff root h.kept name).1 hkept] at hout
      cases hout
    refine ⟨false, Selection.accepts_of_leftOut hout, ?_⟩
    constructor
    · intro hfalse
      cases hfalse
    · rintro (hdirectory | hfile)
      · exact absurd hdirectory.kept hexcluded
      · exact absurd hfile.kept hexcluded
  | false =>
    have hkept := (Unexcluded.append_iff root h.kept name).2 hout
    obtain ⟨answer, hanswer⟩ := hsearch.told _ node hthere hkept
    obtain ⟨location, locked, hfind⟩ := h.found
    obtain ⟨hproper, -, -⟩ := Node.of_entry h.formed hentry
    -- what is known of an entry's path is said of the directory's path with a name more
    have hanswer' := hanswer
    rw [← Path.child_below] at hanswer'
    cases node with
    | directory below locked' =>
      obtain ⟨hdirectory, hlink, -⟩ :=
        FileSystem.answers_directory h.plain hproper hfind hentry hanswer'
      rw [Path.child_below] at hdirectory hlink
      refine ⟨true, Selection.accepts_of_directory hout hdirectory hlink, ?_⟩
      exact ⟨fun _ => Or.inl ⟨⟨below, locked', hthere⟩, hkept⟩, fun _ => rfl⟩
    | file bytes locked' =>
      have hno := FileSystem.answers_file h.plain hproper hfind hentry hanswer'
      rw [Path.child_below] at hno
      exact h.accepts_of_no_directory suffixes hentry (fun _ _ hnode => by cases hnode) hkept hno
    | link target =>
      cases answer with
      | false =>
        exact h.accepts_of_no_directory suffixes hentry (fun _ _ hnode => by cases hnode) hkept
          hanswer
      | true =>
        -- a link to a directory is not followed, and there is no file at its path
        have hlink := FileSystem.answers_link h.plain hproper hfind hentry hanswer'
        rw [Path.child_below] at hlink
        refine ⟨false, Selection.accepts_of_directory hout hanswer hlink, ?_⟩
        constructor
        · intro hfalse
          cases hfalse
        · rintro (hdirectory | hfile)
          · obtain ⟨below, locked', hbelow⟩ := hdirectory.there
            cases hthere.symm.trans hbelow
          · have hno := FileSystem.isDirectory_of_isFile hfile.file
            cases hanswer.symm.trans hno

/-- A chosen subdirectory is reached in its turn, and it is lower. -/
theorem child (h : Reached fs root entries patterns names under)
    (hsearch : Searchable fs root entries patterns) {below : List (String × Node)} {locked : Bool}
    (hentry : entry? name under = some (.directory below locked))
    (hkept : Unexcluded patterns (names ++ [name])) :
    Reached fs root entries patterns (names ++ [name]) below
      ∧ fs.isDirectory? (root.below (names ++ [name])) = .ok true
      ∧ Node.heightOfEntries below < Node.heightOfEntries under := by
  have hthere : nodeBelow entries false (names ++ [name]) = some (.directory below locked) :=
    (h.nodeBelow_append name []).trans hentry
  obtain ⟨answer, hanswer⟩ := hsearch.told _ _ hthere hkept
  obtain ⟨location, locked', hfind⟩ := h.found
  obtain ⟨hproper, hformed, hheight⟩ := Node.of_entry h.formed hentry
  obtain ⟨hempty, -⟩ := Path.of_properName hproper
  rw [← Path.child_below] at hanswer
  obtain ⟨hdirectory, -, hchild⟩ :=
    FileSystem.answers_directory h.plain hproper hfind hentry hanswer
  have hplain := h.plain.child hempty
  rw [Path.child_below] at hdirectory hchild hplain
  rw [Node.height] at hheight
  exact ⟨⟨hplain, ⟨_, _, hchild⟩, ⟨locked, hthere⟩, hformed, hkept⟩, hdirectory, by omega⟩

/-- The names of a directory that is reached are those of its entries. -/
theorem list_eq (h : Reached fs root entries patterns names under) {listed : List String}
    (hlist : fs.list (root.below names) = .ok listed) : listed = under.map Prod.fst := by
  obtain ⟨location, locked, hfind⟩ := h.found
  unfold FileSystem.list at hlist
  rw [hfind] at hlist
  cases locked with
  | true => cases hlist
  | false => exact (Except.ok.inj hlist).symm

/-- There is a directory where one is reached. -/
theorem isDirectory (h : Reached fs root entries patterns names under) :
    fs.isDirectory? (root.below names) = .ok true := by
  obtain ⟨location, locked, hfind⟩ := h.found
  unfold FileSystem.isDirectory?
  rw [FileSystem.probe_of_find hfind]
  rfl

/-- **Whatever the tree has from a directory on** is the directory, or is an entry of it, or lies
below a directory that is an entry of it. -/
theorem entry_of_prefix (h : Reached fs root entries patterns names under) {later : List String}
    (hunder : names <+: later) (hthere : nodeBelow entries false later = some node) :
    later = names ∨ ∃ name, names ++ [name] <+: later
      ∧ (later = names ++ [name] ∧ entry? name under = some node
        ∨ ∃ below locked, entry? name under = some (.directory below locked)) := by
  obtain ⟨rest, rfl⟩ := hunder
  cases rest with
  | nil => exact Or.inl (List.append_nil names)
  | cons name rest =>
    refine Or.inr ⟨name, ?_, ?_⟩
    · rw [List.prefix_append_right_inj, List.cons_prefix_cons]
      exact ⟨rfl, List.nil_prefix⟩
    · rw [h.nodeBelow_append name rest] at hthere
      rcases FileSystem.entry_of_nodeBelow hthere with
        ⟨rfl, hentry⟩ | ⟨below, locked, hentry, -⟩
      · exact Or.inl ⟨rfl, hentry⟩
      · exact Or.inr ⟨below, locked, hentry⟩

/-- **What is chosen below a directory is, or lies below, an entry that is chosen.** -/
theorem entry_chosen (h : Reached fs root entries patterns names under) {later : List String}
    (hunder : names <+: later) (hlater : ChosenDirectory entries patterns later
      ∨ ChosenFile fs root entries suffixes patterns later) :
    later = names ∨ ∃ name node, entry? name under = some node ∧ names ++ [name] <+: later
      ∧ (ChosenDirectory entries patterns (names ++ [name])
        ∨ ChosenFile fs root entries suffixes patterns (names ++ [name])) := by
  have hkept : Unexcluded patterns later := by
    rcases hlater with hdirectory | hfile
    · exact hdirectory.kept
    · exact hfile.kept
  obtain ⟨node, hthere⟩ : ∃ node, nodeBelow entries false later = some node := by
    rcases hlater with ⟨⟨below, locked, hthere⟩, -⟩ | hfile
    · exact ⟨_, hthere⟩
    · exact hfile.there
  rcases h.entry_of_prefix hunder hthere with
    heq | ⟨name, hbelow, ⟨rfl, hentry⟩ | ⟨below, locked, hentry⟩⟩
  · exact Or.inl heq
  · exact Or.inr ⟨name, node, hentry, hbelow, hlater⟩
  · refine Or.inr ⟨name, _, hentry, hbelow, Or.inl ⟨⟨below, locked, ?_⟩, ?_⟩⟩
    · exact (h.nodeBelow_append name []).trans hentry
    · exact hkept.of_prefix hbelow

/-- Nothing lies below a chosen file, and it is no directory. -/
theorem eq_of_file (h : Reached fs root entries patterns names under)
    (hsearch : Searchable fs root entries patterns)
    (hfile : ChosenFile fs root entries suffixes patterns (names ++ [name])) {later : List String}
    (hunder : names ++ [name] <+: later) (hthere : nodeBelow entries false later = some node) :
    later = names ++ [name] ∧ ∀ below locked, node ≠ .directory below locked := by
  have hno : ∀ below locked, entry? name under ≠ some (.directory below locked) := by
    intro below locked hentry
    obtain ⟨-, hdirectory, -⟩ := h.child hsearch hentry hfile.kept
    cases hdirectory.symm.trans (FileSystem.isDirectory_of_isFile hfile.file)
  obtain ⟨rest, rfl⟩ := hunder
  rw [List.append_assoc, List.singleton_append, h.nodeBelow_append name rest] at hthere
  rcases FileSystem.entry_of_nodeBelow hthere with ⟨rfl, hentry⟩ | ⟨below, locked, hentry, -⟩
  · refine ⟨List.append_nil _, fun below locked hnode => hno below locked ?_⟩
    rw [← hnode]
    exact hentry
  · exact absurd hentry (hno below locked)

end Reached

end Search

end DocCoverage
