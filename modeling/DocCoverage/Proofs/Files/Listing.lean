/-
What the listing of a directory can say. Suffixes and exclude patterns that are texts break nothing
off, so all that stands between an entry and a verdict on it are questions to the operating system:
whether there is a directory, a link or a file at the path. It answers them, or it refuses an answer
for a reason of its own, and then the listing breaks off with that reason.
-/
import DocCoverage.Proofs.Files.Probe
import DocCoverage.Proofs.Settings.Accepted
import DocCoverage.Run.Route

set_option autoImplicit false

namespace DocCoverage

/-! ## Suffixes and patterns -/

/-- A search through texts that never breaks off. -/
theorem anyValue_texts {test : Value → Result Bool} {holds : String → Bool}
    (h : ∀ s, test (.text s) = .ok (holds s)) (texts : List String) :
    anyValue test (texts.map .text) = .ok (texts.any holds) := by
  induction texts with
  | nil => rfl
  | cons s rest ih =>
    rw [List.map_cons, anyValue, h, List.any_cons]
    cases holds s with
    | true => rfl
    | false => rw [ih, Bool.false_or]

/-- **A path is left out:** its text from the starting directory on, or one of its names there,
matches a pattern. -/
def leftOut (patterns : List String) (root path : Path) : Bool :=
  patterns.any fun pattern => (exclusionCandidates root path).any (Glob.isMatch pattern)

/-- **A name ends in a suffix that is wanted,** upper and lower case being the same. -/
def suffixWanted (suffixes : List String) (name : String) : Bool :=
  suffixes.any fun suffix => Text.lower (Path.suffixOf name) == Text.lower suffix

theorem isExcluded_texts (root path : Path) (patterns : List String) :
    isExcluded root (patterns.map .text) path = .ok (leftOut patterns root path) :=
  anyValue_texts (fun _ => rfl) patterns

theorem hasSuffix_texts (path : Path) (suffixes : List String) :
    hasSuffix (suffixes.map .text) path = .ok (suffixWanted suffixes path.name) :=
  anyValue_texts (fun _ => rfl) suffixes

/-- The suffixes and the patterns of some settings are these texts. -/
structure Settings.Selects (settings : Settings) (suffixes patterns : List String) : Prop where
  suffixes : (settings.value .extensions).elements = .ok (suffixes.map .text)
  patterns : (settings.value .excludePatterns).elements = .ok (patterns.map .text)

/-- **Settings that are accepted select by texts,** provided that their patterns are texts. -/
theorem Settings.exists_selects {settings : Settings} {patterns : List String}
    (haccepted : settings.check = .ok settings)
    (hpatterns : (settings.value .excludePatterns).elements = .ok (patterns.map .text)) :
    ∃ suffixes, settings.Selects suffixes patterns := by
  obtain ⟨-, hextensions, -⟩ := check_eq_ok_iff.1 haccepted
  obtain ⟨-, suffixes, hsuffixes, -⟩ := checkExtensions_eq_ok_iff.1 hextensions
  exact ⟨suffixes, hsuffixes, hpatterns⟩

/-! ## Verdicts on an entry -/

namespace Selection

variable {fs : FileSystem} {root path : Path} {suffixes patterns : List String}
  {followLinks : Bool}

/-- What decides between entries, the suffixes and patterns being texts. -/
def ofTexts (suffixes patterns : List String) (followLinks : Bool) : Selection :=
  ⟨suffixes.map .text, patterns.map .text, followLinks⟩

/-- An entry that is left out is not looked at. -/
theorem accepts_of_leftOut (h : leftOut patterns root path = true) :
    (ofTexts suffixes patterns followLinks).accepts fs root path = .ok false := by
  unfold accepts ofTexts
  rw [isExcluded_texts, h]
  rfl

/-- A directory is worth checking unless a link leads there that is not followed. -/
theorem accepts_of_directory {link : Bool} (h : leftOut patterns root path = false)
    (hdirectory : fs.isDirectory? path = .ok true) (hlink : fs.isLink? path = .ok link) :
    (ofTexts suffixes patterns followLinks).accepts fs root path
      = .ok (if link then followLinks else true) := by
  unfold accepts ofTexts
  rw [isExcluded_texts, h, hdirectory, hlink]
  cases link <;> rfl

/-- Anything else is worth checking if it is a file with a wanted suffix. -/
theorem accepts_of_other {file : Bool} (h : leftOut patterns root path = false)
    (hdirectory : fs.isDirectory? path = .ok false) (hfile : fs.isFile? path = .ok file) :
    (ofTexts suffixes patterns followLinks).accepts fs root path
      = .ok (file && suffixWanted suffixes path.name) := by
  unfold accepts ofTexts
  rw [isExcluded_texts, h, hdirectory, hfile]
  cases file with
  | false => rfl
  | true => exact (hasSuffix_texts path suffixes).trans rfl

/-- **A verdict is missing only where the operating system refuses an answer.** -/
theorem refuses_of_accepts {f : Failure}
    (h : (ofTexts suffixes patterns followLinks).accepts fs root path = .error f) :
    ∃ e, f = .file e ∧ fs.Refuses path e := by
  cases hout : leftOut patterns root path with
  | true =>
    rw [accepts_of_leftOut hout] at h
    cases h
  | false =>
    unfold accepts ofTexts at h
    rw [isExcluded_texts, hout] at h
    cases hdirectory : FileError.lift (fs.isDirectory? path) with
    | error f' =>
      rw [hdirectory] at h
      obtain rfl := Except.error.inj h
      exact FileSystem.refuses_of_lift hdirectory
    | ok directory =>
      rw [hdirectory] at h
      cases directory with
      | true =>
        cases hlink : FileError.lift (fs.isLink? path) with
        | error f' =>
          rw [hlink] at h
          obtain rfl := Except.error.inj h
          exact FileSystem.refuses_of_lift hlink
        | ok link =>
          rw [hlink] at h
          cases link <;> cases h
      | false =>
        cases hfile : FileError.lift (fs.isFile? path) with
        | error f' =>
          rw [hfile] at h
          obtain rfl := Except.error.inj h
          exact FileSystem.refuses_of_lift hfile
        | ok file =>
          rw [hfile] at h
          cases file with
          | false => cases h
          | true =>
            have hsuffix := (hasSuffix_texts path suffixes).symm.trans h
            cases hsuffix

/-! ## Verdicts on all entries -/

/-- An entry is kept when it is looked at. -/
def keeps (selection : Selection) (fs : FileSystem) (root path : Path) : Bool :=
  match selection.accepts fs root path with
  | .ok accepted => accepted
  | .error _ => false

/-- If there is a verdict on every entry, the accepted ones stay, in their order. -/
theorem filter_eq (selection : Selection) {paths : List Path}
    (h : ∀ path ∈ paths, ∃ accepted, selection.accepts fs root path = .ok accepted) :
    selection.filter fs root paths = .ok (paths.filter (selection.keeps fs root)) := by
  induction paths with
  | nil => rfl
  | cons path rest ih =>
    obtain ⟨⟨accepted, hfirst⟩, hrest⟩ := List.forall_mem_cons.1 h
    have hkeeps : selection.keeps fs root path = accepted := by
      unfold keeps
      rw [hfirst]
    rw [filter, hfirst, ih hrest]
    cases accepted with
    | true =>
      rw [List.filter_cons_of_pos hkeeps]
      rfl
    | false =>
      rw [List.filter_cons_of_neg (by rw [hkeeps]; exact Bool.false_ne_true)]
      rfl

/-- What stays was accepted. -/
theorem accepts_of_mem_filter {selection : Selection} {paths chosen : List Path}
    (h : selection.filter fs root paths = .ok chosen) :
    ∀ path ∈ chosen, path ∈ paths ∧ selection.accepts fs root path = .ok true := by
  induction paths generalizing chosen with
  | nil =>
    obtain rfl := Except.ok.inj h
    intro path hpath
    cases hpath
  | cons first rest ih =>
    rw [filter] at h
    cases hfirst : selection.accepts fs root first with
    | error f =>
      rw [hfirst] at h
      cases h
    | ok accepted =>
      cases hrest : selection.filter fs root rest with
      | error f =>
        rw [hfirst, hrest] at h
        cases h
      | ok others =>
        rw [hfirst, hrest] at h
        have hothers : ∀ path ∈ others,
            path ∈ first :: rest ∧ selection.accepts fs root path = .ok true := by
          intro path hpath
          obtain ⟨hmem, haccepted⟩ := ih hrest path hpath
          exact ⟨List.mem_cons_of_mem first hmem, haccepted⟩
        cases accepted with
        | false =>
          obtain rfl := Except.ok.inj h
          exact hothers
        | true =>
          obtain rfl := Except.ok.inj h
          intro path hpath
          rcases List.mem_cons.1 hpath with rfl | hlater
          · exact ⟨List.mem_cons_self, hfirst⟩
          · exact hothers path hlater

/-- **A choice between entries is missing only where a verdict on one of them is.** -/
theorem refuses_of_filter {paths : List Path} {f : Failure}
    (h : (ofTexts suffixes patterns followLinks).filter fs root paths = .error f) :
    ∃ path ∈ paths, ∃ e, f = .file e ∧ fs.Refuses path e := by
  induction paths with
  | nil => cases h
  | cons first rest ih =>
    rw [filter] at h
    cases hfirst : (ofTexts suffixes patterns followLinks).accepts fs root first with
    | error f' =>
      rw [hfirst] at h
      obtain rfl := Except.error.inj h
      exact ⟨first, List.mem_cons_self, refuses_of_accepts hfirst⟩
    | ok accepted =>
      cases hrest : (ofTexts suffixes patterns followLinks).filter fs root rest with
      | error f' =>
        rw [hfirst, hrest] at h
        obtain rfl := Except.error.inj h
        obtain ⟨path, hpath, hrefused⟩ := ih hrest
        exact ⟨path, List.mem_cons_of_mem first hpath, hrefused⟩
      | ok others =>
        rw [hfirst, hrest] at h
        cases h

end Selection

/-! ## The entries of a directory -/

variable {fs : FileSystem} {settings : Settings} {directory : Path}
  {suffixes patterns : List String}

/-- The paths of a directory's entries belong to the names that are listed. -/
theorem mem_sortedEntries {names : List String} {path : Path} :
    path ∈ sortedEntries directory names ↔ ∃ name ∈ names, directory.child name = path := by
  unfold sortedEntries
  rw [List.mem_map]
  simp only [List.mem_mergeSort]

/-- A directory that is listed is chosen from. -/
theorem entriesToCheck_of_list (root : Path) (hselects : settings.Selects suffixes patterns)
    {names : List String} (hlist : fs.list directory = .ok names) :
    entriesToCheck fs settings root directory
      = (Selection.ofTexts suffixes patterns (settings.value .followLinks).isOn).filter fs root
          (sortedEntries directory names) := by
  unfold entriesToCheck listDirectory
  rw [hlist, hselects.suffixes, hselects.patterns]
  rfl

/-- **What comes of looking through a directory:** it cannot be listed, or the operating system
refuses an answer about one of its entries, or some of its entries are to be checked. -/
inductive Looked (fs : FileSystem) (settings : Settings) (root directory : Path)
    (suffixes patterns : List String) : Result (List Path) → Prop
  | unlisted (reason : String) :
      Looked fs settings root directory suffixes patterns
        (.error (.problem (.fileAccess directory reason)))
  | refused (names : List String) (name : String) (e : FileError)
      (hlist : fs.list directory = .ok names) (hname : name ∈ names)
      (hrefuses : fs.Refuses (directory.child name) e) :
      Looked fs settings root directory suffixes patterns (.error (.file e))
  | listed (names : List String) (entries : List Path) (hlist : fs.list directory = .ok names)
      (hentries : ∀ entry ∈ entries, (∃ name ∈ names, directory.child name = entry)
        ∧ (Selection.ofTexts suffixes patterns (settings.value .followLinks).isOn).accepts fs root
            entry = .ok true) :
      Looked fs settings root directory suffixes patterns (.ok entries)

/-- A directory that exists is looked through in one of these ways. -/
theorem looked (root : Path) (hselects : settings.Selects suffixes patterns)
    (hholds : fs.Holds directory) :
    Looked fs settings root directory suffixes patterns
      (entriesToCheck fs settings root directory) := by
  cases hlist : fs.list directory with
  | error e =>
    have hunlisted : entriesToCheck fs settings root directory
        = .error (.problem (.fileAccess directory ("OS error: " ++ e.shown directory.shown))) := by
      unfold entriesToCheck listDirectory
      rw [hlist, ← refused_eq_fileAccess (FileSystem.ne_zeroInPath_of_list hholds hlist)]
    rw [hunlisted]
    exact .unlisted _
  | ok names =>
    rw [entriesToCheck_of_list root hselects hlist]
    cases hfilter : (Selection.ofTexts suffixes patterns
        (settings.value .followLinks).isOn).filter fs root (sortedEntries directory names) with
    | error f =>
      obtain ⟨path, hpath, e, rfl, hrefuses⟩ := Selection.refuses_of_filter hfilter
      obtain ⟨name, hname, rfl⟩ := mem_sortedEntries.1 hpath
      exact .refused names name e hlist hname hrefuses
    | ok entries =>
      refine .listed names entries hlist fun entry hentry => ?_
      obtain ⟨hmem, haccepted⟩ := Selection.accepts_of_mem_filter hfilter entry hentry
      exact ⟨mem_sortedEntries.1 hmem, haccepted⟩

end DocCoverage
