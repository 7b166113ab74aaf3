/-
What can stop a run. Whatever cannot be listed, read or found is noted and the run goes on, with two
exceptions that nothing catches: a file that the decoder of its encoding gives up on, and a path of
which the operating system refuses to tell what is there. Where neither is met the run comes to its
end, every path at which there is nothing is among the missing ones, and every file it comes to is
either counted or among the unreadable ones.

The first half says what a route can end with, from the directory up to the list of paths. Its
notion is `Route.Guarded`: every file on the route is there, and only an answer that was refused
ends it.
-/
import DocCoverage.Proofs.Files.Listing
import DocCoverage.Proofs.Run.Noted
import DocCoverage.Proofs.Run.Reporting
import Mathlib

set_option autoImplicit false

namespace DocCoverage

variable {fs : FileSystem} {settings : Settings} {suffixes patterns : List String}

/-! ## Guarded routes -/

/-- The path is an entry of a directory that was listed on the way. -/
def Listed (fs : FileSystem) (stops : List Stop) (path : Path) : Prop :=
  ∃ (directory : Path) (names : List String) (name : String), .directory directory ∈ stops
    ∧ fs.list directory = .ok names ∧ name ∈ names ∧ directory.child name = path

/-- What is listed on a part of the way is listed on the way. -/
theorem Listed.mono {stops more : List Stop} {path : Path} (h : Listed fs stops path)
    (hstops : ∀ stop ∈ stops, stop ∈ more) : Listed fs more path := by
  obtain ⟨directory, names, name, hstop, hrest⟩ := h
  exact ⟨directory, names, name, hstops _ hstop, hrest⟩

/-- **A route is guarded:** there is something wherever it comes to a file, and it ends early only
where the operating system refuses an answer, about a path that was asked for or about an entry of a
directory on the way. -/
structure Route.Guarded (fs : FileSystem) (asked : Path → Prop) {α : Type} (route : Route α) :
    Prop where
  files : ∀ path, .file path ∈ route.notes → fs.Holds path
  ends : ∀ f, route.result = .error f → ∃ e path, f = .file e ∧ fs.Refuses path e
    ∧ (asked path ∨ Listed fs route.notes path)

namespace Route

variable {asked : Path → Prop} {α β : Type}

/-- A result at hand is guarded. -/
theorem Guarded.done (a : α) : Guarded fs asked (.quiet (.ok a)) where
  files path hpath := by cases hpath
  ends f hf := by cases hf

/-- An answer that is refused ends a guarded route. -/
theorem Guarded.refused {e : FileError} {path : Path} (hrefuses : fs.Refuses path e)
    (hasked : asked path) : Guarded fs asked (.quiet (.error (.file e)) : Route α) where
  files path hpath := by cases hpath
  ends f hf := ⟨e, path, (Except.error.inj hf).symm, hrefuses, Or.inl hasked⟩

/-- A question about a path that is asked for is guarded. -/
theorem Guarded.question {β : Type} {aim : FileSystem.Aim} {answer : Option Node → β} {path : Path}
    (hasked : asked path) :
    Guarded fs asked (.quiet (FileError.lift ((fs.probe aim path).map answer))) := by
  cases hanswer : FileError.lift ((fs.probe aim path).map answer) with
  | ok b => exact Guarded.done b
  | error f =>
    obtain ⟨e, rfl, hrefuses⟩ := FileSystem.refuses_of_lift hanswer
    exact Guarded.refused hrefuses hasked

/-- A stop where there is something, if it is at a file, is guarded. -/
theorem Guarded.note {stop : Stop} (h : ∀ path, stop = .file path → fs.Holds path) :
    Guarded fs asked (Progress.note stop) where
  files path hpath := h path (List.mem_singleton.1 hpath).symm
  ends f hf := by cases hf

/-- One guarded route and then another is guarded. -/
theorem Guarded.andThen {route : Route α} {next : α → Route β} (hroute : Guarded fs asked route)
    (hnext : ∀ a, route.result = .ok a → Guarded fs asked (next a)) :
    Guarded fs asked (route.andThen next) := by
  cases hresult : route.result with
  | error f =>
    rw [Progress.andThen_of_error next hresult]
    refine ⟨hroute.files, fun f' hf' => ?_⟩
    obtain rfl := Except.error.inj hf'
    exact hroute.ends f hresult
  | ok a =>
    have hlater := hnext a hresult
    rw [Progress.andThen_of_ok next hresult]
    refine ⟨fun path hpath => ?_, fun f hf => ?_⟩
    · rcases List.mem_append.1 hpath with hfirst | hsecond
      · exact hroute.files path hfirst
      · exact hlater.files path hsecond
    · obtain ⟨e, path, he, hrefuses, hwhere⟩ := hlater.ends f hf
      refine ⟨e, path, he, hrefuses, hwhere.imp_right fun hlisted => ?_⟩
      exact hlisted.mono fun stop hstop => List.mem_append.2 (Or.inr hstop)

/-- A guarded route for each element of a list is guarded. -/
theorem Guarded.each {act : α → Route Unit} {l : List α} (h : ∀ a ∈ l, Guarded fs asked (act a)) :
    Guarded fs asked (Progress.each act l) := by
  induction l with
  | nil => exact Guarded.done ()
  | cons a rest ih =>
    obtain ⟨hfirst, hrest⟩ := List.forall_mem_cons.1 h
    exact hfirst.andThen fun _ _ => ih hrest

/-- The entries of a directory are asked for once the directory is on the way. -/
theorem Guarded.behind {directory : Path} {names : List String} {route : Route α}
    (hlist : fs.list directory = .ok names)
    (h : Guarded fs (fun path => ∃ name ∈ names, directory.child name = path) route) :
    Guarded fs asked ((Progress.note (.directory directory)).andThen fun _ => route) := by
  rw [Progress.andThen_of_ok _ rfl]
  refine ⟨fun path hpath => ?_, fun f hf => ?_⟩
  · rcases List.mem_cons.1 hpath with hdirectory | hlater
    · cases hdirectory
    · exact h.files path hlater
  · obtain ⟨e, path, he, hrefuses, hwhere⟩ := h.ends f hf
    refine ⟨e, path, he, hrefuses, Or.inr ?_⟩
    rcases hwhere with ⟨name, hname, hchild⟩ | hlisted
    · exact ⟨directory, names, name, List.mem_cons_self, hlist, hname, hchild⟩
    · exact hlisted.mono fun stop hstop => List.mem_cons_of_mem _ hstop

end Route

/-! ## The way through a directory -/

/-- An entry worth checking that is no directory is a file that is there. -/
theorem holds_of_accepts {root path : Path} {followLinks : Bool}
    (haccepted : (Selection.ofTexts suffixes patterns followLinks).accepts fs root path = .ok true)
    (hdirectory : fs.isDirectory? path = .ok false) : fs.Holds path := by
  cases hout : leftOut patterns root path with
  | true =>
    rw [Selection.accepts_of_leftOut hout] at haccepted
    cases haccepted
  | false =>
    obtain ⟨there, hprobe, hanswer⟩ := FileSystem.probe_of_map_eq_ok hdirectory
    cases there with
    | some node => exact ⟨node, hprobe⟩
    | none =>
      have hfile : fs.isFile? path = .ok false := by
        unfold FileSystem.isFile?
        rw [hprobe]
        rfl
      rw [Selection.accepts_of_other hout hdirectory hfile] at haccepted
      cases haccepted

/-- **The way through a directory is guarded,** and it comes to no path that is absent. -/
theorem guarded_directoryRouteFrom (hselects : settings.Selects suffixes patterns) {root : Path}
    (asked : Path → Prop) (depth : Nat) {directory : Path} (hholds : fs.Holds directory) :
    (directoryRouteFrom fs settings root depth directory).Guarded fs asked := by
  -- what is asked for changes on the way down: below, it is the entries that were listed
  induction depth generalizing asked directory with
  | zero => exact Route.Guarded.done false
  | succ depth ih =>
    unfold directoryRouteFrom
    have hlooked := looked root hselects hholds
    generalize entriesToCheck fs settings root directory = chosen at hlooked
    cases hlooked with
    | unlisted reason =>
      refine Route.Guarded.andThen (Route.Guarded.note fun path hpath => by cases hpath) ?_
      intro _ _
      refine Route.Guarded.andThen (Route.Guarded.note fun path hpath => by cases hpath) ?_
      intro _ _
      exact Route.Guarded.done false
    | refused names name e hlist hname hrefuses =>
      exact Route.Guarded.behind hlist (Route.Guarded.refused hrefuses ⟨name, hname, rfl⟩)
    | listed names entries hlist hentries =>
      refine Route.Guarded.behind hlist ?_
      refine Route.Guarded.andThen (Route.Guarded.each fun entry hentry => ?_)
        fun _ _ => Route.Guarded.done true
      obtain ⟨hname, haccepted⟩ := hentries entry hentry
      refine Route.Guarded.andThen (Route.Guarded.question hname) fun isDirectory hanswer => ?_
      have hdirectory : fs.isDirectory? entry = .ok isDirectory := FileError.eq_ok_of_lift hanswer
      cases isDirectory with
      | true =>
        exact (ih _ (FileSystem.holds_of_isDirectory hdirectory)).andThen
          fun _ _ => Route.Guarded.done ()
      | false =>
        refine Route.Guarded.note fun path hpath => ?_
        obtain rfl := Stop.file.inj hpath
        exact holds_of_accepts haccepted hdirectory

/-- The way through a directory comes to no path that is absent. -/
theorem absent_directoryRouteFrom (root : Path) (depth : Nat) (directory : Path) :
    (directoryRouteFrom fs settings root depth directory).notes.filterMap Stop.absent? = [] := by
  rw [List.filterMap_eq_nil_iff]
  induction depth generalizing directory with
  | zero =>
    intro stop hstop
    cases hstop
  | succ depth ih =>
    intro stop hstop
    unfold directoryRouteFrom at hstop
    rcases Progress.mem_notes_andThen hstop with hfirst | ⟨_, hrest⟩
    · rw [List.mem_singleton.1 hfirst]
      rfl
    · split at hrest
      · rcases Progress.mem_notes_andThen hrest with hunlisted | ⟨_, hnone⟩
        · rw [List.mem_singleton.1 hunlisted]
          rfl
        · cases hnone
      · cases hrest
      · rcases Progress.mem_notes_andThen hrest with heach | ⟨_, hnone⟩
        · obtain ⟨entry, -, hentry⟩ := Progress.exists_of_mem_notes_each heach
          rcases Progress.mem_notes_andThen hentry with hquestion | ⟨isDirectory, hthere⟩
          · cases hquestion
          · cases isDirectory with
            | true =>
              rcases Progress.mem_notes_andThen hthere with hbelow | ⟨_, hnone⟩
              · exact ih entry stop hbelow
              · cases hnone
            | false =>
              rw [List.mem_singleton.1 hthere]
              rfl
        · cases hnone

/-! ## The way for the given paths -/

/-- **The way for one path:** the operating system refuses to tell what is there, or there is
nothing, or a directory, or something else that is taken for a file. -/
inductive PathWay (fs : FileSystem) (settings : Settings) (path : Path) : Route Unit → Prop
  | refused (e : FileError) (hrefuses : fs.Refuses path e) :
      PathWay fs settings path (.quiet (.error (.file e)))
  | absent (reason : String) (hexists : fs.exists? path = .ok false) :
      PathWay fs settings path (Progress.note (.absent path reason))
  | directory (hdirectory : fs.isDirectory? path = .ok true) :
      PathWay fs settings path
        ((directoryRoute fs settings path path).andThen fun _ => .quiet (.ok ()))
  | file (hholds : fs.Holds path) (hdirectory : fs.isDirectory? path = .ok false) :
      PathWay fs settings path (Progress.note (.file path))

/-- A path is taken in one of these ways. -/
theorem pathWay (fs : FileSystem) (hselects : settings.Selects suffixes patterns) (path : Path) :
    PathWay fs settings path (pathRouteOrAbsent fs settings path) := by
  cases hexists : FileError.lift (fs.exists? path) with
  | error f =>
    obtain ⟨e, rfl, hrefuses⟩ := FileSystem.refuses_of_lift hexists
    have hroute : pathRouteOrAbsent fs settings path = .quiet (.error (.file e)) := by
      unfold pathRouteOrAbsent pathRoute
      rw [hexists]
      rfl
    rw [hroute]
    exact .refused e hrefuses
  | ok there =>
    cases there with
    | false =>
      have hroute : pathRouteOrAbsent fs settings path
          = Progress.note (.absent path "File or directory does not exist") := by
        unfold pathRouteOrAbsent pathRoute
        rw [hexists]
        rfl
      rw [hroute]
      exact .absent _ (FileError.eq_ok_of_lift hexists)
    | true =>
      have hholds := FileSystem.exists_eq_true_iff.1 (FileError.eq_ok_of_lift hexists)
      cases hdirectory : FileError.lift (fs.isDirectory? path) with
      | error f =>
        obtain ⟨e, rfl, hrefuses⟩ := FileSystem.refuses_of_lift hdirectory
        have hroute : pathRouteOrAbsent fs settings path = .quiet (.error (.file e)) := by
          unfold pathRouteOrAbsent pathRoute
          rw [hexists, hdirectory]
          rfl
        rw [hroute]
        exact .refused e hrefuses
      | ok isDirectory =>
        cases isDirectory with
        | false =>
          have hroute : pathRouteOrAbsent fs settings path = Progress.note (.file path) := by
            unfold pathRouteOrAbsent pathRoute
            rw [hexists, hdirectory]
            rfl
          rw [hroute]
          exact .file hholds (FileError.eq_ok_of_lift hdirectory)
        | true =>
          have hroute : pathRouteOrAbsent fs settings path
              = (directoryRoute fs settings path path).andThen fun _ => .quiet (.ok ()) := by
            have hguarded : (directoryRoute fs settings path path).Guarded fs fun _ => False :=
              guarded_directoryRouteFrom hselects _ fs.depth hholds
            unfold pathRouteOrAbsent pathRoute
            rw [hexists, hdirectory]
            show Progress.recover ((directoryRoute fs settings path path).andThen _) _ = _
            -- what ends the way through a directory is nothing that is caught here
            cases hresult : (directoryRoute fs settings path path).result with
            | ok complete =>
              rw [Progress.andThen_of_ok _ hresult, Progress.andThen_of_ok _ hresult]
              rfl
            | error f =>
              obtain ⟨e, _, rfl, -⟩ := hguarded.ends f hresult
              rw [Progress.andThen_of_error _ hresult, Progress.andThen_of_error _ hresult]
              rfl
          rw [hroute]
          exact .directory (FileError.eq_ok_of_lift hdirectory)

/-- There is nothing at a path, and the operating system says so. -/
def FileSystem.lacks (fs : FileSystem) (path : Path) : Bool :=
  match fs.exists? path with
  | .ok false => true
  | _ => false

/-- The way for one path is guarded by the path. -/
theorem guarded_pathRouteOrAbsent (hselects : settings.Selects suffixes patterns)
    {asked : Path → Prop} {path : Path} (hasked : asked path) :
    (pathRouteOrAbsent fs settings path).Guarded fs asked := by
  have hway := pathWay fs hselects path
  generalize pathRouteOrAbsent fs settings path = route at hway
  cases hway with
  | refused e hrefuses => exact Route.Guarded.refused hrefuses hasked
  | absent reason => exact Route.Guarded.note fun _ hpath => by cases hpath
  | directory hdirectory =>
    have hholds := FileSystem.holds_of_isDirectory hdirectory
    exact (guarded_directoryRouteFrom hselects asked fs.depth hholds).andThen
      fun _ _ => Route.Guarded.done ()
  | file hholds =>
    refine Route.Guarded.note fun other hother => ?_
    obtain rfl := Stop.file.inj hother
    exact hholds

/-- **The way for a list of paths is guarded by them.** -/
theorem guarded_pathsRoute (fs : FileSystem) (hselects : settings.Selects suffixes patterns)
    (paths : List Path) :
    (pathsRoute fs settings paths).Guarded fs (· ∈ paths) :=
  Route.Guarded.each fun _ hpath => guarded_pathRouteOrAbsent hselects hpath

/-- The way for one path finds nothing exactly where the path lacks everything. -/
theorem absent_pathRouteOrAbsent (hselects : settings.Selects suffixes patterns) {path : Path}
    (h : (pathRouteOrAbsent fs settings path).result = .ok ()) :
    (pathRouteOrAbsent fs settings path).notes.filterMap Stop.absent?
      = if fs.lacks path then [path] else [] := by
  have hway := pathWay fs hselects path
  generalize pathRouteOrAbsent fs settings path = route at h hway
  have hthere : fs.Holds path → fs.lacks path = false := by
    intro hholds
    unfold FileSystem.lacks
    rw [FileSystem.exists_eq_true_iff.2 hholds]
  cases hway with
  | refused e hrefuses => cases h
  | absent reason hexists =>
    have hlacks : fs.lacks path = true := by
      unfold FileSystem.lacks
      rw [hexists]
    rw [if_pos hlacks]
    rfl
  | directory hdirectory =>
    rw [hthere (FileSystem.holds_of_isDirectory hdirectory), if_neg Bool.false_ne_true]
    obtain ⟨complete, hcomplete, -⟩ := Progress.result_andThen_eq_ok_iff.1 h
    rw [Progress.andThen_of_ok _ hcomplete]
    show List.filterMap Stop.absent? ((directoryRoute fs settings path path).notes ++ []) = []
    rw [List.append_nil]
    exact absent_directoryRouteFrom path fs.depth path
  | file hholds =>
    rw [hthere hholds, if_neg Bool.false_ne_true]
    rfl

/-- **A way that comes to its end has found nothing at the paths that lack everything,** in their
order, and at no others. -/
theorem absent_pathsRoute (hselects : settings.Selects suffixes patterns) {paths : List Path}
    (h : (pathsRoute fs settings paths).result = .ok ()) :
    (pathsRoute fs settings paths).notes.filterMap Stop.absent? = paths.filter fs.lacks := by
  unfold pathsRoute at h ⊢
  have heach := Progress.result_each_eq_ok_iff.1 h
  rw [Progress.notes_each heach, List.filterMap_flatMap]
  clear h
  induction paths with
  | nil => rfl
  | cons path rest ih =>
    obtain ⟨hfirst, hrest⟩ := List.forall_mem_cons.1 heach
    rw [List.flatMap_cons, absent_pathRouteOrAbsent hselects hfirst, ih hrest]
    by_cases hlacks : fs.lacks path = true
    · rw [if_pos hlacks, List.filter_cons_of_pos hlacks]
      rfl
    · rw [if_neg hlacks, List.filter_cons_of_neg hlacks]
      rfl

/-! ## Runs -/

/-- **A visit breaks off at a file that is given up and nowhere else.** -/
theorem Stop.result_visit (haccepted : settings.check = .ok settings) {stop : Stop}
    (hholds : ∀ path, stop = .file path → fs.Holds path) :
    (stop.visit fs settings).result = .ok ()
        ∧ (∀ path, stop = .file path → ∀ f, ¬ GivenUp fs settings path f)
      ∨ ∃ f, (stop.visit fs settings).result = .error f
        ∧ ∃ path, stop = .file path ∧ GivenUp fs settings path f := by
  cases stop with
  | file path =>
    have hencoding := (Settings.check_eq_ok_iff.1 haccepted).2.2
    have hreads := readSource_cases hencoding (hholds path rfl)
    have hvisits := Stop.visitsFile fs settings path
    generalize Stop.visit fs settings (.file path) = visited at hvisits
    rcases hreads with ⟨source, hok, hkept⟩ | ⟨about, reason, haccess, hkept⟩ |
      ⟨f, hfails, hgiven⟩
    · left
      cases hvisits with
      | surveyed => exact ⟨rfl, fun other hother => Stop.file.inj hother ▸ hkept⟩
      | unreadable => exact ⟨rfl, fun other hother => Stop.file.inj hother ▸ hkept⟩
      | broken e hother hread => cases hok.symm.trans hread
    · left
      cases hvisits with
      | surveyed => exact ⟨rfl, fun other hother => Stop.file.inj hother ▸ hkept⟩
      | unreadable => exact ⟨rfl, fun other hother => Stop.file.inj hother ▸ hkept⟩
      | broken e hother hread =>
        exact absurd (Except.error.inj (hread.symm.trans haccess)) (hother about reason)
    · right
      cases hvisits with
      | surveyed source hread => cases hfails.symm.trans hread
      | unreadable about reason hread =>
        exact absurd (Except.error.inj (hfails.symm.trans hread)) (hgiven.ne_fileAccess _ _)
      | broken e hother hread =>
        obtain rfl := Except.error.inj (hread.symm.trans hfails)
        exact ⟨e, rfl, path, rfl, hgiven⟩
  | directory path | unlisted path problem | absent path reason =>
    exact Or.inl ⟨rfl, fun other hother => by cases hother⟩

/-- A guarded route is taken to the end of the way, or breaks off at a file that is given up. -/
theorem Route.Guarded.result_taken {α : Type} {route : Route α} {asked : Path → Prop}
    (hguarded : route.Guarded fs asked) (haccepted : settings.check = .ok settings) :
    (route.taken (fun _ => fs) settings).result = route.result
        ∧ (∀ path, .file path ∈ route.notes → ∀ f, ¬ GivenUp fs settings path f)
      ∨ ∃ f, (route.taken (fun _ => fs) settings).result = .error f
        ∧ ∃ path, .file path ∈ route.notes ∧ GivenUp fs settings path f := by
  have hvisit : ∀ stop ∈ route.notes, _ := fun stop hstop =>
    Stop.result_visit haccepted fun path hpath => hguarded.files path (hpath ▸ hstop)
  rw [Route.taken_eq]
  cases heach : (Progress.each (Stop.visit fs settings) route.notes).result with
  | ok u =>
    -- no visit broke off, so no file on the route is given up
    left
    rw [Progress.andThen_of_ok _ heach]
    refine ⟨rfl, fun path hpath => ?_⟩
    have hok := Progress.result_each_eq_ok_iff.1 heach _ hpath
    rcases hvisit _ hpath with ⟨-, hkept⟩ | ⟨f, hfails, -⟩
    · exact hkept path rfl
    · cases hok.symm.trans hfails
  | error f =>
    -- some visit broke off, and only a file that is given up makes one do so
    right
    rw [Progress.andThen_of_error _ heach]
    obtain ⟨stop, hstop, hbroken⟩ := Progress.exists_of_result_each_eq_error heach
    rcases hvisit stop hstop with ⟨hok, -⟩ | ⟨f', hfails, path, rfl, hgiven⟩
    · cases hok.symm.trans hbroken
    · obtain rfl := Except.error.inj (hbroken.symm.trans hfails)
      exact ⟨f, rfl, path, hstop, hgiven⟩

/-- **What a run comes to.** Let the settings be accepted and their exclude patterns be texts. A run
over some paths returns, and then no file it came to is given up, the missing paths are those at
which there is nothing, and every file is counted once or is among what could not be read, in the
order of the way. Or it breaks off, and then either it came to a file that is given up, or the
operating system refused to tell what is at one of the paths or at an entry of a directory on the
way. -/
theorem run_returns_or_meets_exception (haccepted : settings.check = .ok settings)
    (hpatterns : (settings.value .excludePatterns).elements = .ok (patterns.map .text))
    {paths : List Path} (hpaths : paths ≠ []) :
    let stops := (pathsRoute fs settings paths).notes
    (∃ r, Checker.run fs settings paths = .ok r
        ∧ (∀ path, .file path ∈ stops → ∀ f, ¬ GivenUp fs settings path f)
        ∧ r.missing = paths.filter fs.lacks
        ∧ r.counters.files = ((stops.filter (Stop.surveys fs settings)).length : Int)
        ∧ r.unreadable = stops.filterMap (Stop.unreadable? fs settings))
      ∨ (∃ f path, Checker.run fs settings paths = .error f ∧ .file path ∈ stops
        ∧ GivenUp fs settings path f)
      ∨ ∃ e path, Checker.run fs settings paths = .error (.file e) ∧ fs.Refuses path e
        ∧ (path ∈ paths ∨ Listed fs stops path) := by
  intro stops
  obtain ⟨suffixes, hselects⟩ := Settings.exists_selects haccepted hpatterns
  have hguarded := guarded_pathsRoute fs hselects paths
  have hrun : ∀ f, (checkPaths fs settings paths).result = .error f →
      Checker.run fs settings paths = .error f := by
    intro f hf
    cases paths with
    | nil => exact absurd rfl hpaths
    | cons path rest =>
      unfold Checker.run
      dsimp only
      rw [hf]
      rfl
  rcases hguarded.result_taken haccepted with
    ⟨hend, hkept⟩ | ⟨f, hfails, path, hstop, hgiven⟩
  · cases hresult : (pathsRoute fs settings paths).result with
    | error f =>
      obtain ⟨e, path, rfl, hrefuses, hwhere⟩ := hguarded.ends f hresult
      exact Or.inr (Or.inr ⟨e, path, hrun _ (hend.trans hresult), hrefuses, hwhere⟩)
    | ok u =>
      have htaken : (checkPaths fs settings paths).result = .ok () := hend.trans hresult
      obtain ⟨habsent, hunreadable, hfiles, -⟩ := Route.journal_of_taken htaken
      refine Or.inl ⟨_, Checker.run_eq_ok_iff.2 ⟨hpaths, htaken, rfl⟩, hkept, ?_, hfiles,
        hunreadable⟩
      exact habsent.trans (absent_pathsRoute hselects hresult)
  · exact Or.inr (Or.inl ⟨f, path, hrun _ hfails, hstop, hgiven⟩)

/-- Three files in UTF-16: one that does not tell its byte order, one that does, one that cannot be
opened. -/
def FileSystem.threeInUtf16 : FileSystem where
  root := [("a.php", .file [0x3c, 0x3f] false), ("b.php", .file [0xff, 0xfe, 0x3c, 0x00] false),
    ("c.php", .file [] true)]
  current := []

/-- Settings for files in UTF-16. -/
def Settings.inUtf16 : Settings := Settings.default.set .encoding (.text "utf-16")

theorem accepted_inUtf16 : Settings.inUtf16.check = .ok .inUtf16 := by cbv

/-- A file that tells its byte order, a file that cannot be opened and a path at which there is
nothing are run: each has its place in the report. -/
theorem run_returns_with_missing_and_locked :
    ∃ r, Checker.run .threeInUtf16 .inUtf16
          [⟨"", ["b.php"]⟩, ⟨"", ["c.php"]⟩, ⟨"", ["d.php"]⟩] = .ok r
        ∧ r.missing = [⟨"", ["d.php"]⟩] ∧ r.counters.files = 1
        ∧ r.unreadable = [⟨"", ["c.php"]⟩] := by
  have hroute : pathsRoute .threeInUtf16 .inUtf16
        [⟨"", ["b.php"]⟩, ⟨"", ["c.php"]⟩, ⟨"", ["d.php"]⟩]
      = ⟨[.file ⟨"", ["b.php"]⟩, .file ⟨"", ["c.php"]⟩,
          .absent ⟨"", ["d.php"]⟩ "File or directory does not exist"], .ok ()⟩ := by cbv
  have hcheck : (checkPaths .threeInUtf16 .inUtf16
      [⟨"", ["b.php"]⟩, ⟨"", ["c.php"]⟩, ⟨"", ["d.php"]⟩]).result = .ok () := by cbv
  have hrun := Checker.run_eq_ok_iff.2 ⟨List.cons_ne_nil _ _, hcheck, rfl⟩
  have hpatterns : (Settings.inUtf16.value .excludePatterns).elements
      = .ok ([".git", ".svn", ".hg"].map .text) := rfl
  rcases run_returns_or_meets_exception accepted_inUtf16 hpatterns (List.cons_ne_nil _ _) with
    ⟨r, hr, -, hmissing, hfiles, hunreadable⟩ | ⟨f, path, hfails, -⟩ | ⟨e, path, hfails, -⟩
  · rw [hroute] at hfiles hunreadable
    refine ⟨r, hr, hmissing.trans ?_, hfiles.trans ?_, hunreadable.trans ?_⟩
    · cbv
    · cbv
    · cbv
  · cases hrun.symm.trans hfails
  · cases hrun.symm.trans hfails

/-- Settings for files of domain names. -/
def Settings.inDomainNames : Settings := Settings.default.set .encoding (.text "idna")

/-- **A file that is given up ends a run,** and what comes behind it is not checked, although it
could be read: a file that does not tell its byte order, and any file of domain names. -/
theorem run_breaks_off_at_given_up_file :
    (Settings.inUtf16.check = .ok .inUtf16
      ∧ Checker.run .threeInUtf16 .inUtf16 [⟨"", ["a.php"]⟩, ⟨"", ["b.php"]⟩]
        = .error .unmarkedText
      ∧ (Stop.file ⟨"", ["b.php"]⟩).surveys .threeInUtf16 .inUtf16 = true)
      ∧ Settings.inDomainNames.check = .ok .inDomainNames
      ∧ Checker.run .threeInUtf16 .inDomainNames [⟨"", ["b.php"]⟩] = .error .unusableEncoding := by
  refine ⟨⟨accepted_inUtf16, ?_, ?_⟩, ?_, ?_⟩
  · cbv
  · cbv
  · cbv
  · cbv

/-- Below a directory that cannot be opened nothing is said to be missing, and the run ends. -/
example : Checker.run { root := [("d", .directory [] true)], current := [] } .default
    [⟨"", ["d", "a.php"]⟩] = .error (.file .denied) := by cbv

end DocCoverage
