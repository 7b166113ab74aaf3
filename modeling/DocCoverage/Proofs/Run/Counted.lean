/-
What a run counts. Its tallies, its findings and its number of files are those of the texts that were
read, and of nothing else: a file that cannot be read is noted and counts for nothing.

With directories it is not so. One is counted when the run comes to it, before its entries are asked for,
so a directory that cannot be listed is counted and noted as unreadable all the same. The number of
directories is that of the listed ones and of those together.
-/
import DocCoverage.Proofs.Run.Noted
import DocCoverage.Proofs.Run.Reporting

set_option autoImplicit false

namespace DocCoverage

/-! ## Unforeseen failures -/

/-- **A computation breaks off for an unforeseen reason only,** if it breaks off at all: for none that
there is a problem for. -/
def OnlyUnforeseen {α : Type} (result : Result α) : Prop := ∀ p, result ≠ .error (.problem p)

namespace OnlyUnforeseen

variable {α β : Type}

theorem done (a : α) : OnlyUnforeseen (.ok a) := fun _ => nofun

/-- The reason is the same for whatever is broken off. -/
theorem error {f : Failure} (h : OnlyUnforeseen (.error f : Result α)) :
    OnlyUnforeseen (.error f : Result β) :=
  fun p hp => h p (congrArg Except.error (Except.error.inj hp))

/-- One such computation and then another are such a computation. -/
theorem bind {result : Result α} {next : α → Result β} (hresult : OnlyUnforeseen result)
    (hnext : ∀ a, OnlyUnforeseen (next a)) : OnlyUnforeseen (result >>= next) := by
  cases result with
  | error f => exact hresult.error
  | ok a => exact hnext a

/-- A choice between two such computations is one. -/
theorem ite {condition : Bool} {result other : Result α} (hresult : OnlyUnforeseen result)
    (hother : OnlyUnforeseen other) : OnlyUnforeseen (if condition then result else other) := by
  cases condition with
  | false => exact hother
  | true => exact hresult

end OnlyUnforeseen

/-- There is no problem for an answer that the operating system refuses. -/
theorem onlyUnforeseen_lift {α : Type} (answer : Except FileError α) :
    OnlyUnforeseen (FileError.lift answer) := by
  intro p
  cases answer with
  | ok a => exact nofun
  | error e => cases e <;> exact nofun

/-- A search through values breaks off only where one of its tests does. -/
theorem onlyUnforeseen_anyValue {test : Value → Result Bool} (htest : ∀ v, OnlyUnforeseen (test v))
    (values : List Value) : OnlyUnforeseen (anyValue test values) := by
  fun_induction anyValue test values with
  | case1 => exact OnlyUnforeseen.done false
  | case2 => exact OnlyUnforeseen.done true
  | case3 v rest hno ih => exact ih
  | case4 v rest f hbroken => exact hbroken ▸ htest v

/-- There is no problem for a setting that has no elements. -/
theorem onlyUnforeseen_elements (v : Value) : OnlyUnforeseen v.elements := by
  cases v <;> exact fun _ => nofun

/-- There is no problem for an entry without a verdict. -/
theorem onlyUnforeseen_accepts (selection : Selection) (fs : FileSystem) (root path : Path) :
    OnlyUnforeseen (selection.accepts fs root path) := by
  have hexcluded : OnlyUnforeseen (isExcluded root selection.patterns path) :=
    onlyUnforeseen_anyValue (fun v => by cases v <;> exact fun _ => nofun) selection.patterns
  have hsuffix : OnlyUnforeseen (hasSuffix selection.suffixes path) :=
    onlyUnforeseen_anyValue (fun v => by cases v <;> exact fun _ => nofun) selection.suffixes
  unfold Selection.accepts
  refine hexcluded.bind fun excluded => .ite (.done false) ?_
  refine (onlyUnforeseen_lift _).bind fun directory => .ite ?_ ?_
  · exact (onlyUnforeseen_lift _).bind fun link => .ite (.done _) (.done true)
  · exact (onlyUnforeseen_lift _).bind fun file => .ite hsuffix (.done false)

/-- Nor is there one for a choice between entries. -/
theorem onlyUnforeseen_filter (selection : Selection) (fs : FileSystem) (root : Path)
    (paths : List Path) : OnlyUnforeseen (selection.filter fs root paths) := by
  induction paths with
  | nil => exact .done []
  | cons path rest ih =>
    exact (onlyUnforeseen_accepts selection fs root path).bind fun accepted =>
      ih.bind fun others => .done _

/-! ## Directories that can be listed -/

/-- The names in a directory can be had. -/
def FileSystem.lists (fs : FileSystem) (path : Path) : Bool := (fs.list path).isOk

section Listing

variable {fs : FileSystem} {directory : Path}

/-- A directory that is there and cannot be listed breaks off the search for its entries, and there is
a problem for that. -/
theorem entriesToCheck_of_closed (settings : Settings) (root : Path)
    (hdirectory : fs.isDirectory? directory = .ok true) (h : fs.lists directory = false) :
    ∃ reason, entriesToCheck fs settings root directory
      = .error (.problem (.fileAccess directory reason)) := by
  unfold FileSystem.lists at h
  cases hlist : fs.list directory with
  | ok names =>
    rw [hlist] at h
    cases h
  | error e =>
    have hforeseen := FileSystem.ne_zeroInPath_of_list
      (FileSystem.holds_of_isDirectory hdirectory) hlist
    refine ⟨"OS error: " ++ e.shown directory.shown, ?_⟩
    unfold entriesToCheck listDirectory
    rw [hlist, ← refused_eq_fileAccess hforeseen]

/-- **Once a directory is listed,** there is no problem for what breaks off the search for its
entries. -/
theorem onlyUnforeseen_entriesToCheck (settings : Settings) (root : Path)
    (h : fs.lists directory = true) :
    OnlyUnforeseen (entriesToCheck fs settings root directory) := by
  unfold FileSystem.lists at h
  unfold entriesToCheck listDirectory
  cases hlist : fs.list directory with
  | error e =>
    rw [hlist] at h
    cases h
  | ok names =>
    exact (onlyUnforeseen_elements _).bind fun suffixes =>
      (onlyUnforeseen_elements _).bind fun patterns => onlyUnforeseen_filter _ fs root _

end Listing

/-! ## Ways on which directories are accounted for -/

namespace Stop

/-- The directory that a stop goes through. -/
def directory? : Stop → Option Path
  | .directory path => some path
  | _ => none

/-- The directory that a stop says cannot be listed. -/
def unlisted? : Stop → Option Path
  | .unlisted path _ => some path
  | _ => none

end Stop

namespace Route

variable {α β : Type} {fs : FileSystem} {settings : Settings}

/-- The directories on a route. -/
def directories (route : Route α) : List Path := route.notes.filterMap Stop.directory?

/-- The files on a route. -/
def files (route : Route α) : List Path := route.notes.filterMap Stop.file?

/-- The directories that a route says cannot be listed. -/
def unlisted (route : Route α) : List Path := route.notes.filterMap Stop.unlisted?

/-- **A route accounts for its directories:** if it comes to its end, the directories that it says
cannot be listed are those of its directories that cannot be, in order. Its directories are directories
and its files are not, and where it breaks off there is no problem for that. -/
structure Accounts (fs : FileSystem) (route : Route α) : Prop where
  unlisted : ∀ a, route.result = .ok a →
    route.unlisted = route.directories.filter fun path => !fs.lists path
  directories : ∀ path ∈ route.directories, fs.isDirectory? path = .ok true
  files : ∀ path ∈ route.files, fs.isDirectory? path = .ok false
  unforeseen : OnlyUnforeseen route.result

namespace Accounts

/-- A result at hand accounts for nothing. -/
theorem quiet {result : Result α} (h : OnlyUnforeseen result) :
    Accounts fs (Progress.quiet result) where
  unlisted _ _ := rfl
  directories _ hpath := absurd hpath List.not_mem_nil
  files _ hpath := absurd hpath List.not_mem_nil
  unforeseen := h

/-- One such route and then another are such a route. -/
theorem andThen {route : Route α} {next : α → Route β} (hroute : Accounts fs route)
    (hnext : ∀ a, route.result = .ok a → Accounts fs (next a)) :
    Accounts fs (route.andThen next) := by
  cases hresult : route.result with
  | error f =>
    rw [Progress.andThen_of_error next hresult]
    have hunforeseen := hroute.unforeseen
    rw [hresult] at hunforeseen
    exact ⟨fun _ => nofun, hroute.directories, hroute.files, hunforeseen.error⟩
  | ok a =>
    have hlater := hnext a hresult
    rw [Progress.andThen_of_ok next hresult]
    refine ⟨fun b hb => ?_, fun path hpath => ?_, fun path hpath => ?_, hlater.unforeseen⟩
    · have hfirst := hroute.unlisted a hresult
      have hsecond := hlater.unlisted b hb
      unfold Route.unlisted Route.directories at *
      rw [List.filterMap_append, List.filterMap_append, List.filter_append, hfirst, hsecond]
    · unfold Route.directories at hpath
      rw [List.filterMap_append, List.mem_append] at hpath
      exact hpath.elim (hroute.directories path) (hlater.directories path)
    · unfold Route.files at hpath
      rw [List.filterMap_append, List.mem_append] at hpath
      exact hpath.elim (hroute.files path) (hlater.files path)

/-- Such a route for each element of a list is such a route. -/
theorem each {act : α → Route Unit} {l : List α} (h : ∀ a ∈ l, Accounts fs (act a)) :
    Accounts fs (Progress.each act l) := by
  induction l with
  | nil => exact quiet (.done ())
  | cons a rest ih =>
    obtain ⟨hfirst, hrest⟩ := List.forall_mem_cons.1 h
    exact hfirst.andThen fun _ _ => ih hrest

/-- Where problems only are caught, nothing of such a route is. -/
theorem recover {route : Route α} {caught : Failure → Option (Route α)} (h : Accounts fs route)
    (hcaught : ∀ f, (∀ p, f ≠ .problem p) → caught f = none) :
    Accounts fs (route.recover caught) := by
  have hsame : route.recover caught = route := by
    unfold Progress.recover
    cases hresult : route.result with
    | ok a => rfl
    | error f =>
      have hother : ∀ p, f ≠ .problem p := fun p hp =>
        h.unforeseen p (hresult.trans (congrArg Except.error hp))
      dsimp only
      rw [hcaught f hother]
  rw [hsame]
  exact h

/-- A file is no directory. -/
theorem file {path : Path} (h : fs.isDirectory? path = .ok false) :
    Accounts fs (Progress.note (.file path)) where
  unlisted _ _ := rfl
  directories _ hpath := absurd hpath List.not_mem_nil
  files _ hother := List.mem_singleton.1 hother ▸ h
  unforeseen := .done ()

/-- Where there is nothing, there is no directory either. -/
theorem absent (path : Path) (reason : String) :
    Accounts fs (Progress.note (.absent path reason)) where
  unlisted _ _ := rfl
  directories _ hpath := absurd hpath List.not_mem_nil
  files _ hpath := absurd hpath List.not_mem_nil
  unforeseen := .done ()

/-- A directory that can be listed needs no more to be said. -/
theorem listed {path : Path} (h : fs.isDirectory? path = .ok true) (hlists : fs.lists path = true) :
    Accounts fs (Progress.note (.directory path)) where
  unlisted _ _ := by
    show [] = [path].filter _
    rw [List.filter_cons_of_neg (by rw [hlists]; exact Bool.false_ne_true), List.filter_nil]
  directories _ hother := List.mem_singleton.1 hother ▸ h
  files _ hpath := absurd hpath List.not_mem_nil
  unforeseen := .done ()

/-- Of a directory that cannot be listed it is said so right behind. -/
theorem closed {path : Path} (problem : Problem) (a : α) (h : fs.isDirectory? path = .ok true)
    (hlists : fs.lists path = false) :
    Accounts fs ⟨[.directory path, .unlisted path problem], .ok a⟩ where
  unlisted _ _ := by
    show [path] = [path].filter _
    rw [List.filter_cons_of_pos (by rw [hlists]; rfl), List.filter_nil]
  directories _ hother := List.mem_singleton.1 hother ▸ h
  files _ hpath := absurd hpath List.not_mem_nil
  unforeseen := .done a

end Accounts

end Route

section Ways

variable {fs : FileSystem} {settings : Settings}

/-- **The way through a directory accounts for it and for all directories below.** -/
theorem accounts_directoryRouteFrom (root : Path) (depth : Nat) {directory : Path}
    (h : fs.isDirectory? directory = .ok true) :
    (directoryRouteFrom fs settings root depth directory).Accounts fs := by
  induction depth generalizing directory with
  | zero => exact .quiet (.done false)
  | succ depth ih =>
    unfold directoryRouteFrom
    cases hlists : fs.lists directory with
    | false =>
      obtain ⟨reason, hentries⟩ := entriesToCheck_of_closed settings root h hlists
      rw [hentries]
      exact .closed _ false h hlists
    | true =>
      have hunforeseen := onlyUnforeseen_entriesToCheck settings root hlists
      refine (Route.Accounts.listed h hlists).andThen fun _ _ => ?_
      cases hentries : entriesToCheck fs settings root directory with
      | error f =>
        -- the directory is listed, so what ends the way here is not caught
        rw [hentries] at hunforeseen
        cases f with
        | problem p => exact absurd rfl (hunforeseen p)
        | wrongType | notText | zeroInName | unknownEncoding | unmarkedText | unusableEncoding
        | file | markup =>
          exact .quiet hunforeseen.error
      | ok entries =>
        refine Route.Accounts.andThen (.each fun entry _ => ?_) fun _ _ => .quiet (.done true)
        refine Route.Accounts.andThen (.quiet (onlyUnforeseen_lift _)) fun isDirectory hanswer => ?_
        have hdirectory := FileError.eq_ok_of_lift hanswer
        cases isDirectory with
        | true => exact (ih hdirectory).andThen fun _ _ => .quiet (.done ())
        | false => exact .file hdirectory

/-- The way for a path at which there is something accounts for its directories. -/
theorem accounts_pathRoute {path : Path} (hexists : fs.exists? path = .ok true) :
    (pathRoute fs settings path).Accounts fs := by
  have hroute : pathRoute fs settings path
      = (Progress.quiet (FileError.lift (fs.isDirectory? path))).andThen fun isDirectory =>
        if isDirectory then
          (directoryRoute fs settings path path).andThen fun _ => .quiet (.ok ())
        else Progress.note (.file path) := by
    unfold pathRoute
    rw [hexists]
    rfl
  rw [hroute]
  refine Route.Accounts.andThen (.quiet (onlyUnforeseen_lift _)) fun isDirectory hanswer => ?_
  have hdirectory := FileError.eq_ok_of_lift hanswer
  cases isDirectory with
  | true =>
    exact (accounts_directoryRouteFrom path fs.depth hdirectory).andThen fun _ _ =>
      .quiet (.done ())
  | false => exact .file hdirectory

/-- The way for one path accounts for its directories. -/
theorem accounts_pathRouteOrAbsent (fs : FileSystem) (settings : Settings) (path : Path) :
    (pathRouteOrAbsent fs settings path).Accounts fs := by
  -- where nothing is, a problem is raised and caught, but then no directory was gone through
  by_cases hlacks : fs.exists? path = .ok false
  · have hroute : pathRouteOrAbsent fs settings path
        = Progress.note (.absent path "File or directory does not exist") := by
      unfold pathRouteOrAbsent pathRoute
      rw [hlacks]
      rfl
    rw [hroute]
    exact .absent path _
  · have hroute : (pathRoute fs settings path).Accounts fs := by
      cases hexists : fs.exists? path with
      | error e =>
        unfold pathRoute
        rw [hexists]
        refine Route.Accounts.andThen (.quiet (onlyUnforeseen_lift _)) fun there hthere => ?_
        cases FileError.eq_ok_of_lift hthere
      | ok there =>
        cases there with
        | false => exact absurd hexists hlacks
        | true => exact accounts_pathRoute hexists
    refine hroute.recover fun f hf => ?_
    cases f with
    | problem p => exact absurd rfl (hf p)
    | wrongType | notText | zeroInName | unknownEncoding | unmarkedText | unusableEncoding | file
    | markup => rfl

/-- **The way for a list of paths accounts for its directories.** -/
theorem accounts_pathsRoute (fs : FileSystem) (settings : Settings) (paths : List Path) :
    (pathsRoute fs settings paths).Accounts fs :=
  .each fun path _ => accounts_pathRouteOrAbsent fs settings path

end Ways

/-! ## What one stop adds -/

/-- A file together with its text, if that can be had. -/
def fileText? (fs : FileSystem) (settings : Settings) (path : Path) : Option (Path × String) :=
  match readSource fs path settings.encodingName .replace with
  | .ok source => some (path, source)
  | .error _ => none

/-- A text among those of some files is that of one of them. -/
theorem of_mem_texts {fs : FileSystem} {settings : Settings} {files : List Path} {path : Path}
    {text : String} (h : (path, text) ∈ files.filterMap (fileText? fs settings)) :
    path ∈ files ∧ fileText? fs settings path = some (path, text) := by
  obtain ⟨other, hother, htext⟩ := List.mem_filterMap.1 h
  have hread := htext
  unfold fileText? at hread
  split at hread
  next source hsource =>
    obtain ⟨rfl, rfl⟩ := Prod.mk.inj (Option.some.inj hread)
    exact ⟨hother, htext⟩
  next => cases hread

namespace Stop

variable {fs : FileSystem} {settings : Settings} {stop : Stop}

/-- A file is surveyed exactly if its text can be had. -/
theorem surveys_eq (fs : FileSystem) (settings : Settings) (stop : Stop) :
    stop.surveys fs settings = (stop.file?.bind (fileText? fs settings)).isSome := by
  cases stop with
  | file path =>
    dsimp only [surveys, file?, Option.bind_some, fileText?]
    cases readSource fs path settings.encodingName .replace <;> rfl
  | directory path | unlisted path problem | absent path reason => rfl

/-- **What a visit adds that does not break off:** the tallies and the findings of the text that is had
there, if one is. -/
theorem visit_adds (h : (stop.visit fs settings).result = .ok ()) :
    let surveyed := (stop.file?.bind (fileText? fs settings)).toList.flatMap fun f =>
      (checkSource settings f.2 f.1.shown).notes
    (Journal.counters (stop.visit fs settings).notes).tallies
        = (Journal.counters surveyed).tallies
      ∧ Journal.findings settings.reports (stop.visit fs settings).notes
        = Journal.findings settings.reports surveyed := by
  intro surveyed
  cases stop with
  | file path =>
    have hsurveyed : surveyed = (fileText? fs settings path).toList.flatMap fun f =>
      (checkSource settings f.2 f.1.shown).notes := rfl
    have hvisits := visitsFile fs settings path
    generalize visit fs settings (.file path) = visited at h hvisits
    cases hvisits with
    | surveyed source hread =>
      have htext : fileText? fs settings path = some (path, source) := by rw [fileText?, hread]
      rw [hsurveyed, htext, Option.toList_some, List.flatMap_singleton]
      exact ⟨rfl, rfl⟩
    | unreadable about reason hread =>
      have htext : fileText? fs settings path = none := by rw [fileText?, hread]
      rw [hsurveyed, htext]
      exact ⟨rfl, rfl⟩
    | broken => cases h
  | directory path | unlisted path problem | absent path reason => exact ⟨rfl, rfl⟩

end Stop

/-! ## What all stops add -/

/-- Tallies that are the same for every part of two journals are the same for both. -/
theorem Journal.tallies_flatMap_congr {α : Type} {notes others : α → Journal} {parts : List α}
    (h : ∀ part ∈ parts,
      (counters (notes part)).tallies = (counters (others part)).tallies) :
    (counters (parts.flatMap notes)).tallies = (counters (parts.flatMap others)).tallies := by
  induction parts with
  | nil => rfl
  | cons part rest ih =>
    obtain ⟨hpart, hrest⟩ := List.forall_mem_cons.1 h
    rw [List.flatMap_cons, List.flatMap_cons, counters_append, counters_append, Counters.plus,
      Counters.plus, hpart, ih hrest]

section Stops

variable (fs : FileSystem) (settings : Settings) (stops : List Stop)

/-- As many directories are gone through as there are on the way. -/
theorem length_directories :
    (stops.filter Stop.isDirectory).length = (stops.filterMap Stop.directory?).length := by
  rw [List.length_filterMap_eq_countP, List.countP_eq_length_filter]
  refine congrArg (fun goneThrough => (stops.filter goneThrough).length) (funext fun stop => ?_)
  cases stop <;> rfl

/-- As many files are surveyed as have a text that can be had. -/
theorem length_surveyed :
    (stops.filter (Stop.surveys fs settings)).length
      = ((stops.filterMap Stop.file?).filterMap (fileText? fs settings)).length := by
  rw [List.filterMap_filterMap, List.length_filterMap_eq_countP, List.countP_eq_length_filter]
  exact congrArg (fun surveyed => (stops.filter surveyed).length)
    (funext fun stop => stop.surveys_eq fs settings)

/-- What is noted as unreadable are directories that cannot be listed and files without a text. -/
theorem unreadable_perm :
    (stops.filterMap (Stop.unreadable? fs settings)).Perm
      (stops.filterMap Stop.unlisted?
        ++ (stops.filterMap Stop.file?).filter fun path => (fileText? fs settings path).isNone) := by
  induction stops with
  | nil => exact List.Perm.refl []
  | cons stop rest ih =>
    cases stop with
    | unlisted path problem => exact ih.cons path
    | file path =>
      have hunlisted : (Stop.file path).unlisted? = none := rfl
      have hfile : (Stop.file path).file? = some path := rfl
      have hsurveys : (Stop.file path).surveys fs settings = (fileText? fs settings path).isSome :=
        Stop.surveys_eq fs settings (.file path)
      rw [List.filterMap_cons_none hunlisted, List.filterMap_cons_some hfile]
      cases htext : fileText? fs settings path with
      | some f =>
        have hunreadable : (Stop.file path).unreadable? fs settings = none := by
          rw [Stop.unreadable?, hsurveys, htext]
          rfl
        rw [List.filterMap_cons_none hunreadable,
          List.filter_cons_of_neg (by rw [htext]; exact Bool.false_ne_true)]
        exact ih
      | none =>
        have hunreadable : (Stop.file path).unreadable? fs settings = some path := by
          rw [Stop.unreadable?, hsurveys, htext]
          rfl
        -- the file comes behind all directories, wherever it stands among the stops
        rw [List.filterMap_cons_some hunreadable, List.filter_cons_of_pos (by rw [htext]; rfl)]
        exact (ih.cons path).trans List.perm_middle.symm
    | directory path | absent path reason => exact ih

end Stops

/-! ## A whole run -/

/-- **What cannot be listed or has no text** on a route that accounts for its directories is neither
listed nor surveyed there. -/
theorem Route.Accounts.apart {α : Type} {fs : FileSystem} {settings : Settings} {route : Route α}
    (h : route.Accounts fs) {path : Path}
    (hpath : path ∈ (route.directories.filter fun path => !fs.lists path)
      ++ route.files.filter fun path => (fileText? fs settings path).isNone) :
    path ∉ route.directories.filter (fun path => fs.lists path)
      ∧ ∀ text, (path, text) ∉ route.files.filterMap (fileText? fs settings) := by
  have hkinds : path ∈ route.directories → path ∉ route.files := by
    intro hdirectory hfile
    cases (h.directories path hdirectory).symm.trans (h.files path hfile)
  rcases List.mem_append.1 hpath with hclosed | hunread
  · obtain ⟨hdirectory, hlists⟩ := List.mem_filter.1 hclosed
    constructor
    · intro hlisted
      rw [(List.mem_filter.1 hlisted).2] at hlists
      cases hlists
    · intro text htext
      exact hkinds hdirectory (of_mem_texts htext).1
  · obtain ⟨hfile, hnone⟩ := List.mem_filter.1 hunread
    constructor
    · intro hlisted
      exact hkinds (List.mem_filter.1 hlisted).1 hfile
    · intro text htext
      rw [(of_mem_texts htext).2] at hnone
      cases hnone

/-- **What a run counts.** In a run that returns, the number of files, the tallies and the findings are
those of the files on the way whose text can be had, each surveyed under its name, and of nothing else.
What is noted as unreadable are the directories on the way that cannot be listed and the files without
a text; none of them is one of the listed directories or of the files that are surveyed. But the number
of directories is that of the listed ones and of those that cannot be listed together. -/
theorem counts_of_run {fs : FileSystem} {settings : Settings} {paths : List Path} {r : Report}
    (h : Checker.run fs settings paths = .ok r) :
    let route := pathsRoute fs settings paths
    let listed := route.directories.filter fun path => fs.lists path
    let closed := route.directories.filter fun path => !fs.lists path
    let texts := route.files.filterMap (fileText? fs settings)
    let unread := route.files.filter fun path => (fileText? fs settings path).isNone
    let surveyed := texts.flatMap fun f => (checkSource settings f.2 f.1.shown).notes
    r.counters.files = texts.length
      ∧ r.counters.directories = listed.length + closed.length
      ∧ r.counters.tallies = (Journal.counters surveyed).tallies
      ∧ r.findings = Journal.findings settings.reports surveyed
      ∧ r.unreadable.Perm (closed ++ unread)
      ∧ ∀ path ∈ r.unreadable, path ∉ listed ∧ ∀ text, (path, text) ∉ texts := by
  intro route listed closed texts unread surveyed
  obtain ⟨-, hresult, rfl⟩ := Checker.run_eq_ok_iff.1 h
  obtain ⟨hvisits, hend⟩ := Route.result_taken_eq_ok_iff.1 hresult
  obtain ⟨-, hunreadable, hfiles, hdirectories⟩ := Route.journal_of_taken hresult
  have hnotes := Route.notes_taken hresult
  have haccounts := accounts_pathsRoute fs settings paths
  have hperm : (Journal.unreadable (checkPaths fs settings paths).notes).Perm (closed ++ unread) := by
    refine (List.Perm.of_eq hunreadable).trans ((unreadable_perm fs settings route.notes).trans ?_)
    exact List.Perm.of_eq (congrArg (· ++ unread) (haccounts.unlisted () hend))
  have hsplit : route.directories.length = listed.length + closed.length :=
    List.length_eq_length_filter_add fun path => fs.lists path
  -- the texts in the order of the stops, each at its own
  have hsurveyed : surveyed = route.notes.flatMap fun stop =>
      (stop.file?.bind (fileText? fs settings)).toList.flatMap fun f =>
        (checkSource settings f.2 f.1.shown).notes := by
    show List.flatMap _ (List.filterMap _ (List.filterMap _ _)) = _
    rw [List.filterMap_filterMap, List.filterMap_eq_flatMap_toList, List.flatMap_assoc]
  refine ⟨?_, ?_, ?_, ?_, hperm, fun path hpath => ?_⟩
  · exact hfiles.trans (congrArg Nat.cast (length_surveyed fs settings route.notes))
  · rw [← Nat.cast_add, ← hsplit]
    exact hdirectories.trans (congrArg Nat.cast (length_directories route.notes))
  · rw [hsurveyed, ← Journal.tallies_flatMap_congr fun stop hstop =>
      (Stop.visit_adds (hvisits stop hstop)).1, ← hnotes]
    rfl
  · show Journal.findings _ (Route.taken _ _ _).notes = _
    rw [hsurveyed, hnotes]
    unfold Journal.findings
    rw [List.filterMap_flatMap, List.filterMap_flatMap]
    exact List.flatMap_congr fun stop hstop => (Stop.visit_adds (hvisits stop hstop)).2
  · exact haccounts.apart (hperm.mem_iff.1 hpath)

/-- A file and a directory that can be opened, and a file and a directory that cannot. -/
def FileSystem.halfLocked : FileSystem where
  root := [("a.php", .file [] false), ("b.php", .file [] true), ("c", .directory [] true),
    ("d", .directory [] false)]
  current := []

/-- All four are run: the file with a text counts for one file and makes its finding, and the other
makes none; but the locked directory counts like the one that is listed. -/
theorem counts_of_run_halfLocked :
    let paths : List Path := [⟨"", ["a.php"]⟩, ⟨"", ["b.php"]⟩, ⟨"", ["c"]⟩, ⟨"", ["d"]⟩]
    ∃ r, Checker.run .halfLocked .default paths = .ok r
      ∧ r.counters.files = 1 ∧ r.counters.directories = 2
      ∧ r.findings = [⟨"a.php", 1, missingMessage .file "" none⟩]
      ∧ r.unreadable.Perm [⟨"", ["c"]⟩, ⟨"", ["b.php"]⟩] := by
  intro paths
  let route := pathsRoute .halfLocked .default paths
  have hroute : route
      = ⟨[.file ⟨"", ["a.php"]⟩, .file ⟨"", ["b.php"]⟩, .directory ⟨"", ["c"]⟩,
          .unlisted ⟨"", ["c"]⟩
            (.fileAccess ⟨"", ["c"]⟩ "OS error: [Errno 13] Permission denied: 'c'"),
          .directory ⟨"", ["d"]⟩], .ok ()⟩ := by
    dsimp only [route, paths]
    cbv
  have hlisted : route.directories.filter (fun path => FileSystem.halfLocked.lists path)
      = [⟨"", ["d"]⟩] := by
    rw [hroute]
    cbv
  have hclosed : route.directories.filter (fun path => !FileSystem.halfLocked.lists path)
      = [⟨"", ["c"]⟩] := by
    rw [hroute]
    cbv
  have htexts : route.files.filterMap (fileText? .halfLocked .default)
      = [(⟨"", ["a.php"]⟩, "")] := by
    rw [hroute]
    cbv
  have hunread : route.files.filter (fun path => (fileText? .halfLocked .default path).isNone)
      = [⟨"", ["b.php"]⟩] := by
    rw [hroute]
    cbv
  have hsurvey : (checkSource .default "" "a.php").notes
      = [.file "a.php", .event "a.php" (.fileUndocumented 1)] := by cbv
  have hcheck : (checkPaths .halfLocked .default paths).result = .ok () := by cbv
  have hrun := Checker.run_eq_ok_iff.2 ⟨List.cons_ne_nil _ _, hcheck, rfl⟩
  obtain ⟨hfiles, hdirectories, -, hfindings, hunreadable, -⟩ := counts_of_run hrun
  rw [htexts] at hfiles hfindings
  rw [hlisted, hclosed] at hdirectories
  rw [hclosed, hunread] at hunreadable
  refine ⟨_, hrun, hfiles, hdirectories, hfindings.trans ?_, hunreadable⟩
  rw [List.flatMap_singleton]
  show Journal.findings _ (checkSource .default "" "a.php").notes = _
  rw [hsurvey]
  rfl

/-- A locked directory is all there is to check: it is noted as unreadable, and it is counted. -/
theorem locked_directory_counted :
    ∃ r, Checker.run .halfLocked .default [⟨"", ["c"]⟩] = .ok r
      ∧ r.unreadable = [⟨"", ["c"]⟩] ∧ r.counters.directories = 1
      ∧ FileSystem.halfLocked.lists ⟨"", ["c"]⟩ = false := by
  have hcheck : checkPaths .halfLocked .default [⟨"", ["c"]⟩]
      = ⟨[.directory ⟨"", ["c"]⟩, .unreadable ⟨"", ["c"]⟩
          (.fileAccess ⟨"", ["c"]⟩ "OS error: [Errno 13] Permission denied: 'c'")], .ok ()⟩ := by
    cbv
  have hrun := Checker.run_eq_ok_iff.2 ⟨List.cons_ne_nil _ _, by rw [hcheck], rfl⟩
  rw [hcheck] at hrun
  exact ⟨_, hrun, rfl, rfl, by cbv⟩

end DocCoverage
