/-
What a journal shows of a route that was taken to its end. Paths that are absent and paths that
cannot be read are listed stop by stop, and so are files and directories counted: a stop that is
visited puts in at most one entry, and which one it is depends on what kind of stop it is and, at a
file, on whether its text could be had.
-/
import DocCoverage.Proofs.Run.Visits
import Mathlib.Data.List.Basic

set_option autoImplicit false

namespace DocCoverage

/-! ## What a stop puts in -/

namespace Stop

variable {fs : FileSystem} {settings : Settings} {stop : Stop}

/-- The file that a stop is at. -/
def file? : Stop → Option Path
  | .file path => some path
  | _ => none

/-- The path that a stop finds nothing at. -/
def absent? : Stop → Option Path
  | .absent path _ => some path
  | _ => none

/-- A directory is gone through here. -/
def isDirectory : Stop → Bool
  | .directory _ => true
  | _ => false

/-- A file is surveyed here. -/
def surveys (fs : FileSystem) (settings : Settings) : Stop → Bool
  | .file path => (readSource fs path settings.encodingName .replace).isOk
  | _ => false

/-- The path that cannot be read here. -/
def unreadable? (fs : FileSystem) (settings : Settings) : Stop → Option Path
  | .unlisted path _ => some path
  | .file path => if (Stop.file path).surveys fs settings then none else some path
  | _ => none

/-- A file is surveyed if its text can be had. -/
theorem surveys_of_ok {path : Path} {source : String}
    (hread : readSource fs path settings.encodingName .replace = .ok source) :
    (Stop.file path).surveys fs settings = true := by
  dsimp only [surveys]
  rw [hread]
  rfl

/-- A file is not surveyed if its text cannot be had. -/
theorem surveys_of_error {path : Path} {e : Failure}
    (hread : readSource fs path settings.encodingName .replace = .error e) :
    (Stop.file path).surveys fs settings = false := by
  dsimp only [surveys]
  rw [hread]
  rfl

/-- A visit notes the path at which there is nothing. -/
theorem absent_visit (fs : FileSystem) (settings : Settings) (stop : Stop) :
    Journal.absent (stop.visit fs settings).notes = stop.absent?.toList := by
  cases stop with
  | file path =>
    have hvisits := visitsFile fs settings path
    generalize visit fs settings (.file path) = visited at hvisits
    cases hvisits with
    | surveyed source =>
      -- what a survey notices is no path, so it is passed over
      show List.filterMap _ (List.map (Note.event path.shown) _) = []
      rw [List.filterMap_map]
      exact List.filterMap_eq_nil_iff.2 fun _ _ => rfl
    | unreadable about reason => rfl
    | broken => rfl
  | directory path | unlisted path problem | absent path reason => rfl

/-- A visit that does not break off notes the path that cannot be read. -/
theorem unreadable_visit (h : (stop.visit fs settings).result = .ok ()) :
    Journal.unreadable (stop.visit fs settings).notes
      = (stop.unreadable? fs settings).toList := by
  cases stop with
  | file path =>
    dsimp only [unreadable?]
    have hvisits := visitsFile fs settings path
    generalize visit fs settings (.file path) = visited at h hvisits
    cases hvisits with
    | surveyed source hread =>
      rw [if_pos (surveys_of_ok hread)]
      show List.filterMap _ (List.map (Note.event path.shown) _) = []
      rw [List.filterMap_map]
      exact List.filterMap_eq_nil_iff.2 fun _ _ => rfl
    | unreadable about reason hread =>
      rw [if_neg (by rw [surveys_of_error hread]; exact Bool.false_ne_true)]
      rfl
    | broken => cases h
  | directory path | unlisted path problem | absent path reason => rfl

/-- Verdicts on entities leave the numbers of files and directories. -/
theorem counters_events (c : Counters) (name : String) (events : List Event) :
    ((events.map (Note.event name)).foldl Note.countIn c).files = c.files
      ∧ ((events.map (Note.event name)).foldl Note.countIn c).directories = c.directories := by
  induction events generalizing c with
  | nil => exact ⟨rfl, rfl⟩
  | cons e rest ih =>
    have hfirst : (Note.countIn c (.event name e)).files = c.files
        ∧ (Note.countIn c (.event name e)).directories = c.directories := by
      dsimp only [Note.countIn]
      cases e.verdict? with
      | none => exact ⟨rfl, rfl⟩
      | some verdict => cases verdict <;> exact ⟨rfl, rfl⟩
    obtain ⟨hfiles, hdirectories⟩ := ih (Note.countIn c (.event name e))
    exact ⟨hfiles.trans hfirst.1, hdirectories.trans hfirst.2⟩

/-- A visit that does not break off counts the file that is surveyed and the directory that is gone
through. -/
theorem counters_visit (h : (stop.visit fs settings).result = .ok ()) :
    (Journal.counters (stop.visit fs settings).notes).files
        = (if stop.surveys fs settings then 1 else 0)
      ∧ (Journal.counters (stop.visit fs settings).notes).directories
        = if stop.isDirectory then 1 else 0 := by
  cases stop with
  | file path =>
    have hvisits := visitsFile fs settings path
    generalize visit fs settings (.file path) = visited at h hvisits
    cases hvisits with
    | surveyed source hread =>
      rw [if_pos (surveys_of_ok hread)]
      exact counters_events ((Note.file path.shown).countIn {}) path.shown _
    | unreadable about reason hread =>
      rw [if_neg (by rw [surveys_of_error hread]; exact Bool.false_ne_true)]
      exact ⟨rfl, rfl⟩
    | broken => cases h
  | directory path | unlisted path problem | absent path reason => exact ⟨rfl, rfl⟩

end Stop

/-! ## What all stops put in -/

/-- A number that adds up over journals counts the parts that put in one. -/
theorem Journal.count_flatMap {α : Type} (number : Counters → Int)
    (hplus : ∀ c d : Counters, number (c.plus d) = number c + number d) (hempty : number {} = 0)
    {notes : α → Journal} {counted : α → Bool} {parts : List α}
    (h : ∀ part ∈ parts, number (Journal.counters (notes part)) = if counted part then 1 else 0) :
    number (Journal.counters (parts.flatMap notes)) = (parts.filter counted).length := by
  induction parts with
  | nil => exact hempty
  | cons part rest ih =>
    obtain ⟨hpart, hrest⟩ := List.forall_mem_cons.1 h
    rw [List.flatMap_cons, Journal.counters_append, hplus, hpart, ih hrest]
    by_cases hcounted : counted part = true
    · rw [if_pos hcounted, List.filter_cons_of_pos hcounted, List.length_cons]
      omega
    · rw [if_neg hcounted, List.filter_cons_of_neg hcounted]
      omega

/-- **The journal of a route that was taken to its end,** stop by stop. -/
theorem Route.journal_of_taken {α : Type} {fs : FileSystem} {settings : Settings}
    {route : Route α} {a : α} (h : (route.taken (fun _ => fs) settings).result = .ok a) :
    let journal := (route.taken (fun _ => fs) settings).notes
    Journal.absent journal = route.notes.filterMap Stop.absent?
      ∧ Journal.unreadable journal = route.notes.filterMap (Stop.unreadable? fs settings)
      ∧ (Journal.counters journal).files
        = ((route.notes.filter (Stop.surveys fs settings)).length : Int)
      ∧ (Journal.counters journal).directories
        = ((route.notes.filter Stop.isDirectory).length : Int) := by
  intro journal
  have hvisits := (Route.result_taken_eq_ok_iff.1 h).1
  have hjournal : journal = route.notes.flatMap fun stop => (stop.visit fs settings).notes :=
    Route.notes_taken h
  rw [hjournal]
  refine ⟨?_, ?_, ?_, ?_⟩
  · unfold Journal.absent
    rw [List.filterMap_flatMap, List.filterMap_eq_flatMap_toList]
    exact List.flatMap_congr fun stop _ => stop.absent_visit fs settings
  · unfold Journal.unreadable
    rw [List.filterMap_flatMap, List.filterMap_eq_flatMap_toList]
    exact List.flatMap_congr fun stop hstop => Stop.unreadable_visit (hvisits stop hstop)
  · exact Journal.count_flatMap Counters.files (fun _ _ => rfl) rfl
      fun stop hstop => (Stop.counters_visit (hvisits stop hstop)).1
  · exact Journal.count_flatMap Counters.directories (fun _ _ => rfl) rfl
      fun stop hstop => (Stop.counters_visit (hvisits stop hstop)).2

end DocCoverage
