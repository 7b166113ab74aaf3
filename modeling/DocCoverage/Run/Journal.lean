/-
The journal of a run: what was gone through and what was noticed on the way, in order. Counts,
findings and the lists of paths that could not be checked are views of the journal and nothing else,
so that what is reported cannot influence what is done: the report flags enter only where findings
are read off.
-/
import DocCoverage.Failure.Problem
import DocCoverage.Survey.Event

set_option autoImplicit false

namespace DocCoverage

/-- Something that happens in a run. -/
inductive Note where
  /-- A directory is gone through. -/
  | directory (path : Path)
  /-- A file is surveyed. -/
  | file (name : String)
  /-- The survey of a file notices something. -/
  | event (file : String) (event : Event)
  /-- A file or directory cannot be read. -/
  | unreadable (path : Path) (problem : Problem)
  /-- A path to check does not exist. -/
  | absent (path : Path) (reason : String)

/-- What happens in a run, in order. -/
abbrev Journal := List Note

namespace Note

/-- The verdict that comes with a note. -/
def verdict? : Note → Option Verdict
  | .event _ e => e.verdict?
  | _ => none

/-- The finding a note makes if its kind is reported. -/
def finding? (reported : EntityKind → Bool) : Note → Option Finding
  | .event name e => e.verdict?.bind (Verdict.finding? reported name)
  | _ => none

/-- A note enters the counts. -/
def countIn (c : Counters) : Note → Counters
  | .directory _ => c.addDirectories 1
  | .file _ => c.addFiles 1
  | .event _ e =>
    match e.verdict? with
    | some verdict => c.add verdict
    | none => c
  | .unreadable _ _ => c
  | .absent _ _ => c

/-- What a note adds does not depend on what was counted before. -/
theorem countIn_plus (c d : Counters) (note : Note) :
    note.countIn (c.plus d) = c.plus (note.countIn d) := by
  cases note with
  | directory path => simp only [countIn, Counters.addDirectories, Counters.plus, Int.add_assoc]
  | file name => simp only [countIn, Counters.addFiles, Counters.plus, Int.add_assoc]
  | event name e =>
    cases hverdict : e.verdict? with
    | none => simp only [countIn, hverdict]
    | some verdict => simp only [countIn, hverdict, Counters.add_plus]
  | unreadable path problem | absent path reason => rfl

end Note

namespace Journal

/-- **The counts of a journal.** -/
def counters (j : Journal) : Counters := j.foldl Note.countIn {}

/-- **The findings of a journal** for given report flags. -/
def findings (reported : EntityKind → Bool) (j : Journal) : List Finding :=
  j.filterMap (Note.finding? reported)

/-- The files and directories that could not be read. -/
def unreadable (j : Journal) : List Path :=
  j.filterMap fun
    | .unreadable path _ => some path
    | _ => none

/-- The paths that did not exist. -/
def absent (j : Journal) : List Path :=
  j.filterMap fun
    | .absent path _ => some path
    | _ => none

/-- The findings of two journals, one after the other. -/
theorem findings_append (reported : EntityKind → Bool) (j k : Journal) :
    findings reported (j ++ k) = findings reported j ++ findings reported k :=
  List.filterMap_append

/-- What could not be read in two journals, one after the other. -/
theorem unreadable_append (j k : Journal) : unreadable (j ++ k) = unreadable j ++ unreadable k :=
  List.filterMap_append

/-- What did not exist in two journals, one after the other. -/
theorem absent_append (j k : Journal) : absent (j ++ k) = absent j ++ absent k :=
  List.filterMap_append

/-- **The counts of two journals, one after the other,** are their sum. -/
theorem counters_append (j k : Journal) : counters (j ++ k) = (counters j).plus (counters k) := by
  have hfold : ∀ (c d : Counters) (k : Journal),
      k.foldl Note.countIn (c.plus d) = c.plus (k.foldl Note.countIn d) := by
    intro c d k
    induction k generalizing d with
    | nil => rfl
    | cons note rest ih => rw [List.foldl_cons, List.foldl_cons, Note.countIn_plus, ih]
  unfold counters
  rw [List.foldl_append, ← hfold, Counters.plus_empty]

/-- The counts after a survey's events are noted. -/
theorem counters_append_events (past : Journal) (file : String) (events : List Event) :
    counters (past ++ events.map (Note.event file)) = (counters past).addEvents events := by
  unfold counters Counters.addEvents
  rw [List.foldl_append]
  generalize past.foldl Note.countIn {} = c
  induction events generalizing c with
  | nil => rfl
  | cons e rest ih =>
    rw [List.map_cons, List.foldl_cons, ih, List.filterMap_cons]
    cases hverdict : e.verdict? with
    | none => rw [Note.countIn, hverdict]
    | some verdict => rw [Note.countIn, hverdict, List.foldl_cons]

/-- The findings of a survey's events. -/
theorem findings_events (reported : EntityKind → Bool) (file : String) (events : List Event) :
    findings reported (events.map (Note.event file)) = findingsOf reported file events := by
  unfold findings findingsOf
  rw [List.filterMap_map, List.filterMap_filterMap]
  rfl

end Journal

end DocCoverage
