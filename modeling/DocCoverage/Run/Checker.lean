/-
A checker takes requests one after the other and keeps the journal of what it did since it was last
cleared. A run over a list of paths begins by clearing it; any other request adds to it.
-/
import DocCoverage.Report.Basic
import DocCoverage.Run.Visit

set_option autoImplicit false

namespace DocCoverage

/-- A checker between two requests. -/
structure Checker where
  settings : Settings
  /-- What happened since the checker was last cleared. -/
  journal : Journal := []

/-- What a checker can be asked to do. -/
inductive Request where
  /-- Survey a text under the name of a file. -/
  | source (source file : String)
  | file (path : Path)
  /-- Go through a directory, patterns being held against paths from `root` on. -/
  | directory (path root : Path)
  | path (path : Path)
  /-- Check a list of paths from a cleared state. -/
  | run (paths : List Path)
  | clear

/-- What a checker answers. -/
inductive Answer where
  | surveyed (final : SurveyState)
  | goneThrough (complete : Bool)
  | report (report : Report)
  | done

namespace Checker

/-- The counts since the checker was last cleared. -/
def counters (c : Checker) : Counters := c.journal.counters

/-- The findings since the checker was last cleared. -/
def findings (c : Checker) : List Finding := c.journal.findings c.settings.reports

/-- What could not be read since the checker was last cleared. -/
def unreadable (c : Checker) : List Path := c.journal.unreadable

/-- What a request makes a checker do. -/
def work (fs : FileSystem) (settings : Settings) : Request → Progress Note Answer
  | .source source file =>
    (checkSource settings source file).andThen fun final => .quiet (.ok (.surveyed final))
  | .file path => (checkFile fs settings path).andThen fun final => .quiet (.ok (.surveyed final))
  | .directory path root =>
    (checkDirectory fs settings root path).andThen fun complete =>
      .quiet (.ok (.goneThrough complete))
  | .path path => (checkPath fs settings path).andThen fun _ => .quiet (.ok .done)
  | .run [] => .quiet Problem.missingInput.raise
  | .run paths =>
    let p := checkPaths fs settings paths
    p.andThen fun _ => .quiet (.ok (.report (.ofJournal settings p.notes)))
  | .clear => .quiet (.ok .done)

/-- The request begins with a cleared checker. -/
def clears : Request → Bool
  | .run [] => false
  | .run _ | .clear => true
  | _ => false

/-- **A checker does what it is asked.** -/
def perform (fs : FileSystem) (c : Checker) (request : Request) : Checker × Result Answer :=
  let p := work fs c.settings request
  let before := if clears request then [] else c.journal
  ({ c with journal := before ++ p.notes }, p.result)

/-- **A run over a list of paths,** apart from any checker. -/
def run (fs : FileSystem) (settings : Settings) (paths : List Path) : Result Report :=
  match paths with
  | [] => Problem.missingInput.raise
  | paths =>
    let p := checkPaths fs settings paths
    p.result.map fun _ => .ofJournal settings p.notes

end Checker

end DocCoverage
