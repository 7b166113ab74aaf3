/-
What happens at the stops of a route. A file is read and surveyed; one that cannot be read is noted,
and the run goes on. Any other failure breaks the run off.

The files that a stop finds may depend on what was noted before it, since a run may come to the file
that it logs to. Where nothing is logged to a file, they are the same at every stop.
-/
import DocCoverage.Files.Reading
import DocCoverage.Run.Journal
import DocCoverage.Run.Route
import DocCoverage.Survey.Pass

set_option autoImplicit false

namespace DocCoverage

/-! ## Files -/

/-- **A text is surveyed** under the name of its file. -/
def checkSource (settings : Settings) (source file : String) : Progress Note SurveyState :=
  let survey := Survey.of (.ofSource source) settings.defines
  ⟨.file file :: survey.events.map (Note.event file), .ok survey.final⟩

/-- **A file is read and surveyed.** -/
def checkFile (fs : FileSystem) (settings : Settings) (path : Path) : Progress Note SurveyState :=
  (Progress.quiet (readSource fs path settings.encodingName .replace)).andThen fun source =>
    checkSource settings source path.shown

/-- A file that may turn out to be unreadable. The answer tells whether it was surveyed. -/
def checkFileOrNote (fs : FileSystem) (settings : Settings) (path : Path) : Progress Note Bool :=
  ((checkFile fs settings path).andThen fun _ => .quiet (.ok true)).recover fun
    | .problem (.fileAccess about reason) =>
      some ((Progress.note (.unreadable path (.fileAccess about reason))).andThen fun _ =>
        .quiet (.ok false))
    | _ => none

/-! ## Stops -/

/-- **What happens at a stop.** -/
def Stop.visit (fs : FileSystem) (settings : Settings) : Stop → Progress Note Unit
  | .directory path => .note (.directory path)
  | .unlisted path problem => .note (.unreadable path problem)
  | .file path => (checkFileOrNote fs settings path).andThen fun _ => .quiet (.ok ())
  | .absent path reason => .note (.absent path reason)

/-- Stops are visited in order, each finding the files as they are after all that was noted. -/
def visitAll (files : Journal → FileSystem) (settings : Settings) (past : Journal) :
    List Stop → Progress Note Unit
  | [] => .quiet (.ok ())
  | stop :: rest =>
    let here := stop.visit (files past) settings
    here.andThen fun _ => visitAll files settings (past ++ here.notes) rest

/-- Files that nothing changes are simply visited one after the other. -/
theorem visitAll_const (fs : FileSystem) (settings : Settings) (past : Journal)
    (stops : List Stop) :
    visitAll (fun _ => fs) settings past stops = Progress.each (Stop.visit fs settings) stops := by
  induction stops generalizing past with
  | nil => rfl
  | cons stop rest ih => simp only [visitAll, Progress.each, ih]

/-- **A route is taken:** all its stops are visited, and what can be said at its end is said. -/
def Route.taken {α : Type} (route : Route α) (files : Journal → FileSystem)
    (settings : Settings) : Progress Note α :=
  (visitAll files settings [] route.notes).andThen fun _ => .quiet route.result

/-! ## Requests that lead through the file system -/

/-- A directory and all below it is checked. The answer tells whether it could be gone through; a
file is checked as a file. -/
def checkDirectory (fs : FileSystem) (settings : Settings) (root path : Path) :
    Progress Note Bool := do
  if !(← Progress.quiet (FileError.lift (fs.exists? path))) then return false
  if !(← Progress.quiet (FileError.lift (fs.isDirectory? path))) then
    return ← checkFileOrNote fs settings path
  (directoryRoute fs settings root path).taken (fun _ => fs) settings

/-- A file, or a directory and all below it, is checked. -/
def checkPath (fs : FileSystem) (settings : Settings) (path : Path) : Progress Note Unit :=
  (pathRoute fs settings path).taken (fun _ => fs) settings

/-- **All paths are checked,** in order. -/
def checkPaths (fs : FileSystem) (settings : Settings) (paths : List Path) : Progress Note Unit :=
  (pathsRoute fs settings paths).taken (fun _ => fs) settings

end DocCoverage
