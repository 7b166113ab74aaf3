/-
The way that a run takes through the file system: which directories it goes through and which files
it comes to, in order. A directory is gone through from the top: its entries in the order of their
names, each subdirectory in the place of its name. The way depends on settings and on the shape of
the tree, and on nothing that a file holds.

The way down ends: between two symbolic links a path can only go down the tree, and no path leads
through more than forty links. `FileSystem.depth` is what follows from this.
-/
import DocCoverage.Files.Selection
import DocCoverage.Run.Progress
import DocCoverage.Settings.Basic

set_option autoImplicit false

namespace DocCoverage

/-! ## How deep a way can go -/

mutual

/-- How many directories lie inside each other below a node, itself included. -/
def Node.height : Node → Nat
  | .directory entries _ => Node.heightOfEntries entries + 1
  | _ => 0

/-- The greatest height of some entries. -/
def Node.heightOfEntries : List (String × Node) → Nat
  | [] => 0
  | (_, node) :: rest => max (Node.height node) (Node.heightOfEntries rest)

end

/-- More directories than a path can lead through. -/
def FileSystem.depth (fs : FileSystem) : Nat :=
  (FileSystem.maxLinks + 1) * (Node.heightOfEntries fs.root + 2)

/-! ## Stops -/

/-- Where a run comes to. -/
inductive Stop where
  /-- A directory to go through. -/
  | directory (path : Path)
  /-- A directory whose entries cannot be told. -/
  | unlisted (path : Path) (problem : Problem)
  /-- A file to read. -/
  | file (path : Path)
  /-- A path to check at which there is nothing. -/
  | absent (path : Path) (reason : String)

/-- The stops of a run, in order, and what can be said at the end of the way. A failure ends the way
early. -/
abbrev Route := Progress Stop

/-- The entries of a directory that are to be checked, as far as it can be listed. -/
def entriesToCheck (fs : FileSystem) (settings : Settings) (root directory : Path) :
    Result (List Path) :=
  listDirectory fs directory root (settings.value .extensions) (settings.value .excludePatterns)
    (settings.value .followLinks).isOn

/-! ## Directories -/

/-- **The way through a directory and all below it,** down to a depth. Patterns are held against
paths from `root` on. The answer tells whether the directory itself could be gone through. -/
def directoryRouteFrom (fs : FileSystem) (settings : Settings) (root : Path) :
    Nat → Path → Route Bool
  | 0, _ => .quiet (.ok false)
  | depth + 1, directory => do
    Progress.note (.directory directory)
    match entriesToCheck fs settings root directory with
    | .error (.problem (.fileAccess about reason)) =>
      Progress.note (.unlisted directory (.fileAccess about reason))
      return false
    | .error e => .quiet (.error e)
    | .ok entries =>
      Progress.each (fun entry => do
        if ← Progress.quiet (FileError.lift (fs.isDirectory? entry)) then
          let _ ← directoryRouteFrom fs settings root depth entry
        else
          Progress.note (.file entry)) entries
      return true

/-- The way through a directory and all below it. -/
def directoryRoute (fs : FileSystem) (settings : Settings) (root directory : Path) : Route Bool :=
  directoryRouteFrom fs settings root fs.depth directory

/-! ## Paths -/

/-- **The way for one path,** which may be a file or a directory. -/
def pathRoute (fs : FileSystem) (settings : Settings) (path : Path) : Route Unit := do
  if !(← Progress.quiet (FileError.lift (fs.exists? path))) then
    Progress.quiet (Problem.invalidPath path "File or directory does not exist").raise
  else if ← Progress.quiet (FileError.lift (fs.isDirectory? path)) then
    let _ ← directoryRoute fs settings path path
  else
    Progress.note (.file path)

/-- The way for a path that may turn out not to exist. -/
def pathRouteOrAbsent (fs : FileSystem) (settings : Settings) (path : Path) : Route Unit :=
  (pathRoute fs settings path).recover fun
    | .problem (.invalidPath _ reason) => some (Progress.note (.absent path reason))
    | _ => none

/-- **The way for a list of paths,** in order. -/
def pathsRoute (fs : FileSystem) (settings : Settings) (paths : List Path) : Route Unit :=
  Progress.each (pathRouteOrAbsent fs settings) paths

end DocCoverage
