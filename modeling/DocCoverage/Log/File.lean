/-
Keeping a log. How talkative a run is decides which records are kept; a log file is opened before
anything else is done and takes the records behind what it already holds.
-/
import DocCoverage.Files.Change
import DocCoverage.Log.Record

set_option autoImplicit false

namespace DocCoverage

/-- **The least level that is kept.** Quietness wins over talkativeness. -/
def Log.threshold (verbose quiet : Bool) : Int :=
  if quiet then Log.error else if verbose then Log.debug else Log.warning

/-- A path with each `..` taken back together with the name before it. -/
def Path.collapsed (p : Path) : Path :=
  { p with parts := (p.parts.foldl (fun names name =>
      if name = ".." then names.tail else name :: names) []).reverse }

/-- The path that a text denotes, from the root on. -/
def FileSystem.fromRoot (fs : FileSystem) (text : String) : Path :=
  let p := Path.ofText text
  if p.isAbsolute then p.collapsed
  else Path.collapsed { root := "/", parts := fs.current ++ p.parts }

/-- A file is opened to be added to, and made if it is not there. -/
def FileSystem.openToAdd (fs : FileSystem) (path : Path) : Except FileError FileSystem :=
  fs.changeFile path id

/-- An open log file. -/
structure LogFile where
  path : Path
  /-- The least level that is kept. -/
  threshold : Int
  /-- The time that records are written with. -/
  time : String

namespace LogFile

/-- What some records add to a log file. -/
def added (log : LogFile) (records : List LogRecord) : String :=
  String.join ((records.filter (Log.keeps log.threshold)).map (Log.line log.time))

/-- **The file system once records are written.** Nothing is held back, so that whoever reads the
file meanwhile finds all records up to then. -/
def write (log : LogFile) (fs : FileSystem) (records : List LogRecord) : FileSystem :=
  match fs.changeFile log.path (· ++ (log.added records).toUTF8.toList) with
  | .ok fs => fs
  | .error _ => fs

end LogFile

end DocCoverage
