/-
The program. It hands the command line and what it may look at to `CommandLine.run`, prints what
comes back and ends with its status; nothing is decided here.

What the program may look at is gathered first: the paths that the command line names, the two
places where settings are kept, and every directory on the way to them. Directories are not listed.
If a path to check is a directory, the paths below it come from standard input, one on each line, as
`find` writes them.
-/
import DocCoverage.CommandLine.Run
import Std.Time.Format

set_option autoImplicit false

namespace DocCoverage.CommandLine

/-- What an attempt to read a path says about it. A path that cannot be opened is a locked file. -/
def nodeOf? : Except IO.Error ByteArray → Option Node
  | .ok bytes => some (.file bytes.toList false)
  | .error (.permissionDenied ..) => some (.file [] true)
  | .error (.inappropriateType ..) => some (.directory [] false)
  | .error _ => none

/-- A path and all paths on the way to it, from the root on. -/
def wayTo (path : Path) : List Path :=
  (List.range (path.parts.length + 1)).map fun n => { path with parts := path.parts.take n }

/-- The files with one more node, if there is nothing at its path yet. -/
def noting (files : FileSystem) (path : Path) (node? : Option Node) : FileSystem :=
  match node? with
  | some node => (files.add path node).toOption.getD files
  | none => files

/-- The paths that a command line names. -/
def Invocation.named (inv : Invocation) : List String :=
  inv.files ++ inv.config.toList ++ inv.logFile.toList

/-- Some path to check is a directory. -/
def Invocation.checksDirectory (inv : Invocation) (files : FileSystem) : Bool :=
  inv.files.any fun text =>
    match files.find .target (.ofText text) with
    | .ok (_, .directory _ _) => true
    | _ => false

/-- The status that an ending is for the outside. -/
def Ending.code : Ending → UInt32
  | .status code => code.toUInt32
  | .broken _ => 1

/-- The log file and what it holds at the end, if that is not what it held before. -/
def newLog? (inv : Invocation) (before after : FileSystem) : Option (String × List UInt8) := do
  let text ← inv.logFile
  let bytes ← (after.read (after.fromRoot text)).toOption
  guard ((before.read (before.fromRoot text)).toOption != some bytes)
  return (text, bytes)

/-- A path and what is on the way to it are looked at. -/
def gather (files : FileSystem) (path : Path) : IO FileSystem := do
  let mut files := files
  for path in wayTo path do
    let found ← (IO.FS.readBinFile path.shown).toBaseIO
    files := noting files path (nodeOf? found)
  return files

/-- The lines of standard input. -/
def inputLines : IO (List String) := do
  let input ← IO.getStdin
  let mut lines := #[]
  repeat
    let line ← input.getLine
    if line.isEmpty then break
    lines := lines.push (line.takeWhile (· != '\n')).toString
  return lines.toList

/-- The variables that settings may come from. -/
def environment : IO Environment := do
  let mut found := #[]
  for field in Field.all do
    if let some text ← IO.getEnv field.variableName then
      found := found.push (field.variableName, text)
  return found.toList

/-- What the program may look at. -/
def surroundings (inv : Invocation) : IO Surroundings := do
  let here := Path.ofText (toString (← IO.currentDir))
  let home := Path.ofText ((← IO.getEnv "HOME").getD "/")
  let bare : Surroundings :=
    { files := { root := [], current := here.parts }, home, environment := ← environment }
  let mut files := bare.files
  for path in [here, Settings.homeFile bare, Settings.projectFile bare] do
    files ← gather files path
  for text in inv.named do
    files ← gather files (bare.files.fromRoot text)
  if inv.checksDirectory files then
    for text in ← inputLines do
      files ← gather files (bare.files.fromRoot text)
  return { bare with files }

end DocCoverage.CommandLine

open DocCoverage DocCoverage.CommandLine

/-- **Does what a command line asks for.** -/
def main (words : List String) : IO UInt32 := do
  let inv := (Invocation.read? {} words).getD {}
  let s ← DocCoverage.CommandLine.surroundings inv
  let time := (← Std.Time.PlainDateTime.now).format "uuuu-MM-dd HH:mm:ss"
  let (outcome, files) := run s time words
  IO.print outcome.printed
  if let some (text, bytes) := newLog? inv s.files files then
    IO.FS.writeBinFile text ⟨bytes.toArray⟩
  return outcome.ending.code
