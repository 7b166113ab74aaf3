/-
Which entries of a directory are worth checking. A subdirectory is, unless it is excluded, or is a
symbolic link and links are not followed; a file is if its suffix is wanted and nothing excludes it.
An exclude pattern is held against the path below the starting directory and against every name in
that path.

Suffixes and patterns come from settings, which may hold anything; a value that is no text breaks
off the computation where it is first needed.
-/
import DocCoverage.Failure.Basic
import DocCoverage.Files.Glob

set_option autoImplicit false

namespace DocCoverage

/-- The elements of a setting that is gone through one by one: those of a list, the keys of a table,
the characters of a text. -/
def Value.elements : Value → Result (List Value)
  | .list items => .ok items
  | .table entries => .ok (entries.map fun e => .text e.1)
  | .text s => .ok (s.toList.map fun c => .text (String.singleton c))
  | v => .error (.wrongType ("'" ++ v.typeName ++ "' object is not iterable"))

/-- The first of `values` that satisfies `test` ends the search; a test may break it off. -/
def anyValue (test : Value → Result Bool) : List Value → Result Bool
  | [] => .ok false
  | v :: rest =>
    match test v with
    | .ok true => .ok true
    | .ok false => anyValue test rest
    | .error e => .error e

/-- The texts that an exclude pattern is held against: the path from `root` on, and its names. -/
def exclusionCandidates (root path : Path) : List String :=
  let relative := path.relativeTo root
  relative.shown :: relative.names

/-- **Some pattern excludes the path.** -/
def isExcluded (root : Path) (patterns : List Value) (path : Path) : Result Bool :=
  anyValue (fun
    | .text pattern => .ok ((exclusionCandidates root path).any (Glob.isMatch pattern))
    | _ => .error (.wrongType "expected a text as a pattern")) patterns

/-- **The path has one of the suffixes,** upper and lower case being the same. -/
def hasSuffix (suffixes : List Value) (path : Path) : Result Bool :=
  anyValue (fun
    | .text suffix => .ok (Text.lower path.suffix == Text.lower suffix)
    | _ => .error .notText) suffixes

/-- What decides between the entries of a directory. -/
structure Selection where
  suffixes : List Value
  patterns : List Value
  followLinks : Bool

namespace Selection

/-- The path of an entry is worth checking, the entry being in a tree that starts at `root`. -/
def accepts (selection : Selection) (fs : FileSystem) (root path : Path) : Result Bool := do
  if ← isExcluded root selection.patterns path then return false
  if ← FileError.lift (fs.isDirectory? path) then
    if ← FileError.lift (fs.isLink? path) then return selection.followLinks
    return true
  if ← FileError.lift (fs.isFile? path) then hasSuffix selection.suffixes path
  else return false

/-- The accepted ones of some paths, in their order. -/
def filter (selection : Selection) (fs : FileSystem) (root : Path) :
    List Path → Result (List Path)
  | [] => .ok []
  | path :: rest => do
    let accepted ← selection.accepts fs root path
    let others ← selection.filter fs root rest
    return if accepted then path :: others else others

end Selection

/-- The paths of the entries of a directory, sorted by name. -/
def sortedEntries (directory : Path) (names : List String) : List Path :=
  (names.mergeSort fun a b => !decide (b < a)).map directory.child

/-- **The entries of a directory worth checking,** sorted by name. `suffixes` and `patterns` are
settings as they were given. -/
def listDirectory (fs : FileSystem) (directory root : Path) (suffixes patterns : Value)
    (followLinks : Bool) : Result (List Path) :=
  match fs.list directory with
  | .error e => .error (refused directory e)
  | .ok names => do
    let selection : Selection :=
      { suffixes := ← suffixes.elements, patterns := ← patterns.elements, followLinks }
    selection.filter fs root (sortedEntries directory names)

end DocCoverage
