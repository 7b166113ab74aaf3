/-
Changing a file system. A directory or a symbolic link is made only where there is nothing yet, and
not even a link that leads nowhere. A file is written where its path leads: through links, and at
the far end of a link to nothing the file is made. Every change gives a file system, or the error
that kept it from being made.
-/
import DocCoverage.Files.Tree

set_option autoImplicit false

namespace DocCoverage.FileSystem

/-! ## Putting a node at a location -/

/-- The entries with one of them set. -/
def setEntry (entries : List (String × Node)) (name : String) (node : Node) :
    List (String × Node) :=
  if entries.any (·.1 == name) then entries.map fun e => if e.1 == name then (name, node) else e
  else entries ++ [(name, node)]

/-- The entries with a node put at the end of some names, which lead through directories only. -/
def putBelow (entries : List (String × Node)) (node : Node) : List String → List (String × Node)
  | [] => entries
  | [name] => setEntry entries name node
  | name :: rest =>
    match entry? name entries with
    | some (.directory below locked) =>
      setEntry entries name (.directory (putBelow below node rest) locked)
    | _ => entries

/-- **The file system with a node at a location.** What was there is replaced. -/
def put (fs : FileSystem) (location : List String) (node : Node) : FileSystem :=
  { fs with root := putBelow fs.root node location.reverse }

/-! ## New entries -/

/-- **A new entry is made** in a directory that is there. -/
def add (fs : FileSystem) (path : Path) (node : Node) : Except FileError FileSystem :=
  match refusal? path.shown, path.parts.reverse with
  | some e, _ => .error e
  | none, [] => .error .alreadyThere
  | none, name :: above =>
    match fs.find .target { path with parts := above.reverse } with
    | .error e => .error e
    | .ok (location, .directory entries locked) =>
      let taken := entry? name entries
      if locked then .error .denied
      else if name = ".." || taken.isSome then .error .alreadyThere
      else if maxNameBytes < name.utf8ByteSize then .error .nameTooLong
      else .ok (fs.put (name :: location) node)
    | .ok _ => .error .notDirectory

/-- A directory is made. -/
def makeDirectory (fs : FileSystem) (path : Path) : Except FileError FileSystem :=
  fs.add path (.directory [] false)

/-- A symbolic link is made. -/
def makeLink (fs : FileSystem) (path : Path) (target : String) : Except FileError FileSystem :=
  if target.isEmpty then .error .notFound
  else
    match refusal? target with
    | some e => .error e
    | none => fs.add path (.link target)

/-- A directory that could not be made may be there already. -/
def unlessThere (fs : FileSystem) (path : Path) (made : Except FileError FileSystem) :
    Except FileError FileSystem :=
  match made with
  | .ok fs => .ok fs
  | .error e => if fs.isDirectory? path matches .ok true then .ok fs else .error e

/-- A directory is made, and above it what is missing. The names come from the innermost out. -/
def makeDirectoriesFrom (fs : FileSystem) (root : String) :
    List String → Except FileError FileSystem
  | [] => .ok fs
  | name :: above =>
    let path : Path := { root, parts := (name :: above).reverse }
    match fs.makeDirectory path with
    | .error .notFound => do
      let fs ← makeDirectoriesFrom fs root above
      fs.unlessThere path (fs.makeDirectory path)
    | made => fs.unlessThere path made

/-- **A directory is there in the end,** with all directories on the way to it. -/
def makeDirectories (fs : FileSystem) (path : Path) : Except FileError FileSystem :=
  makeDirectoriesFrom fs path.root path.parts.reverse

/-! ## Files -/

/-- Where a file is that is to be written, and what it holds so far. -/
def output (fs : FileSystem) (path : Path) : Except FileError (List String × List UInt8) :=
  match fs.follow .output path.shown path.parts with
  | .error e => .error e
  | .ok (location, none) => .ok (location, [])
  | .ok (location, some (.file bytes locked)) =>
    if locked then .error .denied else .ok (location, bytes)
  | .ok (_, some _) => .error .isDirectory

/-- **A file gets new bytes,** which `change` makes of those it has, and is made if it is not there.
-/
def changeFile (fs : FileSystem) (path : Path) (change : List UInt8 → List UInt8) :
    Except FileError FileSystem :=
  (fs.output path).map fun (location, bytes) => fs.put location (.file (change bytes) false)

end DocCoverage.FileSystem
