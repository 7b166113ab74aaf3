/-
A file system as a value: a tree of directories, files and symbolic links, and the directory that
relative paths begin at. Paths lead through links, at most forty of them; `..` is the parent of the
directory that was really reached. The decoders that the system has for its files stand beside them.
-/
import DocCoverage.Charset.Conversion
import DocCoverage.Files.Path
import DocCoverage.Text.Quoted

set_option autoImplicit false

namespace DocCoverage

/-- What a name in a directory stands for. A locked file or directory cannot be opened. -/
inductive Node where
  | file (bytes : List UInt8) (locked : Bool)
  | directory (entries : List (String × Node)) (locked : Bool)
  | link (target : String)

/-- Why a path leads nowhere or cannot be opened. -/
inductive FileError where
  | notFound
  | denied
  | alreadyThere
  | notDirectory
  | isDirectory
  | nameTooLong
  | tooManyLinks
  /-- The path holds the character zero. -/
  | zeroInPath
  deriving DecidableEq, Repr

namespace FileError

/-- The number and the words for an error. -/
def reason : FileError → String
  | .notFound => "[Errno 2] No such file or directory"
  | .denied => "[Errno 13] Permission denied"
  | .alreadyThere => "[Errno 17] File exists"
  | .notDirectory => "[Errno 20] Not a directory"
  | .isDirectory => "[Errno 21] Is a directory"
  | .nameTooLong => "[Errno 36] File name too long"
  | .tooManyLinks => "[Errno 40] Too many levels of symbolic links"
  | .zeroInPath => "embedded null byte"

/-- An error with the path it is about. -/
def shown (e : FileError) (path : String) : String :=
  match e with
  | .zeroInPath => e.reason
  | _ => e.reason ++ ": " ++ Text.quoted path

/-- The error only means that there is nothing at the path. -/
def meansAbsent : FileError → Bool
  | .notFound | .notDirectory | .tooManyLinks | .zeroInPath => true
  | _ => false

end FileError

/-- A file system. -/
structure FileSystem where
  /-- The entries of the root directory. -/
  root : List (String × Node)
  /-- The names from the root to the current directory. -/
  current : List String
  /-- The decoders that the system has. -/
  conversions : Conversions := .plain

namespace FileSystem

/-! ## Following a path -/

/-- The entry under a name. -/
def entry? (name : String) (entries : List (String × Node)) : Option Node :=
  entries.lookup name

/-- The node at the end of names that lead through directories only. -/
def nodeBelow (entries : List (String × Node)) (locked : Bool) : List String → Option Node
  | [] => some (.directory entries locked)
  | [name] => entry? name entries
  | name :: rest =>
    match entry? name entries with
    | some (.directory below locked) => nodeBelow below locked rest
    | _ => none

/-- The node at a location, which is given by its names from the innermost out. -/
def nodeAt (fs : FileSystem) (location : List String) : Option Node :=
  nodeBelow fs.root false location.reverse

/-- How many symbolic links a path may lead through. -/
def maxLinks : Nat := 40

/-- The longest name, in bytes. -/
def maxNameBytes : Nat := 255

/-- The longest path, in bytes. -/
def maxPathBytes : Nat := 4095

/-- What is wanted at the end of a path. -/
inductive Aim where
  /-- The entry that the path names, be it a symbolic link. -/
  | entry
  /-- What that entry leads to. -/
  | target
  /-- What that entry leads to, as a file to be written. It need not be there yet. -/
  | output
  deriving DecidableEq, Repr

/-- **Where names lead to from a directory:** a location, and the node there. Only at the place of
an output may there be none. -/
def walk (fs : FileSystem) (aim : Aim) (links : Nat) (location : List String) :
    List String → Except FileError (List String × Option Node)
  | [] =>
    match fs.nodeAt location with
    | some node => .ok (location, some node)
    | none => .error .notFound
  | name :: rest =>
    match fs.nodeAt location with
    | some (.directory entries locked) =>
      if name.isEmpty then walk fs aim links location rest
      else if locked then .error .denied
      else if name = "." then walk fs aim links location rest
      else if name = ".." then walk fs aim links location.tail rest
      else if aim = .output && rest = [""] then .error .isDirectory
      else if maxNameBytes < name.utf8ByteSize then .error .nameTooLong
      else
        match entry? name entries with
        | none =>
          if aim = .output && rest.isEmpty then .ok (name :: location, none) else .error .notFound
        | some (.link target) =>
          if aim = .entry && rest.isEmpty then .ok (name :: location, some (.link target))
          else
            match links with
            | 0 => .error .tooManyLinks
            | links + 1 =>
              walk fs aim links (if target.startsWith "/" then [] else location)
                (Path.namesAsWritten target ++ rest)
        | some _ => walk fs aim links (name :: location) rest
    | _ => .error .notDirectory
termination_by names => (links, names.length)

/-- Why no path of this text is followed at all. -/
def refusal? (text : String) : Option FileError :=
  if text.contains '\x00' then some .zeroInPath
  else if maxPathBytes < text.utf8ByteSize then some .nameTooLong
  else none

/-- Where names lead to from the root or from the current directory, `text` being the whole path. -/
def follow (fs : FileSystem) (aim : Aim) (text : String) (names : List String) :
    Except FileError (List String × Option Node) :=
  match refusal? text with
  | some e => .error e
  | none => walk fs aim maxLinks (if text.startsWith "/" then [] else fs.current.reverse) names

/-- What is there in the end. -/
def arrived : Except FileError (List String × Option Node) → Except FileError (List String × Node)
  | .ok (location, some node) => .ok (location, node)
  | .ok (_, none) => .error .notFound
  | .error e => .error e

/-- **What a path leads to.** -/
def find (fs : FileSystem) (aim : Aim) (path : Path) : Except FileError (List String × Node) :=
  arrived (fs.follow aim path.shown path.parts)

/-- **What a text leads to as it stands.** -/
def findAsWritten (fs : FileSystem) (text : String) : Except FileError (List String × Node) :=
  if text.isEmpty then .error .notFound
  else arrived (fs.follow .target text (Path.namesAsWritten text))

/-! ## Questions about a path -/

/-- What a path leads to, or nothing if there is nothing there. -/
def probe (fs : FileSystem) (aim : Aim) (path : Path) : Except FileError (Option Node) :=
  match fs.find aim path with
  | .ok found => .ok (some found.2)
  | .error e => if e.meansAbsent then .ok none else .error e

/-- There is something at the path. -/
def exists? (fs : FileSystem) (path : Path) : Except FileError Bool :=
  (fs.probe .target path).map Option.isSome

/-- There is a directory at the path, possibly behind links. -/
def isDirectory? (fs : FileSystem) (path : Path) : Except FileError Bool :=
  (fs.probe .target path).map fun
    | some (.directory _ _) => true
    | _ => false

/-- There is a file at the path, possibly behind links. -/
def isFile? (fs : FileSystem) (path : Path) : Except FileError Bool :=
  (fs.probe .target path).map fun
    | some (.file _ _) => true
    | _ => false

/-- There is a symbolic link at the path itself. -/
def isLink? (fs : FileSystem) (path : Path) : Except FileError Bool :=
  (fs.probe .entry path).map fun
    | some (.link _) => true
    | _ => false

/-- **The bytes of a file.** -/
def read (fs : FileSystem) (path : Path) : Except FileError (List UInt8) :=
  match fs.find .target path with
  | .error e => .error e
  | .ok (_, .file bytes locked) => if locked then .error .denied else .ok bytes
  | .ok (_, .directory _ locked) => .error (if locked then .denied else .isDirectory)
  | .ok (_, .link _) => .error .notFound

/-- **The names in a directory.** -/
def list (fs : FileSystem) (path : Path) : Except FileError (List String) :=
  match fs.find .target path with
  | .error e => .error e
  | .ok (_, .directory entries locked) =>
    if locked then .error .denied else .ok (entries.map Prod.fst)
  | .ok _ => .error .notDirectory

end FileSystem

end DocCoverage
