/-
Paths as the library shows and compares them: a root, and the names below it. Empty names and the
name `.` are dropped on reading, so `a//b`, `./a/b` and `a/b/` are one path; the name `..` is kept,
since what it leads to depends on the file system.

Where a text is followed as it stands, in a symbolic link above all, the names that a path drops
still say something: what comes before them has to be a directory.
-/
import DocCoverage.Text.LowerCase

set_option autoImplicit false

namespace DocCoverage

/-- A path. -/
structure Path where
  /-- Empty for a relative path, otherwise one slash, or two where a path begins with just two. -/
  root : String := ""
  parts : List String := []
  deriving DecidableEq, Repr

namespace Path

/-- The slashes a path begins with, as far as they matter. -/
def rootOf : List Char → String
  | '/' :: '/' :: '/' :: _ => "/"
  | '/' :: '/' :: _ => "//"
  | '/' :: _ => "/"
  | _ => ""

/-- **The path that a text denotes.** -/
def ofText (s : String) : Path :=
  { root := rootOf s.toList, parts := (s.splitOn "/").filter fun p => p != "" && p != "." }

/-- **The text of a path.** The empty path is the current directory. -/
def shown (p : Path) : String :=
  if p.root.isEmpty && p.parts.isEmpty then "." else p.root ++ "/".intercalate p.parts

/-- **The names of a text that is followed as it stands.** The name `.` is kept, and a slash at the
end is kept as an empty name. -/
def namesAsWritten (s : String) : List String :=
  let names := (s.splitOn "/").filter (· != "")
  if s.endsWith "/" && !names.isEmpty then names ++ [""] else names

/-- Whether a path begins at the root of the file system. -/
def isAbsolute (p : Path) : Bool := !p.root.isEmpty

/-- The path of an entry of a directory. -/
def child (p : Path) (name : String) : Path := { p with parts := p.parts ++ [name] }

/-- The last name. -/
def name (p : Path) : String := p.parts.getLast?.getD ""

/-- **The suffix of a name:** from its last dot on, unless that dot is the first or the last
character. -/
def suffixOf (name : String) : String :=
  let afterDot := name.toList.reverse.takeWhile (· != '.')
  let before := name.length - afterDot.length - 1
  if afterDot.isEmpty || before = 0 || afterDot.length = name.length then ""
  else String.ofList ('.' :: afterDot.reverse)

/-- The suffix of the last name. -/
def suffix (p : Path) : String := suffixOf p.name

/-- What of a path lies below `base`; the whole path if it does not lie there. -/
def relativeTo (p base : Path) : Path :=
  if p.root = base.root && base.parts.isPrefixOf p.parts then
    { parts := p.parts.drop base.parts.length }
  else p

/-- The names of a path, a root counting as the first of them. -/
def names (p : Path) : List String :=
  if p.isAbsolute then p.root :: p.parts else p.parts

end Path

end DocCoverage
