/-
Why a computation breaks off. Most failures are problems, which a run reports in words. The others
come from values and files that nothing foresees: a setting of a type that its use does not allow, a
text file whose byte order is unknown, an encoding that cannot be used, a file of the library's own
that cannot be opened. They pass through everything and end the run.
-/
import DocCoverage.Failure.Problem
import DocCoverage.Files.Tree
import DocCoverage.Text.Markup.Color

set_option autoImplicit false

namespace DocCoverage

/-- Why a computation breaks off. -/
inductive Failure where
  | problem (p : Problem)
  /-- A value of a wrong type, or a setting that does not exist. -/
  | wrongType (text : String)
  /-- A value that is no text where a text is taken apart. -/
  | notText
  /-- A name that holds the character zero. -/
  | zeroInName
  /-- An encoding of an unknown name. -/
  | unknownEncoding
  /-- A text in UTF-16 or UTF-32 whose byte order is unknown. -/
  | unmarkedText
  /-- An encoding that exists and cannot be used. -/
  | unusableEncoding
  /-- A file that is not covered by any problem. -/
  | file (e : FileError)
  /-- A text that is to be shown has a style at fault in it. -/
  | markup (fault : Text.Markup.Fault)

/-- A computation that may break off. -/
abbrev Result (α : Type) := Except Failure α

/-- Breaking off with a problem. -/
def Problem.raise {α : Type} (p : Problem) : Result α := .error (.problem p)

/-- The answer to a question about a path, as a computation. -/
def FileError.lift {α : Type} : Except FileError α → Result α
  | .ok a => .ok a
  | .error .zeroInPath => .error .zeroInName
  | .error e => .error (.file e)

/-- The operating system refused a file or directory. -/
def refused (path : Path) (e : FileError) : Failure :=
  match e with
  | .zeroInPath => .zeroInName
  | e => .problem (.fileAccess path ("OS error: " ++ e.shown path.shown))

end DocCoverage
