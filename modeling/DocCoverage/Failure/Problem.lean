/-
Problems of a run: everything that can go wrong apart from a missing doc comment and that the
library has words for. A problem has a short message and details, the offending path or setting
among them. Problems form families, so that a caller can catch all problems with settings or with
files at once.
-/
import DocCoverage.Files.Path
import DocCoverage.Settings.Value

set_option autoImplicit false

namespace DocCoverage

/-- Something that went wrong. -/
inductive Problem where
  | general (message : String) (details : List (String × Value))
  | analysis (message : String) (details : List (String × Value))
  /-- A file or directory that cannot be read. -/
  | fileAccess (path : Path) (reason : String)
  | configuration (message : String) (details : List (String × Value))
  /-- A path to check that does not exist. -/
  | invalidPath (path : Path) (reason : String)
  /-- A setting with a value it cannot have. -/
  | invalidSetting (key : String) (value : String) (reason : String)
  /-- There is nothing to check. -/
  | missingInput

namespace Problem

/-- The families of problems. -/
inductive Family where
  | general
  | analysis
  | fileAccess
  | configuration
  | invalidPath
  | invalidSetting
  | missingInput
  deriving DecidableEq, Repr

/-- The name of a family in logs. -/
def Family.name : Family → String
  | .general => "DocCheckError"
  | .analysis => "AnalysisError"
  | .fileAccess => "FileAccessError"
  | .configuration => "ConfigurationError"
  | .invalidPath => "InvalidPathError"
  | .invalidSetting => "InvalidConfigError"
  | .missingInput => "MissingInputError"

/-- The family that a family is part of. -/
def Family.parent? : Family → Option Family
  | .general => none
  | .analysis => some .general
  | .fileAccess => some .analysis
  | .configuration => some .general
  | .invalidPath => some .configuration
  | .invalidSetting => some .configuration
  | .missingInput => some .configuration

/-- A family and all that it is part of. -/
def Family.ancestry (f : Family) : List Family :=
  f :: match f.parent? with
    | none => []
    | some p => p :: match p.parent? with
      | none => []
      | some q => [q]

/-- The family of a problem. -/
def family : Problem → Family
  | .general _ _ => .general
  | .analysis _ _ => .analysis
  | .fileAccess _ _ => .fileAccess
  | .configuration _ _ => .configuration
  | .invalidPath _ _ => .invalidPath
  | .invalidSetting _ _ _ => .invalidSetting
  | .missingInput => .missingInput

/-- **The message of a problem.** -/
def message : Problem → String
  | .general message _ => message
  | .analysis message _ => message
  | .fileAccess path _ => "Cannot access file: " ++ path.shown
  | .configuration message _ => message
  | .invalidPath path _ => "Invalid path: " ++ path.shown
  | .invalidSetting key value _ => "Invalid configuration for " ++ key ++ ": " ++ value
  | .missingInput =>
    "No input file was given. Use -f to specify a file or directory to check."

/-- The details of a problem. -/
def details : Problem → List (String × Value)
  | .general _ details => details
  | .analysis _ details => details
  | .fileAccess path reason => [("filepath", .text path.shown), ("reason", .text reason)]
  | .configuration _ details => details
  | .invalidPath path reason => [("path", .text path.shown), ("reason", .text reason)]
  | .invalidSetting key value reason =>
    [("key", .text key), ("value", .text value), ("reason", .text reason)]
  | .missingInput => []

/-- **A problem in words:** its message, and its details in brackets if it has any. -/
def shown (p : Problem) : String :=
  match p.details with
  | [] => p.message
  | details =>
    let each := details.map fun d => d.1 ++ "=" ++ d.2.shown
    p.message ++ " (" ++ ", ".intercalate each ++ ")"

end Problem

end DocCoverage
