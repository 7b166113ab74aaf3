/-
The report in plain text: a line for each path that does not exist and for each finding, and a
summary of how many doc comments are missing. Constants made by calls of `define` are in the summary
only if such calls are looked at.
-/
import DocCoverage.Report.Basic

set_option autoImplicit false

namespace DocCoverage

/-- The rows of a summary, in order. -/
def summaryRows : List (EntityKind × String) :=
  [(.file, "File doc-comments"), (.declared .classDecl, "Class doc-comments"),
    (.declared .interfaceDecl, "Interface doc-comments"),
    (.declared .function, "Function doc-comments"),
    (.declared .classConstant, "Class constant doc-comments"),
    (.declared .classVariable, "Class variable doc-comments"),
    (.declared .constant, "Constant doc-comments")]

/-- What is said of a path that does not exist. -/
def missingPathText (path : Path) : String :=
  "File or directory `" ++ path.shown ++ "` does not exist."

namespace Report

/-- A kind has a row in the summary. -/
def summarises (r : Report) (kind : EntityKind) : Bool :=
  kind ≠ .declared .constant || r.settings.defines

/-- The row of a kind. -/
def summaryRow (r : Report) (row : EntityKind × String) : String :=
  "\t" ++ row.2 ++ ": " ++ toString (r.counters.tally row.1).missing

/-- **The report in plain text.** -/
def summary (r : Report) : String :=
  "\n".intercalate
    (r.missing.map (fun path => "Error: " ++ missingPathText path) ++
      r.findings.map Finding.shown ++
      ["Missing:"] ++
      (summaryRows.filter fun row => r.summarises row.1).map r.summaryRow ++
      ["\tMissing Doc-comments: " ++ toString r.reported])

end Report

end DocCoverage
