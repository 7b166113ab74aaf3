/-
The forms in which a report is printed, and their names.
-/
import DocCoverage.Report.Annotation
import DocCoverage.Report.Json
import DocCoverage.Report.Table

set_option autoImplicit false

namespace DocCoverage

/-- A form of the report. -/
inductive Format where
  | summary
  | tables
  | json
  | annotations
  deriving DecidableEq, Repr

namespace Format

/-- The name of a form. -/
def name : Format → String
  | .annotations => "github"
  | .json => "json"
  | .tables => "rich"
  | .summary => "text"

/-- All forms, in the order of their names. -/
def all : List Format := [.annotations, .json, .tables, .summary]

/-- The form with a given name. -/
def ofName? (name : String) : Option Format := all.find? (·.name == name)

/-- What is said of a name that no form has. -/
def unknownText (name : String) : String :=
  "Unknown formatter: " ++ Text.quoted name ++ ". Choose from: " ++
    ", ".intercalate (all.map Format.name)

/-- A form is known by its name. -/
theorem ofName?_name (f : Format) : ofName? f.name = some f := by
  cases f <;> decide

/-- **A report as a text.** Tables are drawn on the screen only. -/
def text (f : Format) (r : Report) : String :=
  match f with
  | .summary => r.summary
  | .json => r.json
  | .annotations => r.annotations
  | .tables => ""

/-- **What appears on the screen** when a report is printed. -/
def printed (f : Format) (r : Report) : String :=
  match f with
  | .tables => r.tables
  | f => f.text r ++ "\n"

end Format

end DocCoverage
