/-
The report as annotations of a build: one line for each path that does not exist and for each
finding. Line ends cannot stand inside an annotation and are written as escapes, and so is the
percent sign that begins an escape.
-/
import DocCoverage.Report.Summary

set_option autoImplicit false

namespace DocCoverage.Annotation

/-- A character inside an annotation. -/
def escapedChar (c : Char) : List Char :=
  if c = '%' then ['%', '2', '5']
  else if c = '\r' then ['%', '0', 'D']
  else if c = '\n' then ['%', '0', 'A']
  else [c]

/-- The characters of a text inside an annotation. -/
def escape (cs : List Char) : List Char := cs.flatMap escapedChar

/-- Escaping goes character by character. -/
theorem escape_cons (c : Char) (cs : List Char) : escape (c :: cs) = escapedChar c ++ escape cs :=
  rfl

/-- **A text inside an annotation.** -/
def escaped (s : String) : String := String.ofList (escape s.toList)

/-- The annotation for a path that does not exist. -/
def ofMissing (path : Path) : String := "::error::" ++ escaped (missingPathText path)

/-- The annotation for a finding. -/
def ofFinding (f : Finding) : String :=
  "::warning file=" ++ f.file ++ ",line=" ++ toString f.line ++ "::" ++ escaped f.message

end DocCoverage.Annotation

namespace DocCoverage

/-- **The report as annotations.** -/
def Report.annotations (r : Report) : String :=
  "\n".intercalate (r.missing.map Annotation.ofMissing ++ r.findings.map Annotation.ofFinding)

end DocCoverage
