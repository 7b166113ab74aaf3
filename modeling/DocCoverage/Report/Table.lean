/-
The report as tables: one of the findings, if there are any, and one of all counts. A path that does
not exist gets a line of its own above them. What comes from the checked files is escaped, so that
it cannot be taken for a style.
-/
import DocCoverage.Report.Drawing
import DocCoverage.Report.Summary
import DocCoverage.Text.Markup

set_option autoImplicit false

namespace DocCoverage

/-- What is seen of a text in which nothing is meant as a style. -/
def seen (s : String) : List Char :=
  let escaped := Text.Markup.escape s.toList
  (Text.Markup.shown? escaped).toOption.getD escaped

namespace Report

/-- The table of the findings. -/
def findingsTable (r : Report) : Table :=
  { title := "Missing doc-comments"
    columns := [⟨"File", .left⟩, ⟨"Line", .right⟩, ⟨"Message", .left⟩]
    rows := r.findings.map fun f =>
      [seen f.file, (toString f.line).toList, seen f.message] }

/-- A row of the table of all counts. -/
def countsRow (label : String) (tally : Tally) : List Cell :=
  [label.toList, (toString tally.found).toList, (toString tally.missing).toList]

/-- The table of all counts. -/
def countsTable (r : Report) : Table :=
  { title := "Summary"
    columns := [⟨"Entity", .left⟩, ⟨"Found", .right⟩, ⟨"Missing", .right⟩]
    rows :=
      (summaryRows.map fun row => countsRow row.2 (r.counters.tally row.1)) ++
        [countsRow "Total" ⟨r.counters.totalFound, r.counters.totalMissing⟩]
    caption := some (toString r.counters.files ++ " file(s) checked, " ++ toString r.reported
      ++ " reported") }

/-- The lines on which nothing but a sentence stands. -/
def sentences (r : Report) : List Line :=
  (r.missing.flatMap fun path => Line.ofText (seen ("Error: " ++ missingPathText path))) ++
    if r.clean then ["No missing doc-comments reported.".toList] else []

/-- **The report as tables,** every line with its end. -/
def tables (r : Report) : String :=
  let lines := r.sentences ++ (if r.clean then [] else r.findingsTable.drawn) ++
    r.countsTable.drawn
  String.ofList (lines.flatMap (· ++ ['\n']))

end Report

end DocCoverage
