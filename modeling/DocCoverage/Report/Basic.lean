/-
The report of a finished run: all that its printed forms are made from.
-/
import DocCoverage.Run.Journal
import DocCoverage.Settings.Basic

set_option autoImplicit false

namespace DocCoverage

/-- What a finished run has to tell. -/
structure Report where
  settings : Settings
  counters : Counters := {}
  findings : List Finding := []
  /-- Paths that were to be checked and do not exist. -/
  missing : List Path := []
  /-- Files and directories that could not be read. -/
  unreadable : List Path := []

namespace Report

/-- How many doc comments are reported missing. -/
def reported (r : Report) : Nat := r.findings.length

/-- Nothing is reported. -/
def clean (r : Report) : Bool := r.findings.isEmpty

/-- The report on a journal. -/
def ofJournal (settings : Settings) (journal : Journal) : Report :=
  { settings
    counters := journal.counters
    findings := journal.findings settings.reports
    missing := journal.absent
    unreadable := journal.unreadable }

end Report

end DocCoverage
