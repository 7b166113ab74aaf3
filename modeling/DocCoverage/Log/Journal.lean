/-
What a run logs. Every note but most of what a survey notices is logged when it is written; findings
are logged too where the run hands them to a log instead of printing them.
-/
import DocCoverage.Log.Record
import DocCoverage.Run.Journal

set_option autoImplicit false

namespace DocCoverage

namespace Log

/-- The logger of a run. -/
def runLogger : String := fullName (some "checker")

/-- The logger of a survey. -/
def surveyLogger : String := fullName (some "checking.scanner")

/-- The logger that findings go to if no other is named. -/
def findingLogger : String := fullName (some "sinks")

end Log

/-- Where findings are logged, and with what level. -/
structure FindingLog where
  logger : String := Log.findingLogger
  level : Int := Log.warning

/-- A finding as a log record. -/
def FindingLog.record (log : FindingLog) (f : Finding) : LogRecord :=
  ⟨log.logger, log.level, f.shown⟩

/-- What is logged when a declaration takes the place of another. -/
def replacedMessage (file : String) (context : Context) : String :=
  file ++ ":" ++ toString context.line ++ ": " ++ context.kind.key ++ " `" ++ context.name
    ++ "` replaces unopened context"

/-- What is logged when a note is written, its finding apart. -/
def Note.record? : Note → Option LogRecord
  | .directory path => some ⟨Log.runLogger, Log.debug, "Checking directory " ++ path.shown⟩
  | .file name => some ⟨Log.runLogger, Log.debug, "Checking " ++ name⟩
  | .event name (.replaced context) =>
    some ⟨Log.surveyLogger, Log.debug, replacedMessage name context⟩
  | .event _ _ => none
  | .unreadable _ problem => some ⟨Log.runLogger, Log.warning, problem.shown⟩
  | .absent path reason =>
    some ⟨Log.runLogger, Log.info, "Skipping " ++ path.shown ++ ": " ++ reason⟩

/-- **What a run logs.** -/
def Journal.records (reported : EntityKind → Bool) (log : Option FindingLog) (j : Journal) :
    List LogRecord :=
  j.flatMap fun n =>
    let found := match log with
      | some log => (n.finding? reported).map log.record
      | none => none
    found.toList ++ n.record?.toList

end DocCoverage
