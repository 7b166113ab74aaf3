/-
What the program does for a command line. The outcome is what is printed, what is logged and how the
program ends. Problems are printed and logged and end the program in an orderly way; any other
failure ends it at once, and what was printed and logged up to then remains.
-/
import DocCoverage.CommandLine.Options
import DocCoverage.Log.File
import DocCoverage.Log.Journal
import DocCoverage.Report.Format
import DocCoverage.Run.Visit
import DocCoverage.Settings.Layers
import DocCoverage.Settings.Listing

set_option autoImplicit false

namespace DocCoverage.CommandLine

/-- The name and version of the program. -/
def versionText : String := "doccomment-checker 0.1.0"

/-- How the program ends. -/
inductive Ending where
  | status (code : Nat)
  | broken (failure : Failure)

/-- What the program does. -/
structure Outcome where
  printed : String := ""
  records : List LogRecord := []
  ending : Ending

namespace Outcome

/-- The status of a command line that is not understood. -/
def usageStatus : Nat := 2

/-- A command line that is not understood. -/
def misuse : Outcome := { ending := .status usageStatus }

/-- Something is printed and the program ends well. -/
def success (printed : String) : Outcome := { printed, ending := .status 0 }

/-- What a problem looks like on the screen, unless a style in its text is at fault. -/
def problemLines? (p : Problem) : Except Text.Markup.Fault (List Line) :=
  (Text.Markup.shown? ("[red]Error:[/red] " ++ p.shown).toList).map Line.ofText

/-- **A problem ends the program.** -/
def ofProblem (p : Problem) : Outcome :=
  match p.family with
  | .missingInput => { printed := "Error: " ++ p.message ++ "\n", ending := .status usageStatus }
  | family =>
    let records : List LogRecord := [⟨Log.mainLogger, Log.error, family.name ++ ": " ++ p.shown⟩]
    match problemLines? p with
    | .ok lines =>
      { printed := String.ofList (lines.flatMap (· ++ ['\n'])), records, ending := .status 1 }
    | .error fault => { records, ending := .broken (.markup fault) }

/-- **A failure ends the program.** -/
def ofFailure : Failure → Outcome
  | .problem p => ofProblem p
  | e => { ending := .broken e }

/-- An outcome after something was printed and logged. -/
def after (o : Outcome) (printed : String) (records : List LogRecord) : Outcome :=
  { o with printed := printed ++ o.printed, records := records ++ o.records }

end Outcome

namespace Invocation

/-- The name of a format, upper and lower case being the same. A long s counts as an s. -/
def foldedFormat (inv : Invocation) : String :=
  inv.format.map fun c => if c = 'ſ' then 's' else c.toLower

/-- The format that is asked for. -/
def format? (inv : Invocation) : Option Format := Format.ofName? inv.foldedFormat

/-- What is at fault with the name of a file of settings, which has to be there and readable. -/
def configFault? (files : FileSystem) (text : String) : Option Outcome :=
  match files.findAsWritten text with
  | .error .zeroInPath => some (.ofFailure (.file .zeroInPath))
  | .ok (_, .file _ false) => none
  | _ => some .misuse

/-- What is at fault with the name of a file to check, which has to be readable if it is there. -/
def fileFault? (files : FileSystem) (text : String) : Option Outcome :=
  match files.findAsWritten text with
  | .error .zeroInPath => some (.ofFailure (.file .zeroInPath))
  | .ok (_, .file _ true) | .ok (_, .directory _ true) => some .misuse
  | _ => none

/-- What is at fault with the values of an option. -/
def fault? (inv : Invocation) (files : FileSystem) : Parameter → Option Outcome
  | .file => inv.files.findSome? (fileFault? files)
  | .format => if inv.format?.isNone then some .misuse else none
  | .config => inv.config.bind (configFault? files)
  | .logFile => none

/-- **The first fault of a command line.** Options come in the order in which they are first given,
and words that are no options at the end. -/
def firstFault? (inv : Invocation) (files : FileSystem) : Option Outcome :=
  match inv.parameters.findSome? (inv.fault? files) with
  | some fault => some fault
  | none => if inv.hasOperands then some .misuse else none

/-- What the line says about settings. -/
def choices (inv : Invocation) : Choices :=
  { file := inv.config.map Path.ofText
    flags := reportOrder.map fun kind =>
      ((Field.report kind).key, (inv.report? kind).elim .null Value.bool)
    reportAll := inv.has .reportAll
    reportNone := inv.has .reportNone
    checkDefines := inv.has .checkDefines }

/-- What findings are logged as. -/
def findingLog : FindingLog := { logger := Log.mainLogger, level := Log.debug }

/-- **Checking with known settings,** the files being those that are there once some records are
written. -/
def check (inv : Invocation) (files : List LogRecord → FileSystem) (settings : Settings)
    (format : Format) : Outcome :=
  let logged (j : Journal) : List LogRecord := j.records settings.reports (some findingLog)
  let route := pathsRoute (files []) settings (inv.files.map Path.ofText)
  let p := route.taken (fun j => files (logged j)) settings
  match p.result with
  | .error e => (Outcome.ofFailure e).after "" (logged p.notes)
  | .ok () =>
    let report := Report.ofJournal settings p.notes
    { printed := format.printed report
      records := logged p.notes
      ending := .status (if inv.has .strict && !report.clean then 1 else 0) }

/-- **What a sound command line makes the program do** once its log is open. -/
def perform (inv : Invocation) (s : Surroundings) (files : List LogRecord → FileSystem)
    (format : Format) : Outcome :=
  match Settings.resolve { s with files := files [] } inv.choices with
  | .error e => .ofFailure e
  | .ok settings =>
    let listing := if inv.has .printConfig then settings.listing ++ "\n" else ""
    if inv.files.isEmpty then
      if inv.has .printConfig then .success listing
      else .ofProblem .missingInput
    else (inv.check files settings format).after listing []

/-- The log file that the line asks for. An empty name asks for none. -/
def log? (inv : Invocation) (files : FileSystem) (time : String) : Option LogFile :=
  match inv.logFile with
  | none => none
  | some text =>
    if text.isEmpty then none
    else some
      { path := files.fromRoot text
        threshold := Log.threshold (inv.has .verbose) (inv.has .quiet)
        time }

/-- What the program does, and the files once it has ended. A log file is opened first. -/
def performLogged (inv : Invocation) (s : Surroundings) (time : String) (format : Format) :
    Outcome × FileSystem :=
  match inv.log? s.files time with
  | none => (inv.perform s (fun _ => s.files) format, s.files)
  | some log =>
    match s.files.openToAdd log.path with
    | .error e => (.ofFailure (.file e), s.files)
    | .ok opened =>
      let outcome := inv.perform s (log.write opened) format
      (outcome, log.write opened outcome.records)

end Invocation

/-- A short help. -/
def helpText : String :=
  "Usage: doccomment-checker [OPTIONS]\n\n" ++
  "Check PHP files for missing doc-comments.\n\n" ++
  "  -f, --file PATH      a file, or a directory and all below it; may be repeated\n" ++
  "  -c, --print-config   print the report flags\n" ++
  "  --[no]report-KIND-level, --report-all, --report-none\n" ++
  "  --check-defines, --format NAME, --config FILE, --strict\n" ++
  "  -v, --verbose, -q, --quiet, --log-file FILE, --version, -h, --help\n"

/-- **What the program does for a command line** at a time, and the files once it has ended. -/
def run (s : Surroundings) (time : String) (words : List String) : Outcome × FileSystem :=
  match Invocation.read? {} words with
  | none => (.misuse, s.files)
  | some inv =>
    if inv.has .help then (.success helpText, s.files)
    else
      match inv.firstFault? s.files, inv.format? with
      | some fault, _ => (fault, s.files)
      | none, none => (.misuse, s.files)
      | none, some format =>
        if inv.has .version then (.success (versionText ++ "\n"), s.files)
        else inv.performLogged s time format

end DocCoverage.CommandLine
