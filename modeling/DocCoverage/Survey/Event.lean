/-
What a survey notices, in the order in which it does. Nothing here depends on what is to be
reported: an event says what was found, a verdict what it means for the counts, and the report flags
only decide which missing comments become findings.
-/
import DocCoverage.Entity.Attachment
import DocCoverage.Entity.Counters
import DocCoverage.Entity.Finding
import DocCoverage.Survey.State

set_option autoImplicit false

namespace DocCoverage

/-- A declaration that was looked at. -/
structure Check where
  declaration : Declaration
  /-- The position of its keyword, or of its name if it has no keyword. -/
  anchor : Int
  name : String
  line : Int
  /-- The class or interface it belongs to. -/
  enclosing : Option String
  /-- The position of its doc comment. -/
  doc : Option Int
  deriving DecidableEq, Repr

/-- Looking at a declaration: its doc comment is searched. -/
def Check.run (stream : TokenStream) (declaration : Declaration) (anchor : Int) (name : String)
    (line : Int) (enclosing : Option String) : Check :=
  { declaration, anchor, name, line, enclosing, doc := docComment? declaration stream anchor }

/-- What an event means for the counts of its kind. -/
inductive Verdict where
  | documented (kind : EntityKind)
  | undocumented (kind : EntityKind) (line : Int) (message : String)
  deriving DecidableEq, Repr

/-- The kind of entity a verdict is about. -/
def Verdict.kind : Verdict → EntityKind
  | .documented kind => kind
  | .undocumented kind _ _ => kind

/-- The verdict on a declaration. -/
def Check.verdict (c : Check) : Verdict :=
  match c.doc with
  | some _ => .documented (.declared c.declaration)
  | none =>
    .undocumented (.declared c.declaration) c.line
      (missingMessage (.declared c.declaration) c.name c.enclosing)

/-- The verdict on a file without a comment of its own. -/
def Verdict.fileUndocumented (line : Int) : Verdict :=
  .undocumented .file line (missingMessage .file "" none)

/-- Something a survey notices. -/
inductive Event where
  /-- A declaration was looked at. -/
  | check (c : Check)
  /-- A declaration took the place of one whose body never opened. -/
  | replaced (context : Context)
  /-- The file has a doc comment of its own. -/
  | fileDocumented
  /-- The file has none, or its leading comment belongs to a declaration. -/
  | fileUndocumented (line : Int)
  deriving DecidableEq, Repr

/-- The verdict an event comes with. -/
def Event.verdict? : Event → Option Verdict
  | .check c => some c.verdict
  | .replaced _ => none
  | .fileDocumented => some (.documented .file)
  | .fileUndocumented line => some (.fileUndocumented line)

/-- A verdict enters the counts. -/
def Counters.add (c : Counters) : Verdict → Counters
  | .documented kind => c.addFound kind
  | .undocumented kind _ _ => c.addMissing kind

/-- What a verdict adds does not depend on what was counted before. -/
theorem Counters.add_plus (c d : Counters) (verdict : Verdict) :
    (c.plus d).add verdict = c.plus (d.add verdict) := by
  cases verdict with
  | documented kind => exact addFound_plus c d kind
  | undocumented kind line message => exact addMissing_plus c d kind

/-- **The finding a verdict makes** in a file, if its kind is reported. -/
def Verdict.finding? (reported : EntityKind → Bool) (file : String) : Verdict → Option Finding
  | .documented _ => none
  | .undocumented kind line message => if reported kind then some ⟨file, line, message⟩ else none

/-- The findings of a sequence of events. -/
def findingsOf (reported : EntityKind → Bool) (file : String) (events : List Event) :
    List Finding :=
  (events.filterMap Event.verdict?).filterMap (Verdict.finding? reported file)

/-- The counts after a sequence of events. -/
def Counters.addEvents (c : Counters) (events : List Event) : Counters :=
  (events.filterMap Event.verdict?).foldl Counters.add c

end DocCoverage
