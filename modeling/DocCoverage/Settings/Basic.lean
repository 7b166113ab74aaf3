/-
The settings of a run. There are twelve: a report flag for each kind of entity, whether calls of
`define` are looked at, and which files are read and how. A setting keeps the value it was given;
only lists are checked, and only for the two settings that files depend on.
-/
import DocCoverage.Charset.Encoding
import DocCoverage.Entity.Kind
import DocCoverage.Files.Selection

set_option autoImplicit false

namespace DocCoverage

/-- A setting. -/
inductive Field where
  /-- Report the entities of a kind that lack their doc comment. -/
  | report (kind : EntityKind)
  /-- Look at constants made by calls of `define`. -/
  | checkDefines
  /-- The suffixes of the files checked inside directories. -/
  | extensions
  /-- Patterns of the files and directories left out. -/
  | excludePatterns
  /-- Go into directories behind symbolic links. -/
  | followLinks
  /-- The encoding of source files. -/
  | encoding
  deriving DecidableEq, Repr

/-- The kinds of entities, in the order in which their report flags are listed. -/
def reportOrder : List EntityKind :=
  [.file, .declared .classDecl, .declared .interfaceDecl, .declared .classVariable,
    .declared .classConstant, .declared .constant, .declared .function]

namespace Field

/-- All settings, in their order. -/
def all : List Field :=
  reportOrder.map .report ++ [.checkDefines, .extensions, .excludePatterns, .followLinks, .encoding]

/-- The name of a setting. -/
def key : Field → String
  | .report kind => "report_" ++ kind.key
  | .checkDefines => "check_define_constants"
  | .extensions => "extensions"
  | .excludePatterns => "exclude_patterns"
  | .followLinks => "follow_symlinks"
  | .encoding => "encoding"

/-- The setting with a given name. -/
def ofKey? (key : String) : Option Field :=
  all.find? (·.key == key)

/-- The value of a setting that nothing sets. -/
def default : Field → Value
  | .report _ => .bool true
  | .checkDefines => .bool false
  | .extensions => .list [.text ".php"]
  | .excludePatterns => .list [.text ".git", .text ".svn", .text ".hg"]
  | .followLinks => .bool false
  | .encoding => .text "utf-8"

end Field

/-- A value for every setting. -/
structure Settings where
  value : Field → Value

namespace Settings

/-- The settings nobody set. -/
def default : Settings := ⟨Field.default⟩

/-- The settings with one of them changed. -/
def set (s : Settings) (field : Field) (value : Value) : Settings :=
  ⟨fun f => if f = field then value else s.value f⟩

/-- Whether the entities of a kind are reported. -/
def reports (s : Settings) (kind : EntityKind) : Bool := (s.value (.report kind)).isOn

/-- Whether calls of `define` are looked at. -/
def defines (s : Settings) : Bool := (s.value .checkDefines).isOn

/-- The name of the encoding of source files. -/
def encodingName (s : Settings) : String :=
  match s.value .encoding with
  | .text name => name
  | _ => ""

/-- The report flags in the order in which they are listed. -/
def reportItems (s : Settings) : List (EntityKind × Bool) :=
  reportOrder.map fun kind => (kind, s.reports kind)

/-- The settings with every report flag changed. -/
def withAllReports (s : Settings) (enabled : Bool) : Settings :=
  ⟨fun
    | .report _ => .bool enabled
    | f => s.value f⟩

/-- Changing one setting leaves the others. -/
theorem value_set (s : Settings) (field other : Field) (value : Value) :
    (s.set field value).value other = if other = field then value else s.value other := rfl

end Settings

end DocCoverage
