/-
Where settings come from. Layers are put over each other, and a higher one wins: a file in the home
directory, a file in the current directory, a file that was named, the environment, and what was
asked for directly. A file may keep its settings in a table of its own name or at the top.

What a command line says about reports is applied at the end: first that nothing is to be reported,
then the single flags, then that everything is.
-/
import DocCoverage.Settings.Check
import DocCoverage.Settings.Environment
import DocCoverage.Toml.Document

set_option autoImplicit false

namespace DocCoverage

/-- The surroundings in which settings are looked for. -/
structure Surroundings where
  files : FileSystem
  /-- The home directory. -/
  home : Path
  environment : Environment

/-- The layers that are files. -/
inductive FileLayer where
  | home
  | project
  | named
  deriving DecidableEq, Repr

/-- What a layer is called in messages. -/
def FileLayer.label : FileLayer → String
  | .home => "global"
  | .project => "project"
  | .named => "explicit"

namespace Settings

/-- The name of a file with settings. -/
def fileName : String := "doccomment-checker.toml"

/-- The table that a file may keep its settings in. -/
def sectionName : String := "doccomment-checker"

/-- The problem with a file of settings. -/
def badFile (layer : FileLayer) (path : Path) (reason : String) : Problem :=
  .configuration ("Invalid " ++ layer.label ++ " config '" ++ path.shown ++ "':" ++ reason) []

/-- The settings in the table that a file describes. -/
def inTable (layer : FileLayer) (path : Path) (entries : List (String × Value)) :
    Result (List (String × Value)) :=
  match lookupEntry sectionName entries with
  | none => .ok entries
  | some (.table below) => .ok below
  | some _ => (badFile layer path " expected a table").raise

/-- **The settings in a file.** -/
def inFile (files : FileSystem) (layer : FileLayer) (path : Path) :
    Result (List (String × Value)) :=
  match files.read path with
  | .error e => (badFile layer path (" " ++ e.shown path.shown)).raise
  | .ok bytes =>
    match Toml.tableOfBytes? bytes with
    | none => (badFile layer path "").raise
    | some entries => inTable layer path entries

/-- The settings in a file that need not exist. -/
def inFileIfThere (files : FileSystem) (layer : FileLayer) (path : Path) :
    Result (List (String × Value)) :=
  match files.exists? path with
  | .error e => FileError.lift (.error e)
  | .ok false => .ok []
  | .ok true => inFile files layer path

/-- The settings in a file that was named. -/
def inNamedFile (files : FileSystem) (path : Path) : Result (List (String × Value)) :=
  match files.exists? path with
  | .error e => FileError.lift (.error e)
  | .ok false =>
    (Problem.configuration ("Config file not found: " ++ path.shown) []).raise
  | .ok true => inFile files .named path

/-- The file in the home directory. -/
def homeFile (s : Surroundings) : Path := s.home.child ("." ++ fileName)

/-- The file in the current directory. -/
def projectFile (s : Surroundings) : Path :=
  { root := "/", parts := s.files.current ++ [fileName] }

/-- The overrides that say something. -/
def given (overrides : List (String × Value)) : List (String × Value) :=
  overrides.filter fun
    | (_, .null) => false
    | _ => true

/-- **All layers, from the lowest to the highest.** -/
def layers (s : Surroundings) (named : Option Path) (overrides : List (String × Value)) :
    Result (List (List (String × Value))) := do
  let home ← inFileIfThere s.files .home (homeFile s)
  let project ← inFileIfThere s.files .project (projectFile s)
  let named ← match named with
    | some path => inNamedFile s.files path
    | none => .ok []
  let environment ← s.environment.settings
  return [home, project, named, environment, given overrides]

/-- Settings that are accepted, an error of type being a problem with the settings here. -/
def accept (entries : List (String × Value)) : Result Settings :=
  match ofEntries entries with
  | .ok settings => .ok settings
  | .error e =>
    match e.typeText? with
    | some text => (Problem.configuration ("Invalid configuration: " ++ text) []).raise
    | none => .error e.failure

/-- **The settings that all layers give.** -/
def load (s : Surroundings) (named : Option Path) (overrides : List (String × Value)) :
    Result Settings := do
  accept ((← layers s named overrides).foldl mergeEntries [])

end Settings

/-- What a command line says about settings. -/
structure Choices where
  /-- A file of settings. -/
  file : Option Path := none
  /-- Report flags by their names; null leaves a flag as it is. -/
  flags : List (String × Value) := []
  reportAll : Bool := false
  reportNone : Bool := false
  checkDefines : Bool := false

/-- What a command line asks for directly. -/
def Choices.overrides (c : Choices) : List (String × Value) :=
  [(Field.checkDefines.key, if c.checkDefines then .bool true else .null)]

/-- The settings with the choices about reports applied. -/
def Choices.apply (c : Choices) (settings : Settings) : Result Settings := do
  let settings := if c.reportNone then settings.withAllReports false else settings
  let settings ← match Settings.given c.flags with
    | [] => .ok settings
    | flags => (settings.change flags).mapError SettingsError.failure
  return if c.reportAll then settings.withAllReports true else settings

/-- **The settings of a run.** -/
def Settings.resolve (s : Surroundings) (c : Choices) : Result Settings := do
  c.apply (← Settings.load s c.file c.overrides)

end DocCoverage
