/-
The options of a command line. A long option has two hyphens and may have its value behind an equals
sign; short options have one hyphen and may stand together, the last of them with its value. An
option that needs a value and has none attached takes the next word, whatever that is. Two hyphens
alone end the options. No words but options are expected.
-/
import DocCoverage.Settings.Basic

set_option autoImplicit false

namespace DocCoverage.CommandLine

/-- An option without a value. -/
inductive Switch where
  | printConfig
  /-- Report a kind or do not. -/
  | report (kind : EntityKind) (enabled : Bool)
  | reportAll
  | reportNone
  | checkDefines
  | strict
  | verbose
  | quiet
  | version
  | help
  deriving DecidableEq, Repr

/-- An option with a value. -/
inductive Parameter where
  | file
  | format
  | config
  | logFile
  deriving DecidableEq, Repr

/-- What an option's name stands for. -/
inductive Meaning where
  | switch (s : Switch)
  | parameter (p : Parameter)
  deriving DecidableEq, Repr

/-! ## Names -/

/-- A kind in the names of its two switches. -/
def kindName (kind : EntityKind) : String := kind.key.map fun c => if c = '_' then '-' else c

/-- The long options. -/
def longOptions : List (String × Meaning) :=
  [("file", .parameter .file), ("format", .parameter .format), ("config", .parameter .config),
    ("log-file", .parameter .logFile), ("print-config", .switch .printConfig),
    ("report-all", .switch .reportAll), ("report-none", .switch .reportNone),
    ("check-defines", .switch .checkDefines), ("strict", .switch .strict),
    ("verbose", .switch .verbose), ("quiet", .switch .quiet), ("version", .switch .version),
    ("help", .switch .help)] ++
  reportOrder.flatMap fun kind =>
    [("report-" ++ kindName kind ++ "-level", .switch (.report kind true)),
      ("noreport-" ++ kindName kind ++ "-level", .switch (.report kind false))]

/-- The short options. -/
def shortOptions : List (Char × Meaning) :=
  [('f', .parameter .file), ('c', .switch .printConfig), ('v', .switch .verbose),
    ('q', .switch .quiet), ('h', .switch .help)]

/-! ## Words -/

/-- A word of a command line. -/
inductive Word where
  /-- A word that is no option. -/
  | operand
  /-- What ends the options. -/
  | endOfOptions
  | long (name : String) (attached : Option String)
  | short (letters : List Char)
  deriving DecidableEq, Repr

/-- What a word is. A single hyphen is no option. -/
def Word.ofText (s : String) : Word :=
  match s.toList with
  | ['-', '-'] => .endOfOptions
  | '-' :: '-' :: cs =>
    let name := cs.takeWhile (· != '=')
    .long (String.ofList name)
      (match cs.drop name.length with
        | _ :: value => some (String.ofList value)
        | [] => none)
  | '-' :: c :: cs => .short (c :: cs)
  | _ => .operand

/-- Short options that stand together: the switches, and at the end an option with a value, which
may be attached to it. -/
def together? : List Char → Option (List Switch × Option (Parameter × Option String))
  | [] => some ([], none)
  | c :: rest =>
    match shortOptions.lookup c with
    | some (.switch s) => (together? rest).map fun found => (s :: found.1, found.2)
    | some (.parameter p) =>
      some ([], some (p, if rest.isEmpty then none else some (String.ofList rest)))
    | none => none

/-! ## The whole line -/

/-- What a command line asks for. -/
structure Invocation where
  /-- The switches in their order. -/
  switches : List Switch := []
  /-- The options with values, in their order. -/
  values : List (Parameter × String) := []
  /-- There are words that are no options. -/
  hasOperands : Bool := false
  deriving DecidableEq, Repr

namespace Invocation

/-- A switch is given. -/
def has (inv : Invocation) (s : Switch) : Bool := inv.switches.contains s

/-- What the last switch about a kind says. -/
def report? (inv : Invocation) (kind : EntityKind) : Option Bool :=
  inv.switches.reverse.findSome? fun
    | .report k enabled => if k = kind then some enabled else none
    | _ => none

/-- The line with more switches. -/
def turn (inv : Invocation) (more : List Switch) : Invocation :=
  { inv with switches := inv.switches ++ more }

/-- The line with a value given. -/
def give (inv : Invocation) (p : Parameter) (value : String) : Invocation :=
  { inv with values := inv.values ++ [(p, value)] }

/-- The options with values that are given, each in the place where it is given first. -/
def parameters (inv : Invocation) : List Parameter := (inv.values.map Prod.fst).eraseDups

/-- All values of an option. -/
def valuesOf (inv : Invocation) (p : Parameter) : List String :=
  inv.values.filterMap fun v => if v.1 = p then some v.2 else none

/-- The files to check. They add up; of any other option the last value counts. -/
def files (inv : Invocation) : List String := inv.valuesOf .file

/-- The name of the format. -/
def format (inv : Invocation) : String := (inv.valuesOf .format).getLast?.getD "text"

/-- The file of settings. -/
def config (inv : Invocation) : Option String := (inv.valuesOf .config).getLast?

/-- The file to log to. -/
def logFile (inv : Invocation) : Option String := (inv.valuesOf .logFile).getLast?

/-- A word is taken in; the answer may name an option that has yet to get its value. -/
def take? (inv : Invocation) : Word → Option (Invocation × Option Parameter)
  | .operand | .endOfOptions => some ({ inv with hasOperands := true }, none)
  | .long name attached =>
    match longOptions.lookup name, attached with
    | some (.switch s), none => some (inv.turn [s], none)
    | some (.parameter p), some value => some (inv.give p value, none)
    | some (.parameter p), none => some (inv, some p)
    | _, _ => none
  | .short letters =>
    match together? letters with
    | some (switches, none) => some (inv.turn switches, none)
    | some (switches, some (p, some value)) => some ((inv.turn switches).give p value, none)
    | some (switches, some (p, none)) => some (inv.turn switches, some p)
    | none => none

/-- **Reading a command line** word by word. There is no answer if an option is unknown, lacks its
value or has one that it cannot have. -/
def read? (inv : Invocation) (words : List String) : Option Invocation :=
  match words with
  | [] => some inv
  | word :: rest =>
    if Word.ofText word = .endOfOptions then
      some { inv with hasOperands := inv.hasOperands || !rest.isEmpty }
    else
      match inv.take? (Word.ofText word) with
      | some (inv, none) => read? inv rest
      | some (inv, some p) =>
        match _h : rest with
        | value :: rest => read? (inv.give p value) rest
        | [] => none
      | none => none
termination_by words.length
decreasing_by
  · simp
  · subst _h
    simp only [List.length_cons]
    omega

end Invocation

end DocCoverage.CommandLine
