/-
Settings in environment variables. There is one variable for each setting, and its text is read by
the kind of the setting: a word for on or off, a list with commas, or the text itself.
-/
import DocCoverage.Failure.Basic
import DocCoverage.Settings.Basic
import DocCoverage.Text.Blank

set_option autoImplicit false

namespace DocCoverage

/-- The variables of an environment. -/
abbrev Environment := List (String × String)

/-- How the text of a variable is read. -/
inductive VariableForm where
  | switch
  | list
  | text
  deriving DecidableEq, Repr

namespace Field

/-- How the variable of a setting is read. -/
def form : Field → VariableForm
  | .report _ | .checkDefines | .followLinks => .switch
  | .extensions | .excludePatterns => .list
  | .encoding => .text

/-- The name of the variable of a setting. -/
def variableName (f : Field) : String := "DOCCHECK_" ++ f.key.map Char.toUpper

end Field

namespace Environment

/-- What a word for on or off means. Blanks around it do not count, nor does the case. -/
def switch? (text : String) : Option Bool :=
  let word := Text.lower (String.ofList (Text.stripBlanks text.toList))
  if word ∈ ["true", "1", "yes", "on"] then some true
  else if word ∈ ["false", "0", "no", "off"] then some false
  else none

/-- The elements of a list with commas. Blanks around them do not count, and empty ones are left
out. -/
def elements (text : String) : List String :=
  ((text.splitOn ",").map fun part => String.ofList (Text.stripBlanks part.toList)).filter
    fun part => !part.isEmpty

/-- The value that a text gives a setting. -/
def value? (field : Field) (text : String) : Option Value :=
  match field.form with
  | .switch => (switch? text).map Value.bool
  | .list => some (.list ((elements text).map Value.text))
  | .text => some (.text text)

/-- The problem with a variable whose text is no word for on or off. -/
def badSwitch (field : Field) (text : String) : Problem :=
  .configuration
    ("Invalid " ++ field.variableName ++ ": expected true/false, got '" ++ text ++ "'") []

/-- The settings of some fields. -/
def settingsOf (env : Environment) : List Field → Result (List (String × Value))
  | [] => .ok []
  | field :: rest =>
    match env.lookup field.variableName with
    | none => settingsOf env rest
    | some text =>
      match value? field text with
      | none => (badSwitch field text).raise
      | some value => (settingsOf env rest).map ((field.key, value) :: ·)

/-- **The settings that an environment gives,** in the order of the fields. -/
def settings (env : Environment) : Result (List (String × Value)) := settingsOf env Field.all

end Environment

end DocCoverage
