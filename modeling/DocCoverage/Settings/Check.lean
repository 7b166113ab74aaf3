/-
Which values settings may have. There has to be a suffix, and every suffix begins with a dot; the
encoding has to exist. It is tried on the empty text, at which one encoding gives up in a way that
no one foresees. Nothing else is checked. A name that is no setting is refused before any value is
looked at.
-/
import DocCoverage.Settings.Basic

set_option autoImplicit false

namespace DocCoverage

/-- Why given settings are not accepted. -/
inductive SettingsError where
  /-- A name that is no setting. -/
  | unknownKey (key : String)
  /-- The one name that cannot be given because it is already taken. -/
  | takenKey
  /-- The suffixes cannot be gone through. -/
  | notIterable (typeName : String)
  /-- A suffix that is no text. -/
  | suffixNotText
  /-- The encoding is no text. -/
  | encodingNotText (typeName : String)
  /-- The name of the encoding holds the character zero. -/
  | zeroInEncoding
  /-- The encoding exists and cannot be used. -/
  | unusableEncoding
  /-- A setting has a value that is not allowed. -/
  | invalid (key value reason : String)
  deriving DecidableEq, Repr

namespace SettingsError

/-- The words for an error of type, which is also what an unknown name counts as. -/
def typeText? : SettingsError → Option String
  | .unknownKey key =>
    some ("CheckerConfig.__init__() got an unexpected keyword argument '" ++ key ++ "'")
  | .takenKey => some "CheckerConfig.__init__() got multiple values for argument 'self'"
  | .notIterable typeName => some ("'" ++ typeName ++ "' object is not iterable")
  | .encodingNotText typeName =>
    some ("encode() argument 'encoding' must be str, not " ++ typeName)
  | _ => none

/-- The failure that an error is. -/
def failure (e : SettingsError) : Failure :=
  match e with
  | .invalid key value reason => .problem (.invalidSetting key value reason)
  | .suffixNotText => .notText
  | .zeroInEncoding => .zeroInName
  | .unusableEncoding => .unusableEncoding
  | e => .wrongType (e.typeText?.getD "")

end SettingsError

namespace Settings

/-- Every suffix is a text that begins with a dot. -/
def checkSuffixes : List Value → Except SettingsError Unit
  | [] => .ok ()
  | .text s :: rest =>
    if s.startsWith "." then checkSuffixes rest
    else .error (.invalid "extensions" s "extensions must start with '.'")
  | _ :: _ => .error .suffixNotText

/-- The setting of the suffixes is allowed. An empty list is shown in the form it is kept in. -/
def checkExtensions (v : Value) : Except SettingsError Unit :=
  if v.isOn then
    match v.elements with
    | .ok suffixes => checkSuffixes suffixes
    | .error _ => .error (.notIterable v.typeName)
  else
    let shown := match v with
      | .list _ => "()"
      | v => v.shown
    .error (.invalid "extensions" shown "at least one extension is required")

/-- The setting of the encoding is allowed. -/
def checkEncoding (v : Value) : Except SettingsError Unit :=
  match v with
  | .text name =>
    if name.contains '\x00' then .error .zeroInEncoding
    else
      match Encoding.ofName? name with
      | none => .error (.invalid "encoding" name "unknown encoding")
      | some .undefined => .error .unusableEncoding
      | some _ => .ok ()
  | .null => .error (.encodingNotText "None")
  | v => .error (.encodingNotText v.typeName)

/-- **Settings are accepted** if their suffixes and their encoding are. -/
def check (s : Settings) : Except SettingsError Settings :=
  match checkExtensions (s.value .extensions) with
  | .error e => .error e
  | .ok () =>
    match checkEncoding (s.value .encoding) with
    | .error e => .error e
    | .ok () => .ok s

/-- The settings with those named in a list changed, in order. -/
def assign (s : Settings) : List (String × Value) → Except SettingsError Settings
  | [] => .ok s
  | (key, value) :: rest =>
    match Field.ofKey? key with
    | some field => (s.set field value).assign rest
    | none => .error (if key = "self" then .takenKey else .unknownKey key)

/-- **Settings with changes,** checked as a whole. -/
def change (s : Settings) (changes : List (String × Value)) : Except SettingsError Settings :=
  match s.assign changes with
  | .error e => .error e
  | .ok changed => changed.check

/-- The settings with the given values, the others being those nobody set. -/
def ofEntries (entries : List (String × Value)) : Except SettingsError Settings :=
  Settings.default.change entries

end Settings

end DocCoverage
