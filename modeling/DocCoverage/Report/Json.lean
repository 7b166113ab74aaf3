/-
The report as JSON: an object with the findings, the counts and the paths that could not be checked,
spread over lines with an indent of two. Only printable ASCII is written; other characters are
escapes of four hexadecimal digits, two of them for a character outside the basic plane.
-/
import DocCoverage.Report.Basic

set_option autoImplicit false

namespace DocCoverage.Json

/-- An escape of four hexadecimal digits. -/
def unicodeEscape (n : Nat) : List Char := '\\' :: 'u' :: Text.hexDigits 4 n

/-- One character of a text. -/
def charText (c : Char) : List Char :=
  if c = '"' || c = '\\' then ['\\', c]
  else if c = '\n' then ['\\', 'n']
  else if c = '\r' then ['\\', 'r']
  else if c = '\t' then ['\\', 't']
  else if c = '\x08' then ['\\', 'b']
  else if c = '\x0c' then ['\\', 'f']
  else
    let n := c.toNat
    if 0x20 ≤ n && n < 0x7F then [c]
    else if n < 0x10000 then unicodeEscape n
    else
      unicodeEscape (0xD800 + (n - 0x10000) / 0x400)
        ++ unicodeEscape (0xDC00 + (n - 0x10000) % 0x400)

/-- A text. -/
def text (s : String) : String := String.ofList ('"' :: s.toList.flatMap charText ++ ['"'])

/-- Members of a list or an object on lines of their own. -/
def enclosed (opening closing : String) (level : Nat) (members : List String) : String :=
  let indent (n : Nat) : String := "".pushn ' ' (2 * n)
  if members.isEmpty then opening ++ closing
  else
    opening ++ "\n" ++ ",\n".intercalate (members.map (indent (level + 1) ++ ·)) ++ "\n"
      ++ indent level ++ closing

mutual

/-- **A value,** `level` being how deep it stands. -/
def written (level : Nat) : Value → String
  | .null => "null"
  | .bool true => "true"
  | .bool false => "false"
  | .int n => toString n
  | .text s => text s
  | .list items => enclosed "[" "]" level (writtenItems (level + 1) items)
  | .table entries => enclosed "\x7b" "\x7d" level (writtenEntries (level + 1) entries)
  | .literal _ s => s

def writtenItems (level : Nat) : List Value → List String
  | [] => []
  | v :: rest => written level v :: writtenItems level rest

def writtenEntries (level : Nat) : List (String × Value) → List String
  | [] => []
  | (k, v) :: rest => (text k ++ ": " ++ written level v) :: writtenEntries level rest

end

end DocCoverage.Json

namespace DocCoverage

/-- A finding as a value. -/
def Finding.toValue (f : Finding) : Value :=
  .table [("file", .text f.file), ("line", .int f.line), ("message", .text f.message)]

/-- Counts as a value. -/
def Counters.toValue (c : Counters) : Value :=
  .table [("files_checked", .int c.files), ("directories_checked", .int c.directories),
    ("entities", .table (EntityKind.all.map fun kind =>
      (kind.key, .table [("found", .int (c.tally kind).found),
        ("missing", .int (c.tally kind).missing)])))]

/-- A report as a value. -/
def Report.toValue (r : Report) : Value :=
  .table [("findings", .list (r.findings.map Finding.toValue)), ("counters", r.counters.toValue),
    ("reported", .int r.reported),
    ("missing_paths", .list (r.missing.map fun p => .text p.shown)),
    ("unreadable_paths", .list (r.unreadable.map fun p => .text p.shown))]

/-- **The report as JSON.** -/
def Report.json (r : Report) : String := Json.written 0 r.toValue

end DocCoverage
