/-
Numbers, dates and times of TOML. A whole number may have a sign, or be written in base two, eight
or sixteen; single underscores may stand between its digits, and a decimal number has no superfluous
leading zero. A decimal number that is whole has a limited number of digits. Numbers with a fraction
and points in time are only recognised and kept as they are written.
-/
import DocCoverage.Settings.Value
import DocCoverage.Toml.Quotation

set_option autoImplicit false

namespace DocCoverage.Toml

/-! ## Digits -/

/-- The value of a digit in a base of at most sixteen. -/
def digitIn? (base : Nat) (c : Char) : Option Nat := (digitValue? c).filter (· < base)

/-- More digits of a number, single underscores between them left out, and what follows. -/
def moreDigits (base : Nat) : List Char → List Nat × List Char
  | [] => ([], [])
  | c :: rest =>
    match digitIn? base c with
    | some d =>
      let (ds, after) := moreDigits base rest
      (d :: ds, after)
    | none =>
      match c, rest with
      | '_', next :: rest =>
        match digitIn? base next with
        | some d =>
          let (ds, after) := moreDigits base rest
          (d :: ds, after)
        | none => ([], '_' :: next :: rest)
      | c, rest => ([], c :: rest)

/-- The digits of a number, one at least. -/
def digits? (base : Nat) : List Char → Option (List Nat × List Char)
  | [] => none
  | c :: rest => (digitIn? base c).map fun d =>
    let (ds, after) := moreDigits base rest
    (d :: ds, after)

/-- The number that digits denote. -/
def ofDigits (base : Nat) (ds : List Nat) : Nat := ds.foldl (fun n d => base * n + d) 0

/-! ## Numbers -/

/-- The digits of a decimal number without superfluous leading zeros. -/
def decimal? : List Char → Option (List Nat × List Char)
  | '0' :: rest => some ([0], rest)
  | cs => digits? 10 cs

/-- What follows the fraction that a text begins with, or the whole text. -/
def afterFraction : List Char → List Char
  | '.' :: rest => ((digits? 10 rest).map Prod.snd).getD ('.' :: rest)
  | cs => cs

/-- A text without the sign it may begin with. -/
def afterSign : List Char → List Char
  | '+' :: rest => rest
  | '-' :: rest => rest
  | cs => cs

/-- What follows the exponent that a text begins with, or the whole text. -/
def afterExponent (cs : List Char) : List Char :=
  match cs with
  | e :: rest =>
    if e == 'e' || e == 'E' then ((digits? 10 (afterSign rest)).map Prod.snd).getD cs else cs
  | [] => []

/-- What a text begins with, up to a known rest. -/
def begun (cs rest : List Char) : List Char := cs.take (cs.length - rest.length)

/-- A number that is written in a base named by a letter. -/
def based? : List Char → Option (Value × List Char)
  | '0' :: letter :: rest =>
    let base := match letter with
      | 'x' => 16
      | 'o' => 8
      | 'b' => 2
      | _ => 0
    (digits? base rest).map fun (ds, after) => (.int (ofDigits base ds), after)
  | _ => none

/-- How many digits a decimal number that is whole may have. -/
def maxWholeDigits : Nat := 4300

/-- A decimal number, whole or not. -/
def decimalNumber? (cs : List Char) : Option (Value × List Char) :=
  (decimal? (afterSign cs)).bind fun (ds, rest) =>
    let after := afterExponent (afterFraction rest)
    let magnitude : Int := ofDigits 10 ds
    if after.length < rest.length then
      some (.literal .float (String.ofList (begun cs after)), after)
    else if maxWholeDigits < ds.length then none
    else some (.int (if cs.head? = some '-' then -magnitude else magnitude), rest)

/-- A number that is infinite or undefined. -/
def namedNumber? (cs : List Char) : Option (Value × List Char) :=
  let named (word rest : List Char) : Option (Value × List Char) :=
    some (.literal .float (String.ofList (begun cs (word ++ rest) ++ word)), rest)
  match afterSign cs with
  | 'i' :: 'n' :: 'f' :: rest => named ['i', 'n', 'f'] rest
  | 'n' :: 'a' :: 'n' :: rest => named ['n', 'a', 'n'] rest
  | _ => none

/-! ## Points in time -/

/-- A number of so many decimal digits. -/
def fixedNumber? : Nat → Nat → List Char → Option (Nat × List Char)
  | 0, n, rest => some (n, rest)
  | _ + 1, _, [] => none
  | more + 1, n, c :: rest =>
    match digitIn? 10 c with
    | some d => fixedNumber? more (10 * n + d) rest
    | none => none

/-- A number of two digits up to a limit. -/
def twoDigits? (limit : Nat) (cs : List Char) : Option (Nat × List Char) :=
  (fixedNumber? 2 0 cs).filter (·.1 ≤ limit)

/-- What follows a given character. -/
def after? (c : Char) : List Char → Option (List Char)
  | d :: rest => if c == d then some rest else none
  | [] => none

/-- What follows an hour and a minute. -/
def afterMinutes? (cs : List Char) : Option (List Char) := do
  let (_, rest) ← twoDigits? 23 cs
  let (_, rest) ← twoDigits? 59 (← after? ':' rest)
  return rest

/-- What follows a time of day. -/
def afterTime? (cs : List Char) : Option (List Char) := do
  let (_, rest) ← twoDigits? 59 (← after? ':' (← afterMinutes? cs))
  match rest with
  | '.' :: fraction =>
    let after := fraction.dropWhile Char.isDigit
    return if after.length < fraction.length then after else rest
  | rest => return rest

/-- How many days a month has. -/
def daysIn (year month : Nat) : Nat :=
  if month = 2 then
    if year % 4 = 0 ∧ (year % 100 ≠ 0 ∨ year % 400 = 0) then 29 else 28
  else if month = 4 ∨ month = 6 ∨ month = 9 ∨ month = 11 then 30
  else 31

/-- A year, a month and a day as they are written, and what follows. -/
def date? (cs : List Char) : Option ((Nat × Nat × Nat) × List Char) := do
  let (year, rest) ← fixedNumber? 4 0 cs
  let (month, rest) ← twoDigits? 12 (← after? '-' rest)
  let (day, rest) ← twoDigits? 31 (← after? '-' rest)
  if month = 0 ∨ day = 0 then none else return ((year, month, day), rest)

/-- A text without the distance from universal time that it may begin with. -/
def afterZone (cs : List Char) : List Char :=
  match cs with
  | c :: rest =>
    if c == 'Z' || c == 'z' then rest
    else if c == '+' || c == '-' then (afterMinutes? rest).getD cs
    else cs
  | [] => []

/-- What follows the time of day that may stand behind a date. -/
def afterDayTime (cs : List Char) : List Char :=
  match cs with
  | c :: rest =>
    if c == 'T' || c == 't' || c == ' ' then ((afterTime? rest).map afterZone).getD cs else cs
  | [] => []

/-- A point in time that begins with a date, if a text looks like one. The inner answer is empty for
a day that its month does not have. -/
def dated? (cs : List Char) : Option (Option (Value × List Char)) :=
  (date? cs).map fun ((year, month, day), rest) =>
    let after := afterDayTime rest
    let kind : LiteralKind := if after.length < rest.length then .dateTime else .date
    if 0 < year ∧ day ≤ daysIn year month then
      some (.literal kind (String.ofList (begun cs after)), after)
    else none

/-! ## All of them -/

/-- **A value without parts** that is neither a quoted text nor a truth value. -/
def scalar? (cs : List Char) : Option (Value × List Char) :=
  match dated? cs with
  | some found => found
  | none =>
    match afterTime? cs with
    | some after => some (.literal .time (String.ofList (begun cs after)), after)
    | none => based? cs <|> decimalNumber? cs <|> namedNumber? cs

end DocCoverage.Toml
