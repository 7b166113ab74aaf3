/-
Values of settings before anything is known about them. A configuration file or an override may give
a setting any value, and a setting that is accepted keeps the value as it was given: a report flag
may be a number or a text, and counts as off exactly when it is empty, zero, false or null.

Of a number with a fraction or an exponent, only whether it is zero is ever asked. It is zero when
nothing is left of it in double precision: the least positive number there is `2 ^ -1074`, and what
is not above half of that is rounded to zero.
-/
import DocCoverage.Text.Quoted

set_option autoImplicit false

namespace DocCoverage

/-- What a value kept as it was written stands for. -/
inductive LiteralKind where
  /-- A number with a fraction or an exponent, or one that is infinite or undefined. -/
  | float
  /-- A day with a time of day. -/
  | dateTime
  | date
  | time
  deriving DecidableEq, Repr

/-- A value of no fixed type. -/
inductive Value where
  | null
  | bool (b : Bool)
  | int (n : Int)
  | text (s : String)
  | list (items : List Value)
  | table (entries : List (String × Value))
  /-- A number with a fraction or a point in time, kept as it was written. -/
  | literal (kind : LiteralKind) (written : String)

namespace Value

instance : Inhabited Value := ⟨.null⟩

/-! ## Numbers as they are written -/

/-- The number that decimal digits denote, whatever else is among them. -/
def digitsValue (cs : List Char) : Nat :=
  (cs.filter Char.isDigit).foldl (fun n c => 10 * n + (c.toNat - '0'.toNat)) 0

/-- A decimal number as it is written. -/
structure Decimal where
  negative : Bool
  /-- The digits before the exponent, without the point. -/
  digits : List Char
  /-- How many of them stand behind the point. -/
  places : Nat
  exponent : Int

/-- The parts of a number. -/
def Decimal.ofText (written : String) : Decimal :=
  let cs := written.toList
  let isExponentSign := fun c : Char => c == 'e' || c == 'E'
  let mantissa := cs.takeWhile fun c => !isExponentSign c
  let exponent := (cs.dropWhile fun c => !isExponentSign c).drop 1
  let size : Int := digitsValue exponent
  { negative := cs.head? = some '-'
    digits := mantissa.filter Char.isDigit
    places := ((mantissa.dropWhile (· != '.')).filter Char.isDigit).length
    exponent := if exponent.head? = some '-' then -size else size }

/-- The number is zero in double precision. Only a number with digits is; the exponent settles most
cases, so that no large power is computed for them. -/
def Decimal.isZero (d : Decimal) : Bool :=
  let n := digitsValue d.digits
  let shift : Int := d.places - d.exponent
  if d.digits.isEmpty then false
  else if n = 0 || (d.digits.length + 324 : Int) ≤ shift then true
  else if shift ≤ 0 then false
  else n * Nat.pow 2 1075 ≤ Nat.pow 10 shift.toNat

/-! ## Questions about a value -/

/-- **Whether a value counts as on.** A point in time always does. -/
def isOn : Value → Bool
  | .null => false
  | .bool b => b
  | .int n => n != 0
  | .text s => !s.isEmpty
  | .list items => !items.isEmpty
  | .table entries => !entries.isEmpty
  | .literal .float written => !(Decimal.ofText written).isZero
  | .literal _ _ => true

mutual

/-- A value as it is written inside another one: texts are quoted. A number other than zero and a
point in time stay as they were given; no message shows one. -/
def nested : Value → String
  | .null => "None"
  | .bool true => "True"
  | .bool false => "False"
  | .int n => toString n
  | .text s => Text.quoted s
  | .list items => "[" ++ ", ".intercalate (nestedItems items) ++ "]"
  | .table entries => "\x7b" ++ ", ".intercalate (nestedEntries entries) ++ "\x7d"
  | .literal .float written =>
    let d := Decimal.ofText written
    if d.isZero then if d.negative then "-0.0" else "0.0" else written
  | .literal _ written => written

def nestedItems : List Value → List String
  | [] => []
  | v :: rest => nested v :: nestedItems rest

def nestedEntries : List (String × Value) → List String
  | [] => []
  | (k, v) :: rest => (Text.quoted k ++ ": " ++ nested v) :: nestedEntries rest

end

/-- **A value as a message shows it:** a text stands for itself, anything else is written as inside
another value. -/
def shown : Value → String
  | .text s => s
  | v => nested v

/-- The name of a value's type in messages about values of a wrong type. -/
def typeName : Value → String
  | .null => "NoneType"
  | .bool _ => "bool"
  | .int _ => "int"
  | .text _ => "str"
  | .list _ => "list"
  | .table _ => "dict"
  | .literal .float _ => "float"
  | .literal .dateTime _ => "datetime.datetime"
  | .literal .date _ => "datetime.date"
  | .literal .time _ => "datetime.time"

end Value

/-- The value under a key of a table whose keys are all different. -/
def lookupEntry (key : String) (entries : List (String × Value)) : Option Value :=
  entries.lookup key

/-- **Setting a key.** A key that the table has keeps its place; another one goes to the end. -/
def setEntry (entries : List (String × Value)) (key : String) (value : Value) :
    List (String × Value) :=
  if entries.any (·.1 == key) then entries.map fun e => if e.1 == key then (key, value) else e
  else entries ++ [(key, value)]

/-- Setting every key of `later`, in order. -/
def mergeEntries (entries later : List (String × Value)) : List (String × Value) :=
  later.foldl (fun merged e => setEntry merged e.1 e.2) entries

end DocCoverage
