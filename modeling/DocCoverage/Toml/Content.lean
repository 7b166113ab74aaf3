/-
Keys and values of TOML. A key may be several names with dots between them, and leads through as
many tables. A list may run over lines and hold comments; an inline table stands on one line, and
what it holds cannot be added to later.

Readers take fuel, which counts the nesting of what they read; a text never nests deeper than it is
long.
-/
import DocCoverage.Toml.Scalar

set_option autoImplicit false

namespace DocCoverage.Toml

/-- The entries of a table, in the order in which their keys first appear. -/
abbrev Entries := List (String × Value)

/-- What a key leads through, and the name it ends with. -/
structure Key where
  tables : List String
  name : String
  deriving DecidableEq, Repr

/-- All names of a key. -/
def Key.path (k : Key) : List String := k.tables ++ [k.name]

/-! ## Keys -/

/-- A character of a name without quotes. -/
def isBare (c : Char) : Bool := c.isAlphanum || c == '-' || c == '_'

/-- One name of a key. -/
def name? (cs : List Char) : Option (String × List Char) :=
  match cs.takeWhile isBare with
  | [] => (lineQuotation? cs).map fun (text, rest) => (String.ofList text, rest)
  | bare => some (String.ofList bare, cs.drop bare.length)

/-- A text without the blanks it begins with. -/
def skipGap (cs : List Char) : List Char := cs.dropWhile isGap

/-- **A key,** and what follows it and the blanks behind it. -/
def key? : Nat → List Char → Option (Key × List Char)
  | 0, _ => none
  | fuel + 1, cs => do
    let (name, rest) ← name? cs
    match skipGap rest with
    | '.' :: rest =>
      let (key, rest) ← key? fuel (skipGap rest)
      return ({ key with tables := name :: key.tables }, rest)
    | rest => return (⟨[], name⟩, rest)

/-! ## Tables -/

/-- The entries with what lies at the end of a path changed; tables on the way are made. A list on
the way stands for its last element where `throughLists` holds. -/
def changeAt (throughLists : Bool) (act : Entries → Option Entries) :
    List String → Entries → Option Entries
  | [], entries => act entries
  | name :: path, entries => do
    let changed ← match lookupEntry name entries with
      | none => (changeAt throughLists act path []).map Value.table
      | some (.table below) => (changeAt throughLists act path below).map Value.table
      | some (.list items) =>
        if throughLists then
          match items.getLast? with
          | some (.table below) =>
            (changeAt throughLists act path below).map fun t => .list (items.dropLast ++ [.table t])
          | _ => none
        else none
      | some _ => none
    return setEntry entries name changed

/-- The entries with a new one; a name that is taken already is refused. -/
def addNew (name : String) (value : Value) (entries : Entries) : Option Entries :=
  if (lookupEntry name entries).isSome then none else some (entries ++ [(name, value)])

/-- A value that has parts, which nothing can be added to. -/
def hasParts : Value → Bool
  | .list _ | .table _ => true
  | _ => false

/-- A path is one of those given or leads through one of them. -/
def leadsThrough (given : List (List String)) (path : List String) : Bool :=
  given.any fun g => !g.isEmpty && g.isPrefixOf path

/-! ## Values -/

/-- The rest of a line behind a comment sign, all of whose characters are allowed. -/
def afterComment? (cs : List Char) : Option (List Char) :=
  let text := cs.takeWhile (· != '\n')
  if text.all (mayStand false) then some (cs.drop text.length) else none

/-- A text without the blanks, line ends and comments it begins with. -/
def skipLayout? : Nat → List Char → Option (List Char)
  | 0, _ => none
  | fuel + 1, cs =>
    match cs.dropWhile isLayout with
    | '#' :: rest =>
      match afterComment? rest with
      | some rest => skipLayout? fuel rest
      | none => none
    | rest => some rest

mutual

/-- **A value.** -/
def value? : Nat → List Char → Option (Value × List Char)
  | 0, _ => none
  | fuel + 1, cs =>
    match cs with
    | '"' :: _ | '\'' :: _ =>
      (quotation? cs).map fun (text, rest) => (.text (String.ofList text), rest)
    | 't' :: 'r' :: 'u' :: 'e' :: rest => some (.bool true, rest)
    | 'f' :: 'a' :: 'l' :: 's' :: 'e' :: rest => some (.bool false, rest)
    | '[' :: rest => (items? fuel rest).map fun (items, rest) => (.list items, rest)
    | '{' :: rest =>
      match skipGap rest with
      | '}' :: rest => some (.table [], rest)
      | rest => (pairs? fuel [] [] rest).map fun (entries, rest) => (.table entries, rest)
    | cs => scalar? cs

/-- The items of a list up to its closing bracket. A comma may stand behind the last one. -/
def items? : Nat → List Char → Option (List Value × List Char)
  | 0, _ => none
  | fuel + 1, cs => do
    match ← skipLayout? cs.length.succ cs with
    | ']' :: rest => return ([], rest)
    | cs =>
      let (item, rest) ← value? fuel cs
      match ← skipLayout? rest.length.succ rest with
      | ']' :: rest => return ([item], rest)
      | ',' :: rest =>
        let (items, rest) ← items? fuel rest
        return (item :: items, rest)
      | _ => none

/-- The pairs of an inline table up to its closing brace. `closed` are the keys so far whose values
nothing can be added to. -/
def pairs? : Nat → List (List String) → Entries → List Char → Option (Entries × List Char)
  | 0, _, _, _ => none
  | fuel + 1, closed, entries, cs => do
    let (key, value, rest) ← pair? fuel cs
    if leadsThrough closed key.path then none
    let entries ← changeAt false (addNew key.name value) key.tables entries
    match skipGap rest with
    | '}' :: rest => return (entries, rest)
    | ',' :: rest =>
      let closed := if hasParts value then key.path :: closed else closed
      pairs? fuel closed entries (skipGap rest)
    | _ => none

/-- A key and its value. -/
def pair? : Nat → List Char → Option (Key × Value × List Char)
  | 0, _ => none
  | fuel + 1, cs => do
    let (key, rest) ← key? cs.length.succ cs
    match rest with
    | '=' :: rest =>
      let (value, rest) ← value? fuel (skipGap rest)
      return (key, value, rest)
    | _ => none

end

end DocCoverage.Toml
