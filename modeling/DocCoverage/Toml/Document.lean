/-
A whole TOML document: lines with a key and a value, headers of tables, and headers of elements of
lists of tables. Keys belong to the table of the last header.

A table cannot be declared twice, neither by a header nor by the dots of keys under different
headers; and nothing can be added to a list or an inline table that was written as a value. The
header of a list element begins a table anew, so that what was declared below it may be declared
again.
-/
import DocCoverage.Charset.Decode
import DocCoverage.Toml.Content

set_option autoImplicit false

namespace DocCoverage.Toml

/-- What has been read of a document. -/
structure Document where
  entries : Entries := []
  /-- The names of the last header. -/
  header : List String := []
  /-- Tables that cannot be declared again. -/
  declared : List (List String) := []
  /-- Tables that cannot be declared again once another header is read. -/
  pending : List (List String) := []
  /-- Where lists and inline tables stand. -/
  closed : List (List String) := []

namespace Document

/-- The proper beginnings of a path that go beyond another path before it. -/
def waysThrough (base : List String) (tables : List String) : List (List String) :=
  (List.range tables.length).map fun n => base ++ tables.take (n + 1)

/-- **A key gets its value.** -/
def assign (d : Document) (key : Key) (value : Value) : Option Document := do
  let ways := waysThrough d.header key.tables
  let table := d.header ++ key.tables
  if ways.any d.declared.contains || leadsThrough d.closed table then none
  let entries ← changeAt true (addNew key.name value) table d.entries
  return { d with
    entries
    pending := ways ++ d.pending
    closed := if hasParts value then (d.header ++ key.path) :: d.closed else d.closed }

/-- The tables that only dots have declared so far count from now on. -/
def settle (d : Document) : Document :=
  { d with declared := d.pending ++ d.declared, pending := [] }

/-- **A header begins a table.** -/
def openTable (d : Document) (path : List String) : Option Document := do
  if d.declared.contains path || leadsThrough d.closed path then none
  let entries ← changeAt true some path d.entries
  return { d with entries, header := path, declared := path :: d.declared }

/-- A new element of a list of tables. -/
def addElement (name : String) (entries : Entries) : Option Entries :=
  match lookupEntry name entries with
  | none => some (entries ++ [(name, .list [.table []])])
  | some (.list items) => some (setEntry entries name (.list (items ++ [.table []])))
  | some _ => none

/-- **A header begins an element of a list of tables.** -/
def openElement (d : Document) (key : Key) : Option Document := do
  let path := key.path
  if leadsThrough d.closed path then none
  let isBelow := fun (p : List String) => path.isPrefixOf p
  let entries ← changeAt true (addElement key.name) key.tables d.entries
  return { d with
    entries
    header := path
    declared := path :: d.declared.filter fun p => !isBelow p
    closed := d.closed.filter fun p => !isBelow p }

/-- A header, read from behind its first bracket. -/
def header? (d : Document) (cs : List Char) : Option (Document × List Char) :=
  let d := d.settle
  match cs with
  | '[' :: cs => do
    let (key, rest) ← key? cs.length.succ (skipGap cs)
    let d ← d.openElement key
    match rest with
    | ']' :: ']' :: rest => return (d, rest)
    | _ => none
  | cs => do
    let (key, rest) ← key? cs.length.succ (skipGap cs)
    let d ← d.openTable key.path
    match rest with
    | ']' :: rest => return (d, rest)
    | _ => none

/-- What stands at the beginning of a line, and what follows it. -/
def statement? (d : Document) (cs : List Char) : Option (Document × List Char) :=
  match cs with
  | [] => some (d, [])
  | c :: rest =>
    if c == '\n' || c == '#' then some (d, cs)
    else if c == '[' then d.header? rest
    else do
      let (key, value, rest) ← pair? cs.length.succ cs
      return (← d.assign key value, rest)

/-- What follows the end of a line, behind the comment that may stand there. -/
def afterLine? (cs : List Char) : Option (List Char) := do
  let rest ← match skipGap cs with
    | '#' :: rest => afterComment? rest
    | rest => some rest
  match rest with
  | [] => return []
  | c :: rest => if c == '\n' then return rest else none

/-- The lines of a document. -/
def lines? : Nat → Document → List Char → Option Document
  | 0, _, _ => none
  | _ + 1, d, [] => some d
  | fuel + 1, d, cs => do
    let (d, rest) ← d.statement? (skipGap cs)
    lines? fuel d (← afterLine? rest)

end Document

/-- Carriage returns before line ends are not part of a document. -/
def plainLineEnds : List Char → List Char
  | '\r' :: '\n' :: rest => '\n' :: plainLineEnds rest
  | c :: rest => c :: plainLineEnds rest
  | [] => []

/-- **The table that a document describes.** -/
def table? (source : List Char) : Option Entries :=
  let cs := plainLineEnds source
  (Document.lines? cs.length.succ {} cs).map Document.entries

/-- **The table that a file describes,** which has to be well-formed UTF-8. -/
def tableOfBytes? (bytes : List UInt8) : Option Entries :=
  match Charset.utf8.decode .refuse bytes with
  | .ok text => table? text.toList
  | .error _ => none

end DocCoverage.Toml
