/-
Tables drawn with lines. A column is as wide as its widest cell, unless the table would then be
wider than the screen: in that case the widest columns give way. A cell of several lines makes its
row higher. Title and caption stand in the middle above and below the table.
-/
import DocCoverage.Report.Layout

set_option autoImplicit false

namespace DocCoverage

/-! ## Widths -/

/-- A quotient rounded to the nearest whole number, to the even one of two. -/
def nearest (a b : Nat) : Nat :=
  let low := a / b
  if 2 * (a % b) < b || (2 * (a % b) = b && low % 2 = 0) then low else low + 1

/-- The widths with `excess` taken in equal parts from those that are `widest`, of which there are
`count`, but from none more than `most`. -/
def takenFrom (widest most : Nat) (count excess : Nat) : List Nat → List Nat
  | [] => []
  | width :: rest =>
    if width = widest && 0 < count then
      let less := min most (nearest excess count)
      (width - less) :: takenFrom widest most (count - 1) (excess - less) rest
    else width :: takenFrom widest most count excess rest

/-- The greatest of some widths, apart from one. -/
def greatestBut (other : Nat) (widths : List Nat) : Nat :=
  (widths.filter (· != other)).foldl max 0

/-- The widths of columns that have `room` together, in at most `rounds` rounds: the widest ones
become as narrow as the next ones, or so narrow that all fit. -/
def narrowed (room : Nat) : Nat → List Nat → List Nat
  | 0, widths => widths
  | rounds + 1, widths =>
    let total := widths.foldr (· + ·) 0
    if total ≤ room then widths
    else
      let widest := widths.foldl max 0
      let excess := total - room
      let most := min excess (widest - greatestBut widest widths)
      narrowed room rounds (takenFrom widest most (widths.count widest) excess widths)

/-- Columns that fit stay as they are. -/
theorem narrowed_eq_self {room : Nat} (rounds : Nat) {widths : List Nat}
    (h : widths.foldr (· + ·) 0 ≤ room) : narrowed room rounds widths = widths := by
  cases rounds with
  | zero => rfl
  | succ rounds => simp only [narrowed, if_pos h]

/-! ## Tables -/

/-- A cell of a table: its text. -/
abbrev Cell := List Char

/-- A column of a table. -/
structure Column where
  heading : String
  side : Line.Side
  deriving DecidableEq, Repr

/-- A table. -/
structure Table where
  title : String
  columns : List Column
  rows : List (List Cell)
  caption : Option String := none
  deriving DecidableEq, Repr

namespace Table

/-- The headings as a row. -/
def headings (t : Table) : List Cell := t.columns.map (·.heading.toList)

/-- The blanks beside a cell, taken together. -/
def padding : Nat := 2

/-- The widths that the columns ask for, blanks included: in each place that of the widest cell of
all rows. -/
def askedWidths (t : Table) : List Nat :=
  let width (cell : Cell) : Nat := Line.columnsOf (Line.visible cell) + padding
  t.rows.foldl (fun widths row => List.zipWith max widths (row.map width)) (t.headings.map width)

/-- What the lines between the columns leave of the screen. -/
def room (t : Table) : Nat := Line.screen - (t.columns.length + 1)

/-- **The widths of the columns,** blanks included. No column asks for more than there is. -/
def widths (t : Table) : List Nat :=
  narrowed t.room (t.columns.length + 1) (t.askedWidths.map (min t.room))

/-- The width of the whole table. -/
def width (t : Table) : Nat := t.widths.foldr (· + ·) 0 + t.columns.length + 1

/-- A horizontal line: what stands at its ends and where columns meet, and what it is made of. -/
def rule (t : Table) (left fill cross right : Char) : Line :=
  left :: [cross].intercalate (t.widths.map fun w => List.replicate w fill) ++ [right]

/-- The lines of a row between vertical bars. -/
def rowLines (t : Table) (bar : Char) (row : List Cell) : List Line :=
  let places := List.zipWith (fun (column : Column) (place : Nat × Cell) =>
    (place.1, Line.laid column.side .ellipsis (place.1 - padding) place.2))
    t.columns (t.widths.zip row)
  let height := (places.map (·.2.length)).foldl max 1
  (List.range height).map fun i =>
    bar :: [bar].intercalate (places.map fun place =>
      ' ' :: (place.2[i]?).getD (Line.blank (place.1 - padding)) ++ [' ']) ++ [bar]

/-- A text in the middle above or below the table. -/
def beside (t : Table) (text : String) : List Line :=
  Line.laid .middle .fold t.width text.toList

/-- **A table, line by line.** -/
def drawn (t : Table) : List Line :=
  t.beside t.title ++
    [t.rule '┏' '━' '┳' '┓'] ++
    t.rowLines '┃' t.headings ++
    [t.rule '┡' '━' '╇' '┩'] ++
    t.rows.flatMap (t.rowLines '│') ++
    [t.rule '└' '─' '┴' '┘'] ++
    (t.caption.map t.beside).getD []

end Table

end DocCoverage
