/-
Text laid out on a screen of limited width. A text is first cut at its line ends; each piece is
broken before the words that no longer fit, a word that is too long for any line being folded or cut
off; and each line is then put on one side of its place.
-/
import DocCoverage.Text.Blank
import DocCoverage.Text.Columns

set_option autoImplicit false

namespace DocCoverage

/-- A line of text on a screen. -/
abbrev Line := List Char

namespace Line

/-- Blanks. -/
def blank (n : Nat) : Line := List.replicate n ' '

/-- The controls that a screen does not show. -/
def isHidden (c : Char) : Bool :=
  c == '\x07' || c == '\x08' || c == '\x0b' || c == '\x0c' || c == '\r'

/-- What a screen shows of a text. -/
def visible (text : List Char) : List Char := text.filter fun c => !isHidden c

/-- A text cut at some characters, in one piece at least. -/
def cutAt (isEnd : Char → Bool) : List Char → List Line
  | [] => [[]]
  | c :: rest =>
    if isEnd c then [] :: cutAt isEnd rest
    else
      match cutAt isEnd rest with
      | first :: others => (c :: first) :: others
      | [] => [[c]]

/-- What ends a line where the width of a text is asked for. A screen goes to a new line only for
the first of them. -/
def isLineEnd (c : Char) : Bool :=
  c == '\n' || c == '\x1c' || c == '\x1d' || c == '\x1e' || c == '\x85' || c == '\u2028' ||
    c == '\u2029'

/-- The columns that a text asks for: those of its widest line, tabs not counted. -/
def columnsOf (text : List Char) : Nat := ((cutAt isLineEnd text).map Text.width).foldl max 0

/-- The columns between two tab stops. -/
def tabStop : Nat := 8

/-- A line with its tabs filled up to the next stop, `column` being where it begins and the pieces
being what stands between the tabs. -/
def fillTabs (column : Nat) : List Line → Line
  | [] => []
  | [piece] => piece
  | piece :: rest =>
    let piece := piece ++ [' ']
    let reached := column + Text.width piece
    let stop := tabStop * ((reached + tabStop - 1) / tabStop)
    piece ++ blank (stop - reached) ++ fillTabs stop rest

/-- A line without tabs. -/
def withoutTabs (line : Line) : Line := fillTabs 0 (cutAt (· == '\t') line)

/-! ## Words -/

/-- Where in a word its next character stands. -/
inductive WordPart where
  | leading
  | inside
  | trailing
  deriving DecidableEq, Repr

/-- The words of a line, each with the blanks behind it, and the first with those before it.
`word` is what is read of the current one. -/
def wordsFrom (word : Line) (part : WordPart) : Line → List Line
  | [] => if part = .leading then [] else [word]
  | c :: rest =>
    if Text.isBlank c then
      wordsFrom (word ++ [c]) (if part = .leading then .leading else .trailing) rest
    else if part = .trailing then word :: wordsFrom [c] .inside rest
    else wordsFrom (word ++ [c]) .inside rest

/-- A line without the blanks at its end. -/
def trimmed (line : Line) : Line := (line.reverse.dropWhile Text.isBlank).reverse

/-- What becomes of text that does not fit in a line. -/
inductive Overflow where
  /-- It is folded into the next lines. -/
  | fold
  /-- It is cut off, and three dots say so. -/
  | ellipsis
  deriving DecidableEq, Repr

/-- Lines being filled with words. -/
structure Filling where
  done : List Line := []
  line : Line := []
  /-- The columns used in the current line. -/
  used : Nat := 0

namespace Filling

/-- The current line ends, unless nothing stands in it. -/
def next (f : Filling) : Filling :=
  if f.line.isEmpty then f else { f with done := f.done ++ [f.line], line := [] }

/-- One more word. -/
def add (overflow : Overflow) (room : Nat) (f : Filling) (word : Line) : Filling :=
  let size := Text.width (trimmed word)
  if f.used + size ≤ room then
    { f with line := f.line ++ word, used := f.used + Text.width word }
  else if size ≤ room || overflow = .ellipsis then
    { f.next with line := word, used := Text.width word }
  else
    match (Text.chop room word).reverse with
    | last :: before =>
      let f := f.next
      { done := f.done ++ before.reverse, line := last, used := Text.width last }
    | [] => { f.next with line := word, used := 0 }

end Filling

/-- **A line broken where it is full.** A line without words stays as it is. -/
def broken (overflow : Overflow) (room : Nat) (line : Line) : List Line :=
  match wordsFrom [] .leading line with
  | [] => [line]
  | words =>
    let f := words.foldl (Filling.add overflow room) {}
    f.done ++ [f.line]

/-- A line that has more characters than its place has columns loses blanks at its end, as far as
that helps. -/
def withoutExcess (room : Nat) (line : Line) : Line :=
  let blanks := line.length - (trimmed line).length
  line.take (line.length - min blanks (line.length - room))

/-! ## Places -/

/-- A line cut off to fit in a place. -/
def Overflow.cut (overflow : Overflow) (room : Nat) (line : Line) : Line :=
  if Text.width line ≤ room then line
  else
    match overflow with
    | .fold => Text.fit room line
    | .ellipsis => Text.fit (room - 1) line ++ ['…']

/-- On which side of its place a line stands. -/
inductive Side where
  /-- The line is not filled up. -/
  | asWritten
  | left
  | right
  /-- An odd blank stands on the right. -/
  | middle
  deriving DecidableEq, Repr

/-- A line in a place of some width. -/
def Side.place (side : Side) (overflow : Overflow) (room : Nat) (line : Line) : Line :=
  match side with
  | .asWritten => overflow.cut room line
  | .left =>
    let line := overflow.cut room line
    line ++ blank (room - Text.width line)
  | .right =>
    let line := overflow.cut room (trimmed line)
    blank (room - Text.width line) ++ line
  | .middle =>
    let line := overflow.cut room (trimmed line)
    let line := blank ((room - Text.width line) / 2) ++ line
    line ++ blank (room - Text.width line)

/-- **A text laid out** in a place of some width, line by line. -/
def laid (side : Side) (overflow : Overflow) (room : Nat) (text : List Char) : List Line :=
  (cutAt (· == '\n') (visible text)).flatMap fun line =>
    (broken overflow room (withoutTabs line)).map fun line =>
      side.place overflow room (withoutExcess room line)

/-- The columns of the screen. -/
def screen : Nat := 200

/-- A text that stands on the screen by itself. -/
def ofText (text : List Char) : List Line := laid .asWritten .fold screen text

end Line

end DocCoverage
