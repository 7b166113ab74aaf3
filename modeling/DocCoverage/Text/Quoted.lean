/-
Quoted text: how a path, a name or a value is shown inside a message. The text stands between single
quotes, or between double quotes if it holds a single quote and no double one. The backslash and the
quote in use are escaped, line ends and the tab by a letter, and every other unprintable character
by its code point in two, four or eight hexadecimal digits, whichever is the least that holds it.
-/
import DocCoverage.Text.Printable

set_option autoImplicit false

namespace DocCoverage.Text

/-- The hexadecimal digits of a number, at least `width` of them, in lower case. -/
def hexDigits (width n : Nat) : List Char :=
  let digits := Nat.toDigits 16 n
  List.replicate (width - digits.length) '0' ++ digits

/-- The quote that goes around a text. -/
def quoteFor (cs : List Char) : Char :=
  if cs.contains '\'' && !cs.contains '"' then '"' else '\''

/-- One character between quotes. -/
def quotedChar (quote c : Char) : List Char :=
  if c == '\\' || c == quote then ['\\', c]
  else if c == '\n' then ['\\', 'n']
  else if c == '\r' then ['\\', 'r']
  else if c == '\t' then ['\\', 't']
  else if isPrintable c then [c]
  else if c.toNat < 0x100 then '\\' :: 'x' :: hexDigits 2 c.toNat
  else if c.toNat < 0x10000 then '\\' :: 'u' :: hexDigits 4 c.toNat
  else '\\' :: 'U' :: hexDigits 8 c.toNat

/-- **A text in quotes.** -/
def quoted (s : String) : String :=
  let cs := s.toList
  let quote := quoteFor cs
  String.ofList (quote :: cs.flatMap (quotedChar quote) ++ [quote])

end DocCoverage.Text
