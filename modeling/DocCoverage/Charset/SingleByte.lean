/-
Encodings with one byte to a character: ASCII, Latin-1, and the code pages that differ from Latin-1
from some byte on, where they may leave bytes undefined.
-/
import DocCoverage.Charset.Basic

set_option autoImplicit false

namespace DocCoverage.SingleByte

/-- One byte of ASCII. -/
def asciiPiece (position : Nat) (b : UInt8) : Piece :=
  if b < 0x80 then .char (Char.ofNat b.toNat)
  else .malformed ⟨"ascii", position, 1, b, .notAscii⟩

/-- One byte of Latin-1. -/
def latin1Piece (b : UInt8) : Piece := .char (Char.ofNat b.toNat)

/-- One byte of a code page, the characters of whose last bytes are given. -/
def codePagePiece (characters : List Char) (position : Nat) (b : UInt8) : Piece :=
  let listedFrom := 0x100 - characters.length
  if b.toNat < listedFrom then latin1Piece b
  else
    let c := characters.getD (b.toNat - listedFrom) '\uFFFD'
    if c = '\uFFFD' then .malformed ⟨"charmap", position, 1, b, .undefinedByte⟩ else .char c

end DocCoverage.SingleByte
