/-
UTF-32: units of four bytes, in either order. A unit that is the number of no character is
malformed, and so are the one to three bytes that may be left at the end of the file.
-/
import DocCoverage.Charset.Basic

set_option autoImplicit false

namespace DocCoverage.Utf32

/-- The unit made of four bytes. -/
def join (order : ByteOrder) (a b c d : UInt8) : Nat :=
  match order with
  | .little => ((d.toNat * 256 + c.toNat) * 256 + b.toNat) * 256 + a.toNat
  | .big => ((a.toNat * 256 + b.toNat) * 256 + c.toNat) * 256 + d.toNat

/-- The decoder for an order. -/
def decoder : ByteOrder → String
  | .little => "utf-32-le"
  | .big => "utf-32-be"

/-- **The pieces of a text in UTF-32** that begins at byte `position`. -/
def pieces (order : ByteOrder) (position : Nat) : List UInt8 → List Piece
  | [] => []
  | a :: b :: c :: d :: rest =>
    let unit := join order a b c d
    let piece : Piece :=
      if 0x10FFFF < unit then
        .malformed ⟨decoder order, position, 4, a, .unitTooLarge⟩
      else if 0xD800 ≤ unit ∧ unit < 0xE000 then
        .malformed ⟨decoder order, position, 4, a, .surrogateUnit⟩
      else .char (Char.ofNat unit)
    piece :: pieces order (position + 4) rest
  | a :: rest =>
    [.malformed ⟨decoder order, position, rest.length + 1, a, .truncatedUnit⟩]

/-- The order that the first four bytes of a file tell. -/
def markedOrder? : List UInt8 → Option ByteOrder
  | 0xFF :: 0xFE :: 0 :: 0 :: _ => some .little
  | 0 :: 0 :: 0xFE :: 0xFF :: _ => some .big
  | _ => none

end DocCoverage.Utf32
