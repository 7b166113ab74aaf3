/-
UTF-16: units of two bytes, in either order. A high surrogate and a low one behind it make one
character; either of them alone is malformed, and so is a single byte at the end of the file.
-/
import DocCoverage.Charset.Basic

set_option autoImplicit false

namespace DocCoverage.Utf16

/-- The unit made of two bytes. -/
def join (order : ByteOrder) (a b : UInt8) : Nat :=
  match order with
  | .little => b.toNat * 256 + a.toNat
  | .big => a.toNat * 256 + b.toNat

/-- The decoder for an order. -/
def decoder : ByteOrder → String
  | .little => "utf-16-le"
  | .big => "utf-16-be"

/-- The first of the two units of a character. -/
def isHigh (unit : Nat) : Bool := 0xD800 ≤ unit && unit < 0xDC00

/-- The second of the two units of a character. -/
def isLow (unit : Nat) : Bool := 0xDC00 ≤ unit && unit < 0xE000

/-- **The pieces of a text in UTF-16** that begins at byte `position`. -/
def pieces (order : ByteOrder) (position : Nat) : List UInt8 → List Piece
  | [] => []
  | [a] => [.malformed ⟨decoder order, position, 1, a, .truncatedUnit⟩]
  | a :: b :: rest =>
    let unit := join order a b
    if isLow unit then
      .malformed ⟨decoder order, position, 2, a, .loneLowSurrogate⟩ ::
        pieces order (position + 2) rest
    else if isHigh unit then
      match rest with
      | c :: d :: after =>
        let next := join order c d
        if isLow next then
          .char (Char.ofNat (0x10000 + (unit - 0xD800) * 0x400 + (next - 0xDC00)))
            :: pieces order (position + 4) after
        else
          .malformed ⟨decoder order, position, 2, a, .loneHighSurrogate⟩
            :: pieces order (position + 2) (c :: d :: after)
      | tail => [.malformed ⟨decoder order, position, 2 + tail.length, a, .unexpectedEnd⟩]
    else .char (Char.ofNat unit) :: pieces order (position + 2) rest

/-- The order that the first two bytes of a file tell. -/
def markedOrder? : List UInt8 → Option ByteOrder
  | 0xFF :: 0xFE :: _ => some .little
  | 0xFE :: 0xFF :: _ => some .big
  | _ => none

end DocCoverage.Utf16
