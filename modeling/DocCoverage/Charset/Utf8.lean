/-
UTF-8. The first byte of a character says how many bytes follow it and which range the next one is
in; those after it are in the range of all continuation bytes. A malformed part is the longest run
of bytes that begins a character which the next byte, or the end of the file, does not continue.
-/
import DocCoverage.Charset.Basic

set_option autoImplicit false

namespace DocCoverage.Utf8

/-- What a first byte announces. -/
structure Lead where
  /-- How many bytes follow. -/
  owed : Nat
  /-- The range of the next byte. -/
  low : UInt8
  high : UInt8
  /-- The bits of the character that the first byte holds. -/
  bits : Nat

/-- The announcement of a byte, if a character can begin with it. -/
def lead? (b : UInt8) : Option Lead :=
  if b < 0x80 then some ⟨0, 0x80, 0xBF, b.toNat⟩
  else if b < 0xC2 then none
  else if b < 0xE0 then some ⟨1, 0x80, 0xBF, b.toNat - 0xC0⟩
  else if b < 0xF0 then
    some ⟨2, if b = 0xE0 then 0xA0 else 0x80, if b = 0xED then 0x9F else 0xBF, b.toNat - 0xE0⟩
  else if b < 0xF5 then
    some ⟨3, if b = 0xF0 then 0x90 else 0x80, if b = 0xF4 then 0x8F else 0xBF, b.toNat - 0xF0⟩
  else none

/-- How many of the bytes continue a character that wants `owed` more, the next one in the given
range. -/
def continued (owed : Nat) (low high : UInt8) : List UInt8 → Nat
  | [] => 0
  | b :: rest =>
    match owed with
    | 0 => 0
    | owed + 1 => if low ≤ b ∧ b ≤ high then continued owed 0x80 0xBF rest + 1 else 0

/-- **The pieces of a text in UTF-8** that begins at byte `position`. -/
def pieces (position : Nat) : List UInt8 → List Piece
  | [] => []
  | b :: rest =>
    match lead? b with
    | none => .malformed ⟨"utf-8", position, 1, b, .invalidStart⟩ :: pieces (position + 1) rest
    | some lead =>
      let n := continued lead.owed lead.low lead.high rest
      let piece : Piece :=
        if n = lead.owed then
          .char (Char.ofNat ((rest.take n).foldl (fun v c => v * 64 + c.toNat % 64) lead.bits))
        else
          .malformed ⟨"utf-8", position, n + 1, b,
            if n = rest.length then .unexpectedEnd else .invalidContinuation⟩
      piece :: pieces (position + 1 + n) (rest.drop n)
termination_by bytes => bytes.length
decreasing_by all_goals simp only [List.length_drop, List.length_cons]; omega

/-- The byte order mark. -/
def mark : List UInt8 := [0xEF, 0xBB, 0xBF]

/-- **The pieces of a text in UTF-8 with a mark.** The mark is dropped, and positions count from
behind it. A file that ends inside the mark has no text. -/
def signedPieces (bytes : List UInt8) : List Piece :=
  if bytes.length < 3 ∧ bytes.isPrefixOf mark then []
  else if mark.isPrefixOf bytes then pieces 0 (bytes.drop 3)
  else pieces 0 bytes

/-- The bytes of a text. -/
def encode (s : String) : List UInt8 := s.toUTF8.toList

end DocCoverage.Utf8
