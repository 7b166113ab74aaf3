/-
Decoding a file. The decoder of its encoding cuts it into pieces; the reader's choice of what to do
with malformed ones then makes a text of them.
-/
import DocCoverage.Charset.SingleByte
import DocCoverage.Charset.Utf16
import DocCoverage.Charset.Utf32
import DocCoverage.Charset.Utf8

set_option autoImplicit false

namespace DocCoverage

/-- The characters of some pieces. -/
def Piece.text (onMalformed : OnMalformed) : List Piece → Except Malformed (List Char)
  | [] => .ok []
  | .char c :: rest => (Piece.text onMalformed rest).map (c :: ·)
  | .malformed m :: rest =>
    match onMalformed with
    | .replace => (Piece.text onMalformed rest).map ('\uFFFD' :: ·)
    | .ignore => Piece.text onMalformed rest
    | .refuse => .error m

namespace Charset

/-- The pieces of a file in an encoding. A file without the mark that would tell its byte order is
cut as if the low byte came first. -/
def pieces (charset : Charset) (bytes : List UInt8) : List Piece :=
  match charset with
  | .utf8 => Utf8.pieces 0 bytes
  | .utf8Signed => Utf8.signedPieces bytes
  | .latin1 => bytes.map SingleByte.latin1Piece
  | .ascii => bytes.mapIdx SingleByte.asciiPiece
  | .codePage characters => bytes.mapIdx (SingleByte.codePagePiece characters.toList)
  | .utf16Little => Utf16.pieces .little 0 bytes
  | .utf16Big => Utf16.pieces .big 0 bytes
  | .utf16 =>
    match Utf16.markedOrder? bytes with
    | some order => Utf16.pieces order 2 (bytes.drop 2)
    | none => Utf16.pieces .little 0 bytes
  | .utf32Little => Utf32.pieces .little 0 bytes
  | .utf32Big => Utf32.pieces .big 0 bytes
  | .utf32 =>
    match Utf32.markedOrder? bytes with
    | some order => Utf32.pieces order 4 (bytes.drop 4)
    | none => Utf32.pieces .little 0 bytes

/-- The byte order of a file of at least one unit remains unknown. -/
def lacksMark (charset : Charset) (bytes : List UInt8) : Bool :=
  match charset with
  | .utf16 => 2 ≤ bytes.length && (Utf16.markedOrder? bytes).isNone
  | .utf32 => 4 ≤ bytes.length && (Utf32.markedOrder? bytes).isNone
  | _ => false

/-- **The text of a file.** -/
def decode (charset : Charset) (onMalformed : OnMalformed) (bytes : List UInt8) :
    Except DecodingError String :=
  match Piece.text onMalformed (charset.pieces bytes) with
  | .error m => .error (.malformed m)
  | .ok cs => if charset.lacksMark bytes then .error .unmarked else .ok (String.ofList cs)

end Charset

end DocCoverage
