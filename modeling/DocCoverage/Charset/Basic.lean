/-
The character encodings whose decoders are worked out here, and what a decoder makes of a file:
characters, and parts that are no character in the encoding. What becomes of such a part is up to
the reader: it is replaced, left out, or it makes the whole file unreadable.

These are the forms of Unicode with one, two or four bytes to a unit, and every encoding with one
byte to a character. Encodings with a varying number of bytes to a character outside Unicode, and
those that write characters in ASCII, are not among them: their decoders belong to the system, and
DocCoverage.Charset.Conversion says what is assumed of them.
-/
import DocCoverage.Text.Quoted

set_option autoImplicit false

namespace DocCoverage

/-- A character encoding. -/
inductive Charset where
  | utf8
  /-- UTF-8 with a byte order mark that is not part of the text. -/
  | utf8Signed
  | latin1
  | ascii
  /-- A code page: one byte to a character. The given characters are those of the last bytes, the
  replacement character standing for none; the bytes before them are as in Latin-1. -/
  | codePage (characters : String)
  /-- UTF-16 in the byte order that its first two bytes tell. -/
  | utf16
  | utf16Little
  | utf16Big
  /-- UTF-32 in the byte order that its first four bytes tell. -/
  | utf32
  | utf32Little
  | utf32Big
  deriving DecidableEq, Repr

/-- The order of the bytes of a unit. -/
inductive ByteOrder where
  | little
  | big
  deriving DecidableEq, Repr

/-- Why some bytes are no character. -/
inductive DecodingFault where
  | invalidStart
  | invalidContinuation
  | unexpectedEnd
  | notAscii
  | undefinedByte
  | truncatedUnit
  | loneLowSurrogate
  | loneHighSurrogate
  | surrogateUnit
  | unitTooLarge
  /-- Whatever the decoder of an encoding that is not worked out says. -/
  | stated (words : String)
  deriving DecidableEq, Repr

/-- The words for a fault. -/
def DecodingFault.shown : DecodingFault → String
  | .invalidStart => "invalid start byte"
  | .invalidContinuation => "invalid continuation byte"
  | .unexpectedEnd => "unexpected end of data"
  | .notAscii => "ordinal not in range(128)"
  | .undefinedByte => "character maps to <undefined>"
  | .truncatedUnit => "truncated data"
  | .loneLowSurrogate => "illegal encoding"
  | .loneHighSurrogate => "illegal UTF-16 surrogate"
  | .surrogateUnit => "code point in surrogate code point range(0xd800, 0xe000)"
  | .unitTooLarge => "code point not in range(0x110000)"
  | .stated words => words

/-- A part of a file that is no character. -/
structure Malformed where
  /-- The decoder that found it. -/
  decoder : String
  start : Nat
  /-- How many bytes it has. -/
  length : Nat
  /-- The first of them. -/
  first : UInt8
  fault : DecodingFault
  deriving DecidableEq, Repr

/-- A malformed part in words. -/
def Malformed.shown (m : Malformed) : String :=
  let place :=
    if m.length = 1 then
      "byte 0x" ++ String.ofList (Text.hexDigits 2 m.first.toNat) ++ " in position "
        ++ toString m.start
    else
      "bytes in position " ++ toString m.start ++ "-" ++ toString (m.start + m.length - 1)
  "'" ++ m.decoder ++ "' codec can't decode " ++ place ++ ": " ++ m.fault.shown

/-- What decoding makes of a few bytes. -/
inductive Piece where
  | char (c : Char)
  | malformed (m : Malformed)
  deriving DecidableEq, Repr

/-- What becomes of malformed parts. -/
inductive OnMalformed where
  /-- Each is replaced by one replacement character. -/
  | replace
  /-- They are left out. -/
  | ignore
  /-- The first one makes the file unreadable. -/
  | refuse
  deriving DecidableEq, Repr

/-- Why a file has no text. -/
inductive DecodingError where
  | malformed (m : Malformed)
  /-- UTF-16 or UTF-32 of either byte order, and no mark that tells which. -/
  | unmarked
  /-- The decoder gives up without naming any bytes. -/
  | unusable
  deriving DecidableEq, Repr

end DocCoverage
