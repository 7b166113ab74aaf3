/-
Reading source files. What the operating system refuses, and bytes that a decoder names as
malformed, are a problem with the file. An encoding that does not exist, text in UTF-16 or UTF-32
whose byte order nothing tells, and a decoder that gives up on the whole file break off the
computation.
-/
import DocCoverage.Charset.Encoding
import DocCoverage.Failure.Basic

set_option autoImplicit false

namespace DocCoverage

/-- The failure that a file without a text is. -/
def DecodingError.failure (path : Path) : DecodingError → Failure
  | .malformed m => .problem (.fileAccess path ("Encoding error: " ++ m.shown))
  | .unmarked => .unmarkedText
  | .unusable => .unusableEncoding

/-- The text of some bytes in the encoding of a given name. -/
def decodeNamed (conversions : Conversions) (path : Path) (encoding : String)
    (onMalformed : OnMalformed) (bytes : List UInt8) : Result String :=
  if encoding.contains '\x00' then .error .zeroInName
  else
    match Encoding.ofName? encoding with
    | none => .error .unknownEncoding
    | some encoding =>
      (encoding.decode conversions onMalformed bytes).mapError (DecodingError.failure path)

/-- **The text of a source file.** -/
def readSource (fs : FileSystem) (path : Path) (encoding : String) (onMalformed : OnMalformed) :
    Result String :=
  match fs.read path with
  | .error e => .error (refused path e)
  | .ok bytes => decodeNamed fs.conversions path encoding onMalformed bytes

end DocCoverage
