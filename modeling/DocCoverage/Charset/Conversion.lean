/-
The decoders that belong to the system: those of the encodings with a varying number of bytes to a
character outside Unicode, those of the encodings that write characters in ASCII, and that of domain
names. Their tables are not here. What is assumed of them is that, where malformed parts are
replaced, none but that of domain names gives up without naming the bytes that stopped it.

A few of these encodings write ASCII as it is, and the others do so but for a few bytes. That much
is known of them without their tables, and it is enough for a source file in plain ASCII.
-/
import DocCoverage.Charset.Basic

set_option autoImplicit false

namespace DocCoverage

/-- The decoders of the system. -/
structure Conversions where
  /-- The text of a file in the encoding of a given name. -/
  convert : String → OnMalformed → List UInt8 → Except DecodingError String
  /-- The text of a file of domain names, where malformed parts are refused. -/
  domainNames : List UInt8 → Except DecodingError String
  /-- A decoder that replaces malformed parts gives up only at bytes that it names. -/
  lenient : ∀ {name : String} {bytes : List UInt8} {e : DecodingError},
    convert name .replace bytes = .error e → ∃ m, e = .malformed m

namespace Conversions

/-- The encodings that the system decodes, each with the bytes below `0x80` that need not stand for
the character of their number. -/
def names : List (String × List UInt8) :=
  [("big5", []), ("big5hkscs", []), ("cp932", []), ("cp949", []), ("cp950", []),
    ("euc_jis_2004", []), ("euc_jisx0213", []), ("euc_jp", []), ("euc_kr", []), ("gb18030", []),
    ("gb2312", []), ("gbk", []), ("hz", [0x7E]), ("iso2022_jp", [0x1B]), ("iso2022_jp_1", [0x1B]),
    ("iso2022_jp_2", [0x1B]), ("iso2022_jp_2004", [0x1B]), ("iso2022_jp_3", [0x1B]),
    ("iso2022_jp_ext", [0x1B]), ("iso2022_kr", [0x0E, 0x0F, 0x1B]), ("johab", []),
    ("punycode", (List.range 0x80).map UInt8.ofNat), ("raw_unicode_escape", [0x5C]),
    ("shift_jis", []), ("shift_jis_2004", [0x5C, 0x7E]), ("shift_jisx0213", [0x5C, 0x7E]),
    ("unicode_escape", [0x5C]), ("utf_7", [0x2B])]

/-- The first byte that is not known to stand for the character of its number, and its position. -/
def firstUnclear? (name : String) (bytes : List UInt8) : Option (UInt8 × Nat) :=
  bytes.zipIdx.find? fun b => 0x80 ≤ b.1 || ((names.lookup name).getD []).contains b.1

/-- The text of a file in plain ASCII. Any other file is malformed at its first unclear byte. -/
def convertPlain (name : String) (bytes : List UInt8) : Except DecodingError String :=
  match firstUnclear? name bytes with
  | none => .ok (String.ofList (bytes.map fun b => Char.ofNat b.toNat))
  | some (b, position) => .error (.malformed ⟨name, position, 1, b, .stated "no conversion"⟩)

theorem convertPlain_eq_error {name : String} {bytes : List UInt8} {e : DecodingError}
    (h : convertPlain name bytes = .error e) : ∃ m, e = .malformed m := by
  unfold convertPlain at h
  cases hb : firstUnclear? name bytes with
  | none =>
    rw [hb] at h
    cases h
  | some b =>
    rw [hb] at h
    exact ⟨_, (Except.error.inj h).symm⟩

/-- **Decoders that know ASCII only.** -/
def plain : Conversions where
  convert name _ bytes := convertPlain name bytes
  domainNames bytes := if bytes.isEmpty then .ok "" else .error .unusable
  lenient := convertPlain_eq_error

end Conversions

end DocCoverage
