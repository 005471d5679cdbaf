import DegreeAudit.Text.Utf16

/-!
# Character sets

How the bytes of a page become characters. A page is in UTF-8 unless it names the Western
single-byte set or UTF-16, under any of their many names; names that are not known mean UTF-8. The
bytes with which UTF-8 and UTF-16 may mark themselves win over any name and are no part of the text.
-/

namespace DegreeAudit.Text

inductive Charset where
  | utf8
  | utf16 (order : Utf16.ByteOrder)
  | western
deriving DecidableEq, Repr

namespace Charset

def westernNames : List String := [
  "ansi_x3.4-1968", "ascii", "cp1252", "cp819", "csisolatin1", "ibm819", "iso-8859-1",
  "iso-ir-100", "iso8859-1", "iso88591", "iso_8859-1", "iso_8859-1:1987", "l1", "latin1",
  "us-ascii", "windows-1252", "x-cp1252"]

def highFirstNames : List String := ["unicodefffe", "utf-16be"]

def lowFirstNames : List String := [
  "csunicode", "iso-10646-ucs-2", "ucs-2", "unicode", "unicodefeff", "utf-16", "utf-16le"]

/-- The set that a name means; case and blanks around it do not matter. -/
def ofName (name : String) : Charset :=
  let name := name.trimAscii.toString.toLower
  if westernNames.contains name then western
  else if highFirstNames.contains name then utf16 .highFirst
  else if lowFirstNames.contains name then utf16 .lowFirst
  else utf8

/-- The code points of the bytes from 80 to 9F in the Western set. -/
def westernUpper : List Nat := [
  0x20AC, 0x81, 0x201A, 0x192, 0x201E, 0x2026, 0x2020, 0x2021, 0x2C6, 0x2030, 0x160, 0x2039,
  0x152, 0x8D, 0x17D, 0x8F, 0x90, 0x2018, 0x2019, 0x201C, 0x201D, 0x2022, 0x2013, 0x2014,
  0x2DC, 0x2122, 0x161, 0x203A, 0x153, 0x9D, 0x17E, 0x178]

def westernChar (b : UInt8) : Char :=
  if 0x80 ≤ b ∧ b ≤ 0x9F then Char.ofNat (westernUpper.getD (b.toNat - 0x80) 0)
  else Char.ofNat b.toNat

/-- The set whose mark the bytes begin with, and the bytes behind the mark. -/
def marked? : List UInt8 → Option (Charset × List UInt8)
  | 0xEF :: 0xBB :: 0xBF :: rest => some (utf8, rest)
  | 0xFE :: 0xFF :: rest => some (utf16 .highFirst, rest)
  | 0xFF :: 0xFE :: rest => some (utf16 .lowFirst, rest)
  | _ => none

/-- The text of bytes that hold no mark. -/
def read : Charset → List UInt8 → List Char
  | utf8, bytes => Utf8.decode bytes
  | utf16 order, bytes => Utf16.decode order bytes
  | western, bytes => bytes.map westernChar

def decode (set : Charset) (bytes : List UInt8) : List Char :=
  match marked? bytes with
  | some (marked, rest) => marked.read rest
  | none => set.read bytes

end Charset

end DegreeAudit.Text
