import DegreeAudit.Text.Composed
import DegreeAudit.Text.Unprintable
import DegreeAudit.Text.Utf8
import DegreeAudit.Url.NameMapping
import DegreeAudit.Url.Percent
import DegreeAudit.Url.Punycode

/-!
# Domain names

The one way in which a domain name is written: mapped to what its characters count as, and each
label with characters beyond ASCII in Punycode behind the mark `xn--`. A label that comes with the
mark must be the Punycode of a label that could have been written out. Characters that part an
address, blanks and characters that cannot be seen belong into no name.
-/

namespace DegreeAudit.Url.DomainName

def mark : List Char := ['x', 'n', '-', '-']

/-- Whether an ASCII character belongs into no name. -/
def isForbidden (c : Char) : Bool :=
  c.toNat ≤ 0x20 || c.toNat == 0x7F ||
    ['#', '/', ':', '<', '>', '?', '@', '[', '\\', ']', '^', '|', '%'].contains c

/-- Whether the two characters that join letters of some scripts. -/
def isJoiner (c : Char) : Bool := c.toNat == 0x200C || c.toNat == 0x200D

/-- Characters that can be seen or count as others but stand in no name, as ranges of code points:
fillers, descriptions of ideographs, and those that would count as something with a full stop. -/
def excludedRanges : List (Nat × Nat) := [
  (0x115F, 0x1160), (0x17B4, 0x17B5), (0x1806, 0x1806), (0x2024, 0x2026), (0x2488, 0x249B),
  (0x2FF0, 0x2FFF), (0x3164, 0x3164), (0x31EF, 0x31EF), (0x33C2, 0x33C2), (0x33C7, 0x33C7),
  (0x33D8, 0x33D8), (0xFE12, 0xFE12), (0xFE19, 0xFE19), (0xFE30, 0xFE30), (0xFE52, 0xFE52),
  (0xFFA0, 0xFFA0), (0xFFFC, 0xFFFD), (0x1F100, 0x1F100)]

/-- Whether a character, before it is mapped, stands in no name. -/
def isExcluded (c : Char) : Bool :=
  excludedRanges.any fun range => range.1 ≤ c.toNat && c.toNat ≤ range.2

/-- What the characters of a name count as, in composed form, unless one of them stands in no name.
-/
def mapped? (name : List Char) : Option (List Char) :=
  if name.any isExcluded then none
  else some (Text.Composed.ofChars (name.flatMap NameMapping.mapChar))

def isAllowed (c : Char) : Bool :=
  if c.toNat < 0x80 then !isForbidden c
  else !isExcluded c && (isJoiner c || !Text.isUnprintable c)

/-- The class of the marks that take the vowel from a letter; after them a joiner has a meaning. -/
def silencing : Nat := 9

/-- Whether every joiner stands after a mark that takes the vowel from a letter. -/
def joinsWell (before : Option Char) : List Char → Bool
  | [] => true
  | c :: rest =>
    (!isJoiner c || before.any (Text.Composed.level · == silencing)) && joinsWell (some c) rest

/-- Whether a mapped label may stand in a name: a mark cannot be the first character. -/
def isLabel (label : List Char) : Bool :=
  label.all isAllowed && joinsWell none label && !label.head?.any Text.Composed.isMark

def isAscii (label : List Char) : Bool := label.all (·.toNat < 0x80)

/-- Whether a label could have been written out: it is not all ASCII and mapping leaves it as it is.
-/
def isWrittenOut (label : List Char) : Bool :=
  !isAscii label && mapped? label == some label && isLabel label

/-- The one way to write a mapped label. -/
def writeLabel? (label : List Char) : Option (List Char) :=
  if !isLabel label then none
  else if !isAscii label then some (mark ++ Punycode.encode label)
  else if mark.isPrefixOf label then
    if ((Punycode.decode? (label.drop mark.length)).any isWrittenOut) then some label else none
  else some label

def write? (name : List Char) : Option (List Char) :=
  (mapped? name).bind fun name =>
  ((name.splitOn '.').mapM writeLabel?).map (['.'].intercalate ·)

/-- The domain name that part of an address writes, percent signs standing for bytes. -/
def ofEncoded? (s : List Char) : Option (List Char) := write? (Text.Utf8.decode (Percent.decode s))

end DegreeAudit.Url.DomainName
