import DegreeAudit.Text.Hex
import DegreeAudit.Text.Utf8

/-!
# Percent encoding

Characters that a part of an address cannot hold are written as their bytes, each a percent sign and
two upper-case hexadecimal digits. Each part has its own set of such characters; every set contains
the control characters and everything beyond ASCII.
-/

namespace DegreeAudit.Url.Percent

def upperHexDigit (n : Nat) : Char :=
  if n < 10 then Char.ofNat ('0'.toNat + n) else Char.ofNat ('A'.toNat + (n - 10))

def encodeByte (b : UInt8) : List Char :=
  ['%', upperHexDigit (b.toNat / 16), upperHexDigit (b.toNat % 16)]

/-- Whether a control character or beyond ASCII. -/
def isControl (c : Char) : Bool := c.toNat < 0x20 || 0x7E < c.toNat

/-- Characters that a fragment cannot hold. -/
def inFragment (c : Char) : Bool := isControl c || [' ', '"', '<', '>', '\x60'].contains c

/-- Characters that a path cannot hold. -/
def inPath (c : Char) : Bool := inFragment c || ['#', '?', '\x7b', '\x7d'].contains c

/-- Characters that a user name or password cannot hold. -/
def inUserInfo (c : Char) : Bool :=
  inPath c || ['/', ':', ';', '=', '@', '[', '\\', ']', '^', '|'].contains c

/-- Characters that a query cannot hold; a quote is one only in the schemes of the web. -/
def inQuery (special : Bool) (c : Char) : Bool :=
  isControl c || [' ', '"', '#', '<', '>'].contains c || (special && c == '\'')

def encode (set : Char → Bool) (s : List Char) : List Char :=
  s.flatMap fun c => if set c then (Text.Utf8.encodeChar c).flatMap encodeByte else [c]

/-- The bytes of a text in which percent signs with two digits stand for a byte. -/
def decode (s : List Char) : List UInt8 :=
  match s with
  | [] => []
  | '%' :: a :: b :: rest =>
    match Text.hexValue? a, Text.hexValue? b with
    | some high, some low => UInt8.ofNat (16 * high + low) :: decode rest
    | _, _ => Text.Utf8.encodeChar '%' ++ decode (a :: b :: rest)
  | c :: rest => Text.Utf8.encodeChar c ++ decode rest
termination_by s.length

end DegreeAudit.Url.Percent
