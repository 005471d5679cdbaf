import DegreeAudit.Page.Fields
import DegreeAudit.Url.Percent

/-!
# Form bodies

Fields as the body of a request: names and values joined by equals signs, fields by ampersands.
Letters, digits and four marks stand for themselves, a plus for a space, and percent signs for the
bytes of everything else, so neither separator occurs inside a name or a value and `decode` finds
every field again.
-/

namespace DegreeAudit.FormBody

def mediaType : String := "application/x-www-form-urlencoded"

def isPlain (c : Char) : Bool := c.isAlphanum || ['*', '-', '.', '_'].contains c

def encodeChar (c : Char) : List Char :=
  if c = ' ' then ['+']
  else if isPlain c then [c]
  else (Text.Utf8.encodeChar c).flatMap Url.Percent.encodeByte

def encodeText (s : List Char) : List Char := s.flatMap encodeChar

def encodeField (field : String × String) : List Char :=
  encodeText field.1.toList ++ '=' :: encodeText field.2.toList

def encodeChars (fields : Fields) : List Char := ['&'].intercalate (fields.map encodeField)

def encode (fields : Fields) : String := String.ofList (encodeChars fields)

def decodeText (s : List Char) : List Char :=
  Text.Utf8.decode (Url.Percent.decode (s.map fun c => if c = '+' then ' ' else c))

/-- The field that a part of a body stands for; without an equals sign the value is empty. -/
def decodeField (s : List Char) : String × String :=
  (String.ofList (decodeText (s.takeWhile (· != '='))),
    String.ofList (decodeText (s.dropWhile (· != '=')).tail))

/-- The fields that a body holds; empty parts are none. -/
def decode (body : String) : Fields :=
  ((body.toList.splitOn '&').filter (!·.isEmpty)).map decodeField

end DegreeAudit.FormBody
