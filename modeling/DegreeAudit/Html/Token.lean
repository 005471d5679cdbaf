import DegreeAudit.Html.CharacterReference

/-!
# Tags

The tokens of a page, and how a tag is read from its name to its closing bracket. Names are in lower
case, the first of several attributes of one name counts, and a tag that the page breaks off is no
tag at all.
-/

namespace DegreeAudit.Html

/-- A tag's name, its attributes in order and whether it closes itself. -/
structure Tag where
  name : String
  attributes : List (String × String)
  selfClosing : Bool
deriving DecidableEq, Repr, Inhabited

/-- What a page is made of. Comments are kept only for the place they take. -/
inductive Token where
  | doctype (quirky : Bool)
  | startTag (tag : Tag)
  | endTag (name : String)
  | comment
  | character (c : Char)
  | ended
deriving DecidableEq, Repr

/-- The four characters that part attributes; carriage returns have become line feeds. -/
def isTagSpace (c : Char) : Bool := c == ' ' || c == '\t' || c == '\n' || c == '\x0c'

inductive TagPlace where
  | name
  | beforeAttribute
  | attributeName
  | afterAttributeName
  | beforeValue
  | quoted (quote : Char)
  | unquoted
  | selfClosing
deriving DecidableEq, Repr

/-- A tag that is being read; texts are in reverse. -/
structure OpenTag where
  name : List Char := []
  attributes : List (String × String) := []
  key : List Char := []
  value : List Char := []

namespace OpenTag

/-- A character as it stands in a name: lower case, and never null. -/
def nameChar (c : Char) : Char := if c = '\x00' then replacement else c.toLower

/-- A character as it stands in a value: never null. -/
def valueChar (c : Char) : Char := if c = '\x00' then replacement else c

/-- The tag with the attribute being read added, unless an earlier one has its name. -/
def closeAttribute (t : OpenTag) : OpenTag :=
  let name := String.ofList t.key.reverse
  if t.key.isEmpty ∨ t.attributes.any (·.1 == name) then { t with key := [], value := [] }
  else
    { t with
      attributes := (name, String.ofList (decodeAttribute t.value.reverse)) :: t.attributes
      key := []
      value := [] }

def beginAttribute (t : OpenTag) (c : Char) : OpenTag :=
  { t.closeAttribute with key := [nameChar c] }

/-- The tag once its closing bracket is met. -/
def close (t : OpenTag) (selfClosing : Bool) : Tag :=
  let t := t.closeAttribute
  ⟨String.ofList t.name.reverse, t.attributes.reverse, selfClosing⟩

end OpenTag

/-- Reads the rest of a tag; there is none if the page ends first. -/
def readTag (place : TagPlace) (t : OpenTag) : List Char → Option (Tag × List Char)
  | [] => none
  | c :: rest =>
    match place with
    | .name =>
      if isTagSpace c then readTag .beforeAttribute t rest
      else if c = '/' then readTag .selfClosing t rest
      else if c = '>' then some (t.close false, rest)
      else readTag .name { t with name := OpenTag.nameChar c :: t.name } rest
    | .beforeAttribute =>
      if isTagSpace c then readTag .beforeAttribute t rest
      else if c = '/' then readTag .selfClosing t rest
      else if c = '>' then some (t.close false, rest)
      else readTag .attributeName (t.beginAttribute c) rest
    | .attributeName =>
      if isTagSpace c then readTag .afterAttributeName t rest
      else if c = '/' then readTag .selfClosing t.closeAttribute rest
      else if c = '>' then some (t.close false, rest)
      else if c = '=' then readTag .beforeValue t rest
      else readTag .attributeName { t with key := OpenTag.nameChar c :: t.key } rest
    | .afterAttributeName =>
      if isTagSpace c then readTag .afterAttributeName t rest
      else if c = '/' then readTag .selfClosing t.closeAttribute rest
      else if c = '>' then some (t.close false, rest)
      else if c = '=' then readTag .beforeValue t rest
      else readTag .attributeName (t.beginAttribute c) rest
    | .beforeValue =>
      if isTagSpace c then readTag .beforeValue t rest
      else if c = '"' ∨ c = '\'' then readTag (.quoted c) t rest
      else if c = '>' then some (t.close false, rest)
      else readTag .unquoted { t with value := OpenTag.valueChar c :: t.value } rest
    | .quoted quote =>
      if c = quote then readTag .beforeAttribute t.closeAttribute rest
      else readTag (.quoted quote) { t with value := OpenTag.valueChar c :: t.value } rest
    | .unquoted =>
      if isTagSpace c then readTag .beforeAttribute t.closeAttribute rest
      else if c = '>' then some (t.close false, rest)
      else readTag .unquoted { t with value := OpenTag.valueChar c :: t.value } rest
    | .selfClosing =>
      if isTagSpace c then readTag .beforeAttribute t rest
      else if c = '/' then readTag .selfClosing t rest
      else if c = '>' then some (t.close true, rest)
      else readTag .attributeName (t.beginAttribute c) rest

theorem length_lt_of_readTag {place : TagPlace} {t : OpenTag} {s rest : List Char} {tag : Tag}
    (h : readTag place t s = some (tag, rest)) : rest.length < s.length := by
  induction s generalizing place t with
  | nil => simp [readTag] at h
  | cons c rest ih => cases place <;> grind [readTag, List.length_cons]

end DegreeAudit.Html
