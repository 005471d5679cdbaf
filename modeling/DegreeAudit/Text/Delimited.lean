/-!
# Tab-separated text

Records of fields, one record a line. A field is enclosed in quotes, its own quotes doubled, exactly
when it holds a character that would otherwise part fields or records; a record of a single empty
field is written as a pair of quotes, since an empty line is no record. `readRecords` follows the
usual reading rules: lines end with LF, CR or both, and everything between quotes belongs to the
field.
-/

namespace DegreeAudit.Text.Delimited

def separator : Char := '\t'

def isSpecial (c : Char) : Bool := c == separator || c == '"' || c == '\r' || c == '\n'

def quoteField (field : List Char) : List Char :=
  '"' :: field.flatMap (fun c => if c = '"' then ['"', '"'] else [c]) ++ ['"']

def writeField (field : List Char) : List Char :=
  if field.any isSpecial then quoteField field else field

def writeRecord (fields : List (List Char)) : List Char :=
  if fields = [[]] then ['"', '"', '\n']
  else [separator].intercalate (fields.map writeField) ++ ['\n']

def writeRecords (records : List (List (List Char))) : List Char := records.flatMap writeRecord

/-- Why records are refused: one has another number of fields than the first. -/
structure Uneven where
  expected : Nat
  found : Nat
deriving DecidableEq, Repr

def writeAll (expected : Nat) : List (List (List Char)) → Except Uneven (List Char)
  | [] => .ok []
  | fields :: rest =>
    if fields.length = expected then (writeAll expected rest).map (writeRecord fields ++ ·)
    else .error ⟨expected, fields.length⟩

/-- Records one below the other, if all have as many fields as the first. -/
def writeEven : List (List (List Char)) → Except Uneven (List Char)
  | [] => .ok []
  | first :: rest => writeAll first.length (first :: rest)

inductive Place where
  | recordStart
  | fieldStart
  | unquoted
  | quoted
  | afterQuote
deriving DecidableEq, Repr

def isLineEnd (c : Char) : Bool := c == '\n' || c == '\r'

/-- The records of the remaining text, given the fields read so far of the current one and the
characters of its current field, both in reverse. -/
def readFrom (place : Place) (field : List Char) (fields : List (List Char)) :
    List Char → List (List (List Char))
  | [] => if place = .recordStart then [] else [(field.reverse :: fields).reverse]
  | c :: rest =>
    match place with
    | .quoted =>
      if c = '"' then readFrom .afterQuote field fields rest
      else readFrom .quoted (c :: field) fields rest
    | .afterQuote =>
      if c = '"' then readFrom .quoted (c :: field) fields rest
      else if c = separator then readFrom .fieldStart [] (field.reverse :: fields) rest
      else if isLineEnd c then (field.reverse :: fields).reverse :: readFrom .recordStart [] [] rest
      else readFrom .unquoted (c :: field) fields rest
    | .recordStart =>
      if isLineEnd c then readFrom .recordStart [] [] rest
      else if c = '"' then readFrom .quoted [] [] rest
      else if c = separator then readFrom .fieldStart [] [[]] rest
      else readFrom .unquoted [c] [] rest
    | .fieldStart =>
      if c = '"' then readFrom .quoted [] fields rest
      else if c = separator then readFrom .fieldStart [] ([] :: fields) rest
      else if isLineEnd c then ([] :: fields).reverse :: readFrom .recordStart [] [] rest
      else readFrom .unquoted [c] fields rest
    | .unquoted =>
      if c = separator then readFrom .fieldStart [] (field.reverse :: fields) rest
      else if isLineEnd c then (field.reverse :: fields).reverse :: readFrom .recordStart [] [] rest
      else readFrom .unquoted (c :: field) fields rest

def readRecords (s : List Char) : List (List (List Char)) := readFrom .recordStart [] [] s

end DegreeAudit.Text.Delimited
