import DegreeAudit.Json.Printer
import DegreeAudit.Text.Quoted

/-!
# Why a JSON text is refused

A text is read from the front and the first problem met decides. Either the text ends where more was
needed, or it is no JSON at all, or it is JSON of a shape that the reader did not want. Only the
last kind carries an explanation, since the first two are about the text and not about what it says.
-/

namespace DegreeAudit.Json

/-- What stood where something else was wanted; arrays and objects are not looked into. -/
inductive Found where
  | null
  | boolean (b : Bool)
  | number (n : Number)
  | text (s : String)
  | sequence
  | map
deriving Repr

def Found.describe : Found → String
  | null => "null"
  | boolean b => "boolean `" ++ (if b then "true" else "false") ++ "`"
  | number (.integer n _) => "integer `" ++ String.ofList (decimalChars n) ++ "`"
  | number (.double x) => "floating point `" ++ String.ofList (doubleChars x) ++ "`"
  | text s => "string " ++ Text.quote s
  | sequence => "sequence"
  | map => "map"

/-- How a JSON value differs from the wanted shape. -/
inductive Mismatch where
  | found (what : Found) (wanted : String)
  | missing (key : String)
  | repeated (key : String)
  | tooShort (length : Nat) (wanted : String)
deriving Repr

def Mismatch.message : Mismatch → String
  | found what wanted => "invalid type: " ++ what.describe ++ ", expected " ++ wanted
  | missing key => "missing field `" ++ key ++ "`"
  | repeated key => "duplicate field `" ++ key ++ "`"
  | tooShort length wanted =>
    "invalid length " ++ toString length ++ ", expected " ++ wanted

inductive Failure where
  | ended
  | malformed
  | mismatch (cause : Mismatch)
deriving Repr

end DegreeAudit.Json
