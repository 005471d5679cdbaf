import DegreeAudit.Decimal.Shortest
import DegreeAudit.Json.Value

/-!
# Compact JSON text

The text of a value without any blank. Inside strings only the quote, the backslash and the
characters below U+0020 are escaped. Whole numbers are written in decimal, doubles with their
shortest digits: in full when the leading digit stands between ten to the minus five and ten to the
fifteen, with an exponent otherwise, and always so that a reader sees that they are doubles.
-/

namespace DegreeAudit.Json

def decimalDigits (n : Nat) : List Char := Nat.toDigits 10 n

def decimalChars (n : Int) : List Char :=
  if n < 0 then '-' :: decimalDigits n.natAbs else decimalDigits n.natAbs

/-- Which decimal exponents of the leading digit are written without an exponent. -/
structure DoubleLayout where
  least : Int
  greatest : Int

/-- Doubles from 0.00001 up to, but not including, ten to the sixteen are written in full. -/
def doubleLayout : DoubleLayout := ⟨-5, 15⟩

def positionalChars (magnitude : Decimal.Digits) : List Char :=
  let digits := decimalDigits magnitude.digits
  if 0 ≤ magnitude.shift then
    digits ++ List.replicate magnitude.shift.toNat '0' ++ ['.', '0']
  else
    let places := (-magnitude.shift).toNat
    let padded := List.replicate (places + 1 - digits.length) '0' ++ digits
    padded.take (padded.length - places) ++ '.' :: padded.drop (padded.length - places)

/-- A magnitude with its point after the first digit, followed by a signed exponent. -/
def exponentChars (magnitude : Decimal.Digits) (exponent : Int) : List Char :=
  let fraction := match decimalDigits magnitude.digits with
    | [] => []
    | [digit] => [digit]
    | digit :: rest => digit :: '.' :: rest
  fraction ++ 'e' :: (if exponent < 0 then [] else ['+']) ++ decimalChars exponent

def doubleChars (x : Decimal.Binary64) : List Char :=
  let magnitude := Decimal.shortest x
  let exponent : Int := (decimalDigits magnitude.digits).length + magnitude.shift - 1
  let unsigned :=
    if doubleLayout.least ≤ exponent ∧ exponent ≤ doubleLayout.greatest then
      positionalChars magnitude
    else exponentChars magnitude exponent
  if x.negative then '-' :: unsigned else unsigned

def Number.chars : Number → List Char
  | integer n _ => decimalChars n
  | double x => doubleChars x

/-- The hexadecimal digit of a number below sixteen, in lower case. -/
def lowerHexDigit (n : Nat) : Char := Nat.digitChar n

/-- The escape of a character inside a string, or the character itself. -/
def escapeChar (c : Char) : List Char :=
  match c with
  | '"' => ['\\', '"']
  | '\\' => ['\\', '\\']
  | '\x08' => ['\\', 'b']
  | '\x0c' => ['\\', 'f']
  | '\n' => ['\\', 'n']
  | '\r' => ['\\', 'r']
  | '\t' => ['\\', 't']
  | c =>
    if c.toNat < 0x20 then
      ['\\', 'u', '0', '0', lowerHexDigit (c.toNat / 16), lowerHexDigit (c.toNat % 16)]
    else [c]

def textChars (s : String) : List Char := '"' :: s.toList.flatMap escapeChar ++ ['"']

namespace Value

mutual

def chars : Value → List Char
  | null => ['n', 'u', 'l', 'l']
  | bool true => ['t', 'r', 'u', 'e']
  | bool false => ['f', 'a', 'l', 's', 'e']
  | number n => n.chars
  | text s => textChars s
  | array items => '[' :: itemsChars items
  | object members => '\x7b' :: membersChars members

def itemsChars : List Value → List Char
  | [] => [']']
  | item :: rest => item.chars ++ nextItemsChars rest

/-- The items after the first, each with its comma, and the closing bracket. -/
def nextItemsChars : List Value → List Char
  | [] => [']']
  | item :: rest => ',' :: (item.chars ++ nextItemsChars rest)

def membersChars : List (String × Value) → List Char
  | [] => ['\x7d']
  | (key, value) :: rest => textChars key ++ ':' :: (value.chars ++ nextMembersChars rest)

/-- The members after the first, each with its comma, and the closing brace. -/
def nextMembersChars : List (String × Value) → List Char
  | [] => ['\x7d']
  | (key, value) :: rest => ',' :: (textChars key ++ ':' :: (value.chars ++ nextMembersChars rest))

end

def compact (v : Value) : String := String.ofList v.chars

end Value

end DegreeAudit.Json
