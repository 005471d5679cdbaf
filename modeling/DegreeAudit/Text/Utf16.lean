import DegreeAudit.Text.Utf8

/-!
# UTF-16

Characters from code units of two bytes each, in either order of the bytes. Reading never fails: a
unit that belongs to a pair and has no partner gives one replacement character, and so does a text
that breaks off.
-/

namespace DegreeAudit.Text.Utf16

inductive ByteOrder where
  | highFirst
  | lowFirst
deriving DecidableEq, Repr

def ByteOrder.unit (order : ByteOrder) (first second : UInt8) : Nat :=
  match order with
  | highFirst => first.toNat * 0x100 + second.toNat
  | lowFirst => second.toNat * 0x100 + first.toNat

def opensPair (unit : Nat) : Bool := 0xD800 ≤ unit && unit ≤ 0xDBFF

def closesPair (unit : Nat) : Bool := 0xDC00 ≤ unit && unit ≤ 0xDFFF

def ofPair (opening closing : Nat) : Char :=
  Char.ofNat (0x10000 + (opening - 0xD800) * 0x400 + (closing - 0xDC00))

/-- A unit without its partner is passed over alone: what comes after it is read for itself. -/
def decode (order : ByteOrder) : List UInt8 → List Char
  | [] => []
  | [_] => [Utf8.replacement]
  | first :: second :: rest =>
    let unit := order.unit first second
    if opensPair unit then
      match rest with
      | third :: fourth :: more =>
        let next := order.unit third fourth
        if closesPair next then ofPair unit next :: decode order more
        else Utf8.replacement :: decode order (third :: fourth :: more)
      | [] | [_] => [Utf8.replacement]
    else
      (if closesPair unit then Utf8.replacement else Char.ofNat unit) :: decode order rest

end DegreeAudit.Text.Utf16
