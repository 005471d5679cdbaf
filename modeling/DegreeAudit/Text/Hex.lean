/-!
# Hexadecimal digits

Reading digits of either case, for every place that spells a character or a byte by its number.
-/

namespace DegreeAudit.Text

def hexValue? (c : Char) : Option Nat :=
  if '0' ≤ c ∧ c ≤ '9' then some (c.toNat - '0'.toNat)
  else if 'a' ≤ c ∧ c ≤ 'f' then some (c.toNat - 'a'.toNat + 10)
  else if 'A' ≤ c ∧ c ≤ 'F' then some (c.toNat - 'A'.toNat + 10)
  else none

/-- The number written by hexadecimal digits, if there are no other characters. -/
def hexNumber? (digits : List Char) : Option Nat :=
  digits.foldl (fun sum c => sum.bind fun n => (hexValue? c).map (16 * n + ·)) (some 0)

end DegreeAudit.Text
