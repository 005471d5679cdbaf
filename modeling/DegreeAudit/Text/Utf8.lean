/-!
# UTF-8

Characters as bytes and bytes as characters. Reading never fails: bytes that are no beginning of a
character, and beginnings that break off, each give one replacement character, and the reading goes
on with the first byte that did not fit. What was written from characters is read back as those
characters.
-/

namespace DegreeAudit.Text.Utf8

def encodeChar (c : Char) : List UInt8 := String.utf8EncodeChar c

def encode (s : List Char) : List UInt8 := s.flatMap encodeChar

/-- The character for bytes that are none. -/
def replacement : Char := '\uFFFD'

def continues (b : UInt8) : Bool := 0x80 ≤ b && b ≤ 0xBF

def bits (b : UInt8) : Nat := b.toNat % 0x40

/-- The bytes that can come second after a given first byte of three or four. -/
def secondRange (first : UInt8) : UInt8 × UInt8 :=
  if first = 0xE0 then (0xA0, 0xBF)
  else if first = 0xED then (0x80, 0x9F)
  else if first = 0xF0 then (0x90, 0xBF)
  else if first = 0xF4 then (0x80, 0x8F)
  else (0x80, 0xBF)

def fitsSecond (first second : UInt8) : Bool :=
  (secondRange first).1 ≤ second && second ≤ (secondRange first).2

/-- The character that a first byte begins, and how many of the bytes after it belong to it. -/
def charAt (first : UInt8) (rest : List UInt8) : Char × Nat :=
  if first < 0x80 then (Char.ofNat first.toNat, 0)
  else if 0xC2 ≤ first ∧ first ≤ 0xDF then
    match rest with
    | second :: _ =>
      if continues second then (Char.ofNat (first.toNat % 0x20 * 0x40 + bits second), 1)
      else (replacement, 0)
    | [] => (replacement, 0)
  else if 0xE0 ≤ first ∧ first ≤ 0xEF then
    match rest with
    | second :: third :: _ =>
      if !fitsSecond first second then (replacement, 0)
      else if !continues third then (replacement, 1)
      else
        (Char.ofNat ((first.toNat % 0x10 * 0x40 + bits second) * 0x40 + bits third), 2)
    | [second] => (replacement, if fitsSecond first second then 1 else 0)
    | [] => (replacement, 0)
  else if 0xF0 ≤ first ∧ first ≤ 0xF4 then
    match rest with
    | second :: third :: fourth :: _ =>
      if !fitsSecond first second then (replacement, 0)
      else if !continues third then (replacement, 1)
      else if !continues fourth then (replacement, 2)
      else
        (Char.ofNat
          (((first.toNat % 0x8 * 0x40 + bits second) * 0x40 + bits third) * 0x40 + bits fourth), 3)
    | [second, third] =>
      (replacement, if !fitsSecond first second then 0 else if !continues third then 1 else 2)
    | [second] => (replacement, if fitsSecond first second then 1 else 0)
    | [] => (replacement, 0)
  else (replacement, 0)

def decode (bytes : List UInt8) : List Char :=
  match bytes with
  | [] => []
  | first :: rest => (charAt first rest).1 :: decode (rest.drop (charAt first rest).2)
termination_by bytes.length
decreasing_by
  simp only [List.length_cons, List.length_drop]
  omega

end DegreeAudit.Text.Utf8
