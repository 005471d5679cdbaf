import DegreeAudit.Text.Hex

/-!
# Hosts

The host of an address is a name or a number. A name whose last part looks like a number must be an
address of four bytes, which may be written with fewer parts, in octal or in hexadecimal; an address
of sixteen bytes stands in brackets. Both are shown in one way only.
-/

namespace DegreeAudit.Url

/-- A host; the empty name is the host of addresses that have none. -/
inductive Host where
  | name (s : String)
  | four (n : Nat)
  | six (pieces : List Nat)
deriving DecidableEq, Repr

namespace Host

/-- A part of an address of four bytes: decimal, octal after a zero, hexadecimal after `0x`; nothing
after a mark is zero. -/
def part? (s : List Char) : Option Nat :=
  let digits (base : Nat) (ok : Char → Bool) (s : List Char) : Option Nat :=
    if s.all ok then some (s.foldl (fun n c => base * n + (Text.hexValue? c).getD 0) 0) else none
  match s with
  | [] => none
  | '0' :: 'x' :: rest | '0' :: 'X' :: rest =>
    digits 16 (fun c => (Text.hexValue? c).isSome) rest
  | '0' :: c :: rest => digits 8 (fun c => '0' ≤ c ∧ c ≤ '7') (c :: rest)
  | s => digits 10 Char.isDigit s

def dotted (s : List Char) : List (List Char) := s.splitOn '.'

def significantParts (s : List Char) : List (List Char) :=
  let parts := dotted s
  if parts.getLast? = some [] then parts.dropLast else parts

def endsInNumber (s : List Char) : Bool :=
  match (significantParts s).getLast? with
  | none | some [] => false
  | some part => part.all Char.isDigit || (part? part).isSome

/-- The address of four bytes that parts write: all but the last fill one byte each. -/
def four? (s : List Char) : Option Nat :=
  let parts := significantParts s
  if 4 < parts.length then none
  else
    (parts.mapM part?).bind fun numbers =>
    match numbers.reverse with
    | [] => none
    | last :: front =>
      if Nat.pow 256 (4 - front.length) ≤ last ∨ front.any (255 < ·) then none
      else
        let high := front.reverse.foldl (fun n byte => 256 * n + byte) 0
        some (high * Nat.pow 256 (4 - front.length) + last)

def piece (s : List Char) : Nat × List Char :=
  let digits := (s.take 4).takeWhile fun c => (Text.hexValue? c).isSome
  ((Text.hexNumber? digits).getD 0, s.drop digits.length)

/-- A byte in decimal, without a leading zero, and what follows it. -/
def byte? (s : List Char) : Option (Nat × List Char) :=
  match s.takeWhile Char.isDigit with
  | [] => none
  | digits =>
    let n := digits.foldl (fun n c => 10 * n + (c.toNat - '0'.toNat)) 0
    if (digits.head? = some '0' ∧ 1 < digits.length) ∨ 255 < n then none
    else some (n, s.drop digits.length)

/-- Four bytes in decimal at the end of an address of sixteen, as two pieces. -/
def tail? (s : List Char) : Option (List Nat) :=
  (byte? s).bind fun (a, s) =>
  (if s.head? = some '.' then byte? s.tail else none).bind fun (b, s) =>
  (if s.head? = some '.' then byte? s.tail else none).bind fun (c, s) =>
  (if s.head? = some '.' then byte? s.tail else none).bind fun (d, s) =>
  if s.isEmpty then some [256 * a + b, 256 * c + d] else none

/-- The pieces of an address of sixteen bytes: those before the gap in reverse, and, once a gap has
been met, those after it in reverse. -/
structure Pieces where
  before : List Nat
  after : Option (List Nat)

/-- How many pieces there are, a gap counted as one. -/
def Pieces.count (p : Pieces) : Nat := p.before.length + p.after.elim 0 (·.length + 1)

def Pieces.add (p : Pieces) (n : Nat) : Pieces :=
  match p.after with
  | none => { p with before := n :: p.before }
  | some after => { p with after := some (n :: after) }

/-- All eight pieces, the gap filled with zeros. -/
def Pieces.fill? (p : Pieces) : Option (List Nat) :=
  match p.after with
  | none => if p.before.length = 8 then some p.before.reverse else none
  | some after =>
    let zeros := List.replicate (8 - p.before.length - after.length) 0
    some (p.before.reverse ++ zeros ++ after.reverse)

/-- Reads pieces up to the end of the address; at most as many steps as there can be pieces and a
gap. -/
def readPieces (p : Pieces) (s : List Char) : (steps : Nat) → Option Pieces
  | 0 => none
  | steps + 1 =>
    match s with
    | [] => some p
    | ':' :: rest =>
      if p.count = 8 ∨ p.after.isSome then none
      else readPieces { p with after := some [] } rest steps
    | s =>
      if p.count = 8 then none
      else
        match piece s with
        | (_, '.' :: _) =>
          if 6 < p.count then none else (tail? s).map fun pieces => pieces.foldl Pieces.add p
        | (n, []) => some (p.add n)
        | (n, ':' :: rest) => if rest.isEmpty then none else readPieces (p.add n) rest steps
        | _ => none

/-- The address of sixteen bytes that a text between brackets writes. -/
def six? (s : List Char) : Option (List Nat) :=
  match s with
  | ':' :: ':' :: rest => (readPieces ⟨[], some []⟩ rest 11).bind Pieces.fill?
  | ':' :: _ => none
  | s => (readPieces ⟨[], none⟩ s 11).bind Pieces.fill?

/-- The place and length of the longest run of zeros, the first of several; a single zero is no run.
-/
def longestGap (pieces : List Nat) : Option (Nat × Nat) :=
  let runs := (List.range 8).map fun i => (i, ((pieces.drop i).takeWhile (· == 0)).length)
  let best := runs.foldl (fun best run => if best.2 < run.2 then run else best) (0, 1)
  if 1 < best.2 then some best else none

def showPieces (pieces : List Nat) : String :=
  ":".intercalate (pieces.map fun n => String.ofList (Nat.toDigits 16 n))

def toText : Host → String
  | name s => s
  | four n =>
    ".".intercalate ([n / 0x1000000, n / 0x10000 % 256, n / 256 % 256, n % 256].map toString)
  | six pieces =>
    match longestGap pieces with
    | none => "[" ++ showPieces pieces ++ "]"
    | some (start, length) =>
      "[" ++ showPieces (pieces.take start) ++ "::" ++
        showPieces (pieces.drop (start + length)) ++ "]"

end Host

end DegreeAudit.Url
