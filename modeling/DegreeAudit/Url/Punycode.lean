/-!
# Punycode

A label of a domain name with characters beyond ASCII is written in ASCII: first its ASCII
characters, then, after a hyphen, where and which the other characters are, as numbers in base
thirty-six. The characters are inserted in the order of their code points; each number says how far
to go on from the last insertion, and its digits have thresholds that adapt to the numbers written
so far.
-/

namespace DegreeAudit.Url.Punycode

/-- A digit of base thirty-six: letters before figures. -/
def digit (n : Nat) : Char :=
  if n < 26 then Char.ofNat ('a'.toNat + n) else Char.ofNat ('0'.toNat + (n - 26))

def digitValue? (c : Char) : Option Nat :=
  if c.isLower then some (c.toNat - 'a'.toNat)
  else if c.isUpper then some (c.toNat - 'A'.toNat)
  else if c.isDigit then some (c.toNat - '0'.toNat + 26)
  else none

/-- The threshold of the digit at a place: from one to twenty-six, lower the higher the bias. -/
def threshold (place bias : Nat) : Nat := max 1 (min 26 (36 * place - bias))

theorem one_le_threshold (place bias : Nat) : 1 ≤ threshold place bias := by
  simp only [threshold]
  omega

/-- Divides a number by thirty-five until it is small, counting thirty-six for each time. -/
def shrink (n count : Nat) : Nat × Nat :=
  if 455 < n then shrink (n / 35) (count + 36) else (n, count)
termination_by n
decreasing_by omega

/-- The bias after a number: large numbers raise it. -/
def adapt (n insertions : Nat) (first : Bool) : Nat :=
  let damped := if first then n / 700 else n / 2
  let (small, count) := shrink (damped + damped / insertions) 0
  count + 36 * small / (small + 38)

def writeNumber (bias place n : Nat) : List Char :=
  let t := threshold place bias
  if n < t then [digit n]
  else digit (t + (n - t) % (36 - t)) :: writeNumber bias (place + 1) ((n - t) / (36 - t))
termination_by n
decreasing_by
  have := one_le_threshold place bias
  have := Nat.div_le_self (n - threshold place bias) (36 - threshold place bias)
  omega

/-- What is carried from character to character: the digits so far, how far the next insertion is,
the bias and how many characters are in place. -/
structure Progress where
  digits : List Char
  distance : Nat
  bias : Nat
  placed : Nat

/-- Goes past one character of the label while characters of one code point are inserted. -/
def stepEncode (ascii code : Nat) (p : Progress) (c : Char) : Progress :=
  if c.toNat < code then { p with distance := p.distance + 1 }
  else if c.toNat = code then
    { digits := p.digits ++ writeNumber p.bias 1 p.distance
      distance := 0
      bias := adapt p.distance (p.placed + 1) (p.placed == ascii)
      placed := p.placed + 1 }
  else p

/-- Inserts the characters of each code point in turn; `next` is the least code point still to come.
-/
def encodeFrom (label : List Char) (ascii : Nat) (next : Nat) (p : Progress) : List Nat → Progress
  | [] => p
  | code :: rest =>
    let moved := { p with distance := p.distance + (code - next) * (p.placed + 1) }
    let passed := label.foldl (stepEncode ascii code) moved
    encodeFrom label ascii (code + 1) { passed with distance := passed.distance + 1 } rest

/-- The code points beyond ASCII, each once, in increasing order. -/
def codesBeyond (label : List Char) : List Nat :=
  ((label.map Char.toNat).filter (128 ≤ ·)).mergeSort.eraseReps

def encode (label : List Char) : List Char :=
  let ascii := label.filter (·.toNat < 128)
  let start : Progress := ⟨[], 0, 72, ascii.length⟩
  ascii ++ (if ascii.isEmpty then [] else ['-']) ++
    (encodeFrom label ascii.length 128 start (codesBeyond label)).digits

/-- Reads a number from a place on; answers it and what follows. -/
def readNumber (bias : Nat) (place weight sum : Nat) : List Char → Option (Nat × List Char)
  | [] => none
  | c :: rest =>
    (digitValue? c).bind fun n =>
    let t := threshold place bias
    if n < t then some (sum + n * weight, rest)
    else readNumber bias (place + 1) (weight * (36 - t)) (sum + n * weight) rest

theorem length_lt_of_readNumber {bias place weight sum n : Nat} {s rest : List Char}
    (h : readNumber bias place weight sum s = some (n, rest)) : rest.length < s.length := by
  induction s generalizing place weight sum with
  | nil => simp [readNumber] at h
  | cons c s ih =>
    obtain ⟨value, -, h⟩ := Option.bind_eq_some_iff.1 h
    dsimp only at h
    split at h
    · simp only [Option.some.injEq, Prod.mk.injEq] at h
      simp [← h.2]
    · have := ih h
      simp only [List.length_cons]
      omega

def decodeFrom (label : List Char) (code index bias : Nat) (first : Bool) (s : List Char) :
    Option (List Char) :=
  match s with
  | [] => some label
  | c :: tail =>
    match h : readNumber bias 1 1 index (c :: tail) with
    | none => none
    | some (sum, rest) =>
      have := length_lt_of_readNumber h
      let size := label.length + 1
      let code := code + sum / size
      let place := sum % size
      if 0x10FFFF < code ∨ (0xD800 ≤ code ∧ code ≤ 0xDFFF) then none
      else
        let label := label.take place ++ Char.ofNat code :: label.drop place
        decodeFrom label code (place + 1) (adapt (sum - index) size first) false rest
termination_by s.length
decreasing_by exact this

def decode? (s : List Char) : Option (List Char) :=
  let tail := (s.reverse.takeWhile (· != '-')).reverse
  let head := s.take (s.length - tail.length)
  decodeFrom head.dropLast 128 0 72 true tail

end DegreeAudit.Url.Punycode
