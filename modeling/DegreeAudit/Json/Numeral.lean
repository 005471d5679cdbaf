import DegreeAudit.Except
import DegreeAudit.Json.Failure

/-!
# JSON numerals

A numeral is scanned before it is weighed: `scanNumeral` splits off its digits and refuses what the
grammar refuses, `Number.ofNumeral?` then finds the number. Digits are collected while they fit into
sixty-four bits; the first that does not and all after it only move the decimal point. A numeral
whose magnitude is beyond the doubles has no number.
-/

namespace DegreeAudit.Json

open Except (bind_eq_ok_iff map_eq_ok_iff)

structure Numeral where
  negative : Bool
  whole : List Char
  fraction : Option (List Char)
  power : Option (Bool × List Char)
deriving Repr

def digitValue (c : Char) : Nat := c.toNat - '0'.toNat

/-- The digits a text begins with, of which there must be one, and what follows them. -/
def scanDigits (s : List Char) : Except Failure (List Char × List Char) :=
  match s.takeWhile Char.isDigit, s.dropWhile Char.isDigit with
  | [], [] => .error .ended
  | [], _ => .error .malformed
  | digits, rest => .ok (digits, rest)

/-- The digits before the point: a zero stands alone. -/
def scanWhole (s : List Char) : Except Failure (List Char × List Char) :=
  (scanDigits s).bind fun
    | ('0' :: _ :: _, _) => .error .malformed
    | scanned => .ok scanned

/-- The digits after a point, if there is one. -/
def scanFraction : List Char → Except Failure (Option (List Char) × List Char)
  | '.' :: rest => (scanDigits rest).map fun scanned => (some scanned.1, scanned.2)
  | s => .ok (none, s)

def scanSign : List Char → Bool × List Char
  | '+' :: rest => (false, rest)
  | '-' :: rest => (true, rest)
  | s => (false, s)

/-- The sign and digits after an exponent mark, if there is one. -/
def scanPower (s : List Char) : Except Failure (Option (Bool × List Char) × List Char) :=
  match s with
  | c :: rest =>
    if c = 'e' ∨ c = 'E' then
      (scanDigits (scanSign rest).2).map fun scanned =>
        (some ((scanSign rest).1, scanned.1), scanned.2)
    else .ok (none, s)
  | [] => .ok (none, [])

/-- A minus sign, if there is one, and what follows it. -/
def scanMinus : List Char → Bool × List Char
  | '-' :: rest => (true, rest)
  | s => (false, s)

def scanNumeral (s : List Char) : Except Failure (Numeral × List Char) :=
  (scanWhole (scanMinus s).2).bind fun (whole, rest) =>
  (scanFraction rest).bind fun (fraction, rest) =>
  (scanPower rest).bind fun (power, rest) =>
  .ok (⟨(scanMinus s).1, whole, fraction, power⟩, rest)

/-- Appends digits to a number while it stays below two to the sixty-four; answers the number and
how many digits were left over. -/
def appendDigits (n : Nat) : List Char → Nat × Nat
  | [] => (n, 0)
  | c :: rest =>
    let next := 10 * n + digitValue c
    if next < 0x10000000000000000 then appendDigits next rest else (n, rest.length + 1)

def digitsValue (digits : List Char) : Nat :=
  digits.foldl (fun n c => 10 * n + digitValue c) 0

/-- The exponent that a numeral states. -/
def Numeral.statedPower (numeral : Numeral) : Int :=
  match numeral.power with
  | none => 0
  | some (negative, digits) => if negative then -digitsValue digits else digitsValue digits

def Numeral.double? (numeral : Numeral) : Option Decimal.Binary64 :=
  let (whole, extra) := appendDigits 0 numeral.whole
  let fraction := numeral.fraction.getD []
  let (significand, unread) := appendDigits whole fraction
  let places : Int := fraction.length - unread
  Decimal.Binary64.ofDecimal? numeral.negative significand (extra - places + numeral.statedPower)

/-- The whole number of a numeral without a point and an exponent, if its sign and size allow one; a
negative zero is none. -/
def Numeral.integer? (numeral : Numeral) : Option Number :=
  let n := digitsValue numeral.whole
  match numeral.fraction, numeral.power with
  | none, none =>
    if numeral.negative then
      if h : 0 < n ∧ n ≤ 0x8000000000000000 then some (.integer (-n) (by omega)) else none
    else if h : n < 0x10000000000000000 then some (.integer n (by omega)) else none
  | _, _ => none

/-- The number of a numeral, unless its magnitude is out of range. -/
def Number.ofNumeral? (numeral : Numeral) : Option Number :=
  match numeral.integer? with
  | some n => some n
  | none => numeral.double?.map .double

theorem scanDigits_append {s digits rest : List Char} (h : scanDigits s = .ok (digits, rest)) :
    digits ≠ [] ∧ s = digits ++ rest := by
  have hs := List.takeWhile_append_dropWhile (p := Char.isDigit) (l := s)
  unfold scanDigits at h
  split at h
  · cases h
  · cases h
  · next hne _ =>
    simp only [Except.ok.injEq, Prod.mk.injEq] at h
    grind

theorem length_lt_of_scanDigits {s digits rest : List Char}
    (h : scanDigits s = .ok (digits, rest)) : rest.length < s.length := by
  obtain ⟨hne, rfl⟩ := scanDigits_append h
  have := List.length_pos_iff.2 hne
  simp only [List.length_append]
  omega

theorem length_lt_of_scanWhole {s digits rest : List Char}
    (h : scanWhole s = .ok (digits, rest)) : rest.length < s.length := by
  obtain ⟨scanned, hscan, hok⟩ := bind_eq_ok_iff.1 h
  split at hok
  · cases hok
  · cases hok
    exact length_lt_of_scanDigits hscan

theorem length_le_of_scanFraction {s rest : List Char} {digits : Option (List Char)}
    (h : scanFraction s = .ok (digits, rest)) : rest.length ≤ s.length := by
  unfold scanFraction at h
  split at h
  · obtain ⟨scanned, hscan, heq⟩ := map_eq_ok_iff.1 h
    cases heq
    have := length_lt_of_scanDigits hscan
    simp only [List.length_cons]
    omega
  · cases h
    exact Nat.le_refl _

theorem length_scanSign_le (s : List Char) : (scanSign s).2.length ≤ s.length := by
  unfold scanSign
  split <;> simp

theorem length_le_of_scanPower {s rest : List Char} {power : Option (Bool × List Char)}
    (h : scanPower s = .ok (power, rest)) : rest.length ≤ s.length := by
  unfold scanPower at h
  split at h
  · next c after =>
    split at h
    · obtain ⟨scanned, hscan, heq⟩ := map_eq_ok_iff.1 h
      cases heq
      have := length_lt_of_scanDigits hscan
      have := length_scanSign_le after
      simp only [List.length_cons]
      omega
    · cases h
      exact Nat.le_refl _
  · cases h
    exact Nat.le_refl _

theorem length_scanMinus_le (s : List Char) : (scanMinus s).2.length ≤ s.length := by
  unfold scanMinus
  split <;> simp

/-- A numeral has at least one character. -/
theorem length_lt_of_scanNumeral {s rest : List Char} {numeral : Numeral}
    (h : scanNumeral s = .ok (numeral, rest)) : rest.length < s.length := by
  unfold scanNumeral at h
  obtain ⟨⟨whole, s₁⟩, hwhole, h⟩ := bind_eq_ok_iff.1 h
  obtain ⟨⟨fraction, s₂⟩, hfraction, h⟩ := bind_eq_ok_iff.1 h
  obtain ⟨⟨power, s₃⟩, hpower, h⟩ := bind_eq_ok_iff.1 h
  cases h
  have := length_scanMinus_le s
  have := length_lt_of_scanWhole hwhole
  have := length_le_of_scanFraction hfraction
  have := length_le_of_scanPower hpower
  omega

end DegreeAudit.Json
