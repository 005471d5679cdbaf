import DegreeAudit.Text.Utf8
import Mathlib.Tactic.SplitIfs

/-!
# Reading back what was written as UTF-8

`decode_encode`: the bytes of a text are read as that text. The facts about single bytes are stated
on their numbers, so that what a character's bytes spell is arithmetic modulo 64.
-/

namespace DegreeAudit.Text.Utf8

private theorem toNat_byte {n : Nat} (h : n < 0x100) : (UInt8.ofNat n).toNat = n := by
  rw [UInt8.toNat_ofNat', Nat.mod_eq_of_lt h]

/-- The bounds of a second byte, apart for the two ends of its range. -/
private theorem fitsSecond_iff {first second : UInt8} :
    fitsSecond first second = true ↔
      (if first.toNat = 0xE0 then 0xA0 else if first.toNat = 0xF0 then 0x90 else 0x80)
        ≤ second.toNat ∧
      second.toNat ≤
        (if first.toNat = 0xED then 0x9F else if first.toNat = 0xF4 then 0x8F else 0xBF) := by
  simp only [fitsSecond, secondRange, ← UInt8.toNat_inj, UInt8.reduceToNat, Bool.and_eq_true,
    decide_eq_true_eq, UInt8.le_iff_toNat_le]
  by_cases h₁ : first.toNat = 0xE0
  · simp [h₁]
  · by_cases h₂ : first.toNat = 0xED
    · simp [h₂]
    · by_cases h₃ : first.toNat = 0xF0
      · simp [h₃]
      · by_cases h₄ : first.toNat = 0xF4
        · simp [h₄]
        · simp [h₁, h₂, h₃, h₄]

private theorem charAt_one {first : UInt8} (h : first.toNat < 0x80) (rest : List UInt8) :
    charAt first rest = (Char.ofNat first.toNat, 0) := by
  have hlt : first < 0x80 := UInt8.lt_iff_toNat_lt.2 h
  rw [charAt.eq_def, if_pos hlt]

private theorem charAt_two {first second : UInt8} (hlow : 0xC2 ≤ first.toNat)
    (hhigh : first.toNat ≤ 0xDF) (hsecond : continues second = true) (rest : List UInt8) :
    charAt first (second :: rest)
      = (Char.ofNat (first.toNat % 0x20 * 0x40 + bits second), 1) := by
  simp only [charAt, UInt8.lt_iff_toNat_lt, UInt8.le_iff_toNat_le, UInt8.reduceToNat]
  rw [if_neg (by omega), if_pos ⟨hlow, hhigh⟩, if_pos hsecond]

private theorem charAt_three {first second third : UInt8} (hlow : 0xE0 ≤ first.toNat)
    (hhigh : first.toNat ≤ 0xEF) (hsecond : fitsSecond first second = true)
    (hthird : continues third = true) (rest : List UInt8) :
    charAt first (second :: third :: rest)
      = (Char.ofNat ((first.toNat % 0x10 * 0x40 + bits second) * 0x40 + bits third), 2) := by
  simp only [charAt, UInt8.lt_iff_toNat_lt, UInt8.le_iff_toNat_le, UInt8.reduceToNat]
  rw [if_neg (by omega), if_neg (by omega), if_pos ⟨hlow, hhigh⟩]
  simp only [hsecond, hthird, Bool.not_true, Bool.false_eq_true, if_false]

private theorem charAt_four {first second third fourth : UInt8} (hlow : 0xF0 ≤ first.toNat)
    (hhigh : first.toNat ≤ 0xF4) (hsecond : fitsSecond first second = true)
    (hthird : continues third = true) (hfourth : continues fourth = true) (rest : List UInt8) :
    charAt first (second :: third :: fourth :: rest)
      = (Char.ofNat (((first.toNat % 0x8 * 0x40 + bits second) * 0x40 + bits third) * 0x40
          + bits fourth), 3) := by
  simp only [charAt, UInt8.lt_iff_toNat_lt, UInt8.le_iff_toNat_le, UInt8.reduceToNat]
  rw [if_neg (by omega), if_neg (by omega), if_neg (by omega), if_pos ⟨hlow, hhigh⟩]
  simp only [hsecond, hthird, hfourth, Bool.not_true, Bool.false_eq_true, if_false]

/-! ### The bytes that are written -/

private def lastSix (n : Nat) : UInt8 := UInt8.ofNat (n % 0x40 + 0x80)

private theorem toNat_lastSix (n : Nat) : (lastSix n).toNat = n % 0x40 + 0x80 :=
  toNat_byte (by omega)

private theorem continues_lastSix (n : Nat) : continues (lastSix n) = true := by
  simp only [continues, Bool.and_eq_true, decide_eq_true_eq, UInt8.le_iff_toNat_le,
    UInt8.reduceToNat, toNat_lastSix]
  omega

private theorem bits_lastSix (n : Nat) : bits (lastSix n) = n % 0x40 := by
  rw [bits, toNat_lastSix]
  omega

/-- How long the bytes of a character are, and what each carries. -/
private theorem encodeChar_eq (c : Char) :
    encodeChar c =
      if c.toNat ≤ 0x7F then [UInt8.ofNat c.toNat]
      else if c.toNat ≤ 0x7FF then [UInt8.ofNat (c.toNat / 64 % 0x20 + 0xC0), lastSix c.toNat]
      else if c.toNat ≤ 0xFFFF then
        [UInt8.ofNat (c.toNat / 4096 % 0x10 + 0xE0), lastSix (c.toNat / 64), lastSix c.toNat]
      else
        [UInt8.ofNat (c.toNat / 262144 % 0x08 + 0xF0), lastSix (c.toNat / 4096),
          lastSix (c.toNat / 64), lastSix c.toNat] :=
  rfl

private theorem charAt_encode_three {c : Char} (hlow : 0x7FF < c.toNat) (hhigh : c.toNat ≤ 0xFFFF)
    (rest : List UInt8) :
    charAt (UInt8.ofNat (c.toNat / 4096 % 0x10 + 0xE0))
      (lastSix (c.toNat / 64) :: lastSix c.toNat :: rest) = (c, 2) := by
  have hvalid : c.toNat < 0xD800 ∨ 0xDFFF < c.toNat ∧ c.toNat < 0x110000 := c.valid
  have hfirst := toNat_byte (n := c.toNat / 4096 % 0x10 + 0xE0) (by omega)
  have hsecond : fitsSecond (UInt8.ofNat (c.toNat / 4096 % 0x10 + 0xE0))
      (lastSix (c.toNat / 64)) = true := by
    rw [fitsSecond_iff, hfirst, toNat_lastSix]
    -- The surrogates are what the narrower range after ED leaves out.
    constructor
    · split_ifs <;> omega
    · split_ifs <;> omega
  have hvalue : ((c.toNat / 4096 % 0x10 + 0xE0) % 0x10 * 0x40 + c.toNat / 64 % 0x40) * 0x40
      + c.toNat % 0x40 = c.toNat := by omega
  rw [charAt_three (by omega) (by omega) hsecond (continues_lastSix _), hfirst, bits_lastSix,
    bits_lastSix, hvalue, Char.ofNat_toNat]

private theorem charAt_encode_four {c : Char} (hlow : 0xFFFF < c.toNat) (rest : List UInt8) :
    charAt (UInt8.ofNat (c.toNat / 262144 % 0x08 + 0xF0))
      (lastSix (c.toNat / 4096) :: lastSix (c.toNat / 64) :: lastSix c.toNat :: rest)
      = (c, 3) := by
  have hvalid : c.toNat < 0xD800 ∨ 0xDFFF < c.toNat ∧ c.toNat < 0x110000 := c.valid
  have hfirst := toNat_byte (n := c.toNat / 262144 % 0x08 + 0xF0) (by omega)
  have hsecond : fitsSecond (UInt8.ofNat (c.toNat / 262144 % 0x08 + 0xF0))
      (lastSix (c.toNat / 4096)) = true := by
    rw [fitsSecond_iff, hfirst, toNat_lastSix]
    constructor
    · split_ifs <;> omega
    · split_ifs <;> omega
  have hvalue : (((c.toNat / 262144 % 0x08 + 0xF0) % 0x08 * 0x40 + c.toNat / 4096 % 0x40) * 0x40
      + c.toNat / 64 % 0x40) * 0x40 + c.toNat % 0x40 = c.toNat := by omega
  rw [charAt_four (by omega) (by omega) hsecond (continues_lastSix _) (continues_lastSix _), hfirst,
    bits_lastSix, bits_lastSix, bits_lastSix, hvalue, Char.ofNat_toNat]

/-- A character's bytes are read as that character, whatever follows them. -/
theorem charAt_encodeChar (c : Char) (rest : List UInt8) :
    ∃ first more, encodeChar c = first :: more ∧
      charAt first (more ++ rest) = (c, more.length) := by
  rw [encodeChar_eq]
  split
  · next h =>
    have hfirst := toNat_byte (n := c.toNat) (by omega)
    refine ⟨_, _, rfl, ?_⟩
    rw [charAt_one (by omega), hfirst, Char.ofNat_toNat, List.length_nil]
  · split
    · next h =>
      have hfirst := toNat_byte (n := c.toNat / 64 % 0x20 + 0xC0) (by omega)
      have hvalue : (c.toNat / 64 % 0x20 + 0xC0) % 0x20 * 0x40 + c.toNat % 0x40 = c.toNat := by
        omega
      refine ⟨_, _, rfl, ?_⟩
      rw [List.singleton_append, charAt_two (by omega) (by omega) (continues_lastSix _), hfirst,
        bits_lastSix, hvalue, Char.ofNat_toNat, List.length_singleton]
    · split
      · exact ⟨_, _, rfl, charAt_encode_three (by omega) (by omega) rest⟩
      · exact ⟨_, _, rfl, charAt_encode_four (by omega) rest⟩

theorem decode_encodeChar (c : Char) (rest : List UInt8) :
    decode (encodeChar c ++ rest) = c :: decode rest := by
  obtain ⟨first, more, hencode, hread⟩ := charAt_encodeChar c rest
  rw [hencode, List.cons_append, decode, hread]
  dsimp only
  rw [List.drop_left]

/-- The bytes of a text are read as that text. -/
theorem decode_encode (s : List Char) : decode (encode s) = s := by
  induction s with
  | nil => rw [encode, List.flatMap_nil, decode]
  | cons c s ih =>
      rw [encode, List.flatMap_cons, decode_encodeChar]
      exact congrArg (c :: ·) ih

end DegreeAudit.Text.Utf8
