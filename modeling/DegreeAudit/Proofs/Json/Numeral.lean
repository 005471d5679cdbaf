import DegreeAudit.Json.Reader
import Mathlib.Data.List.TakeWhile

/-!
# Numerals inside a text

A numeral is as long as it can be, so what is read of one that stands alone is read of it in front
of any text that does not go on with it: `readNumber_append`. Whole numbers are read back from their
decimal digits; `readNumber_decimalChars` needs no more than that these begin with a zero only when
there is no other digit.
-/

namespace DegreeAudit.Json

open Except (bind_eq_ok_iff map_eq_ok_iff)

/-- A text that does not go on with a numeral in front of it. -/
def EndsNumeral (s : List Char) : Prop :=
  ∀ c ∈ s.head?, c.isDigit = false ∧ c ≠ '.' ∧ c ≠ 'e' ∧ c ≠ 'E'

theorem endsNumeral_cons {c : Char} {s : List Char}
    (h : c.isDigit = false ∧ c ≠ '.' ∧ c ≠ 'e' ∧ c ≠ 'E') : EndsNumeral (c :: s) := by
  intro d hd
  cases hd
  exact h

variable {s rest after : List Char}

/-! ### Numerals are as long as they can be -/

private theorem takeWhile_append_of_head {p : Char → Bool} (s : List Char)
    (h : ∀ c ∈ rest.head?, p c = false) :
    (s ++ rest).takeWhile p = s.takeWhile p ∧ (s ++ rest).dropWhile p = s.dropWhile p ++ rest := by
  induction s with
  | nil =>
      cases rest with
      | nil => exact ⟨rfl, rfl⟩
      | cons c rest =>
          have hc : ¬p c = true := by simp [h c rfl]
          exact ⟨List.takeWhile_cons_of_neg hc, List.dropWhile_cons_of_neg hc⟩
  | cons c s ih =>
      rw [List.cons_append]
      by_cases hc : p c = true
      · rw [List.takeWhile_cons_of_pos hc, List.takeWhile_cons_of_pos hc,
          List.dropWhile_cons_of_pos hc, List.dropWhile_cons_of_pos hc, ih.1]
        exact ⟨rfl, ih.2⟩
      · rw [List.takeWhile_cons_of_neg hc, List.takeWhile_cons_of_neg hc,
          List.dropWhile_cons_of_neg hc, List.dropWhile_cons_of_neg hc]
        exact ⟨rfl, rfl⟩

theorem scanDigits_of_takeWhile (h : s.takeWhile Char.isDigit ≠ []) :
    scanDigits s = .ok (s.takeWhile Char.isDigit, s.dropWhile Char.isDigit) := by
  unfold scanDigits
  split
  · next hnone _ => exact absurd hnone h
  · next hnone _ => exact absurd hnone h
  · rfl

theorem takeWhile_of_scanDigits {digits : List Char} (h : scanDigits s = .ok (digits, after)) :
    digits ≠ [] ∧ digits = s.takeWhile Char.isDigit ∧ after = s.dropWhile Char.isDigit := by
  have hne : s.takeWhile Char.isDigit ≠ [] := by
    intro hnone
    unfold scanDigits at h
    rw [hnone] at h
    split at h
    · cases h
    · cases h
    · next hdigits _ => exact absurd rfl hdigits
  rw [scanDigits_of_takeWhile hne] at h
  cases h
  exact ⟨hne, rfl, rfl⟩

theorem scanDigits_append_rest {digits : List Char} (h : scanDigits s = .ok (digits, after))
    (hrest : EndsNumeral rest) : scanDigits (s ++ rest) = .ok (digits, after ++ rest) := by
  obtain ⟨hne, rfl, rfl⟩ := takeWhile_of_scanDigits h
  obtain ⟨htake, hdrop⟩ := takeWhile_append_of_head s fun c hc => (hrest c hc).1
  rw [scanDigits_of_takeWhile (by rwa [htake]), htake, hdrop]

theorem scanWhole_append_rest {digits : List Char} (h : scanWhole s = .ok (digits, after))
    (hrest : EndsNumeral rest) : scanWhole (s ++ rest) = .ok (digits, after ++ rest) := by
  obtain ⟨⟨found, left⟩, hscan, h⟩ := bind_eq_ok_iff.1 h
  unfold scanWhole
  rw [scanDigits_append_rest hscan hrest]
  dsimp only [Except.bind] at h ⊢
  split at h
  · cases h
  · next hzero =>
      cases h
      split
      · next heq =>
          cases heq
          exact absurd rfl (hzero _ _ _)
      · rfl

theorem scanFraction_append_rest {digits : Option (List Char)}
    (h : scanFraction s = .ok (digits, after)) (hrest : EndsNumeral rest) :
    scanFraction (s ++ rest) = .ok (digits, after ++ rest) := by
  unfold scanFraction at h
  split at h
  · obtain ⟨scanned, hscan, heq⟩ := map_eq_ok_iff.1 h
    cases heq
    rw [List.cons_append, scanFraction, scanDigits_append_rest hscan hrest]
    rfl
  · next hpoint =>
      cases h
      unfold scanFraction
      split
      · next more heq =>
          cases s with
          | nil => exact absurd rfl (hrest '.' (by rw [List.nil_append] at heq; rw [heq]; rfl)).2.1
          | cons c s =>
              cases heq
              exact absurd rfl (hpoint s)
      · rfl

theorem scanSign_append_rest (hs : s ≠ []) (rest : List Char) :
    scanSign (s ++ rest) = ((scanSign s).1, (scanSign s).2 ++ rest) := by
  cases s with
  | nil => exact absurd rfl hs
  | cons c s =>
      by_cases hplus : c = '+'
      · subst hplus
        rfl
      by_cases hminus : c = '-'
      · subst hminus
        rfl
      · have hsign : ∀ s, scanSign (c :: s) = (false, c :: s) := by
          intro s
          simp [scanSign, hplus, hminus]
        rw [List.cons_append, hsign, hsign]
        rfl

theorem scanMinus_append_rest (hs : s ≠ []) (rest : List Char) :
    scanMinus (s ++ rest) = ((scanMinus s).1, (scanMinus s).2 ++ rest) := by
  cases s with
  | nil => exact absurd rfl hs
  | cons c s =>
      by_cases hminus : c = '-'
      · subst hminus
        rfl
      · have hsign : ∀ s, scanMinus (c :: s) = (false, c :: s) := by
          intro s
          simp [scanMinus, hminus]
        rw [List.cons_append, hsign, hsign]
        rfl

theorem scanPower_append_rest {power : Option (Bool × List Char)}
    (h : scanPower s = .ok (power, after)) (hrest : EndsNumeral rest) :
    scanPower (s ++ rest) = .ok (power, after ++ rest) := by
  cases s with
  | nil =>
      cases h
      cases rest with
      | nil => rfl
      | cons c rest =>
          have hmark : ¬(c = 'e' ∨ c = 'E') := not_or.2 (hrest c rfl).2.2
          rw [List.nil_append, scanPower, if_neg hmark]
  | cons c s =>
      rw [scanPower] at h
      rw [List.cons_append, scanPower]
      split at h
      · next hmark =>
          obtain ⟨scanned, hscan, heq⟩ := map_eq_ok_iff.1 h
          cases heq
          have hs : s ≠ [] := by
            rintro rfl
            cases hscan
          rw [if_pos hmark, scanSign_append_rest hs]
          dsimp only
          rw [scanDigits_append_rest hscan hrest]
          rfl
      · next hmark =>
          cases h
          rw [if_neg hmark]
          rfl

theorem scanNumeral_append_rest {numeral : Numeral} (h : scanNumeral s = .ok (numeral, after))
    (hrest : EndsNumeral rest) : scanNumeral (s ++ rest) = .ok (numeral, after ++ rest) := by
  obtain ⟨⟨whole, s₁⟩, hwhole, h⟩ := bind_eq_ok_iff.1 h
  obtain ⟨⟨fraction, s₂⟩, hfraction, h⟩ := bind_eq_ok_iff.1 h
  obtain ⟨⟨power, s₃⟩, hpower, h⟩ := bind_eq_ok_iff.1 h
  cases h
  have hs : s ≠ [] := by
    rintro rfl
    cases hwhole
  unfold scanNumeral
  rw [scanMinus_append_rest hs]
  dsimp only
  rw [scanWhole_append_rest hwhole hrest]
  dsimp only [Except.bind]
  rw [scanFraction_append_rest hfraction hrest]
  dsimp only
  rw [scanPower_append_rest hpower hrest]

/-- What is read of a number that stands alone is read of it in front of any text that does not go
on with it. -/
theorem readNumber_append {n : Number} (h : readNumber s = .ok (n, after))
    (hrest : EndsNumeral rest) : readNumber (s ++ rest) = .ok (n, after ++ rest) := by
  obtain ⟨⟨numeral, left⟩, hscan, h⟩ := bind_eq_ok_iff.1 h
  unfold readNumber
  rw [scanNumeral_append_rest hscan hrest]
  dsimp only [Except.bind] at h ⊢
  split at h
  · next heq =>
      cases h
      rfl
  · cases h

/-- A number begins with a digit or a minus sign. -/
theorem exists_cons_of_readNumber {n : Number} (h : readNumber s = .ok (n, after)) :
    ∃ c more, s = c :: more ∧ (c = '-' ∨ c.isDigit = true) := by
  obtain ⟨⟨numeral, left⟩, hscan, -⟩ := bind_eq_ok_iff.1 h
  obtain ⟨⟨whole, s₁⟩, hwhole, -⟩ := bind_eq_ok_iff.1 hscan
  obtain ⟨⟨digits, s₂⟩, hdigits, -⟩ := bind_eq_ok_iff.1 hwhole
  obtain ⟨hne, rfl, -⟩ := takeWhile_of_scanDigits hdigits
  cases s with
  | nil => exact absurd rfl hne
  | cons c s =>
      refine ⟨c, s, rfl, ?_⟩
      by_cases hminus : c = '-'
      · exact .inl hminus
      · right
        have hsign : scanMinus (c :: s) = (false, c :: s) := by simp [scanMinus, hminus]
        rw [hsign] at hne
        cases hdigit : c.isDigit with
        | true => rfl
        | false => exact absurd (List.takeWhile_cons_of_neg (by simp [hdigit])) hne

/-! ### Whole numbers -/

/-- Only a zero that stands alone begins with a zero. -/
theorem decimalDigits_ne_zero_cons (n : Nat) (c : Char) (more : List Char) :
    decimalDigits n ≠ '0' :: c :: more := by
  unfold decimalDigits
  induction n using Nat.base_induction 10 (by decide) generalizing c more with
  | single m hm =>
      rw [Nat.toDigits_of_lt_base hm]
      intro h
      exact absurd (List.cons.inj h).2 (List.cons_ne_nil c more).symm
  | digit m k hk hm ih =>
      rw [← Nat.toDigits_append_toDigits (by decide) hm hk]
      intro h
      cases hfront : Nat.toDigits 10 m with
      | nil => exact Nat.toDigits_ne_nil hfront
      | cons d front =>
          rw [hfront, List.cons_append, List.cons.injEq] at h
          obtain ⟨rfl, -⟩ := h
          cases front with
          | nil =>
              have hzero : Nat.ofDigitChars 10 (Nat.toDigits 10 m) 0 = 0 := by
                rw [hfront]
                rfl
              rw [Nat.ofDigitChars_ten_toDigits] at hzero
              omega
          | cons d' front => exact ih d' front hfront

theorem digitsValue_decimalDigits (n : Nat) : digitsValue (decimalDigits n) = n :=
  Nat.ofDigitChars_ten_toDigits

theorem scanWhole_decimalDigits (n : Nat) :
    scanWhole (decimalDigits n) = .ok (decimalDigits n, []) := by
  have htake : (decimalDigits n).takeWhile Char.isDigit = decimalDigits n :=
    List.takeWhile_eq_self_iff.2 fun c hc =>
      Nat.isDigit_of_mem_toDigits (by decide) (by decide) hc
  have hdrop : (decimalDigits n).dropWhile Char.isDigit = [] :=
    List.dropWhile_eq_nil_iff.2 fun c hc =>
      Nat.isDigit_of_mem_toDigits (by decide) (by decide) hc
  have hscan := scanDigits_of_takeWhile (s := decimalDigits n)
    (by rw [htake]; exact Nat.toDigits_ne_nil)
  rw [htake, hdrop] at hscan
  unfold scanWhole
  rw [hscan]
  dsimp only [Except.bind]
  split
  · next heq => exact absurd (Prod.mk.inj heq).1 (decimalDigits_ne_zero_cons n _ _)
  · rfl

theorem scanMinus_decimalDigits (n : Nat) :
    scanMinus (decimalDigits n) = (false, decimalDigits n) := by
  cases hdigits : decimalDigits n with
  | nil => exact absurd hdigits Nat.toDigits_ne_nil
  | cons c more =>
      have hc : c.isDigit = true :=
        Nat.isDigit_of_mem_toDigits (by decide) (by decide) (hdigits ▸ List.mem_cons_self)
      have hminus : c ≠ '-' := by
        rintro rfl
        cases hc
      simp [scanMinus, hminus]

theorem scanNumeral_decimalChars (n : Int) :
    scanNumeral (decimalChars n)
      = .ok (⟨decide (n < 0), decimalDigits n.natAbs, none, none⟩, []) := by
  unfold decimalChars
  by_cases hneg : n < 0
  · rw [if_pos hneg, scanNumeral, scanMinus, scanWhole_decimalDigits, decide_eq_true hneg]
    rfl
  · rw [if_neg hneg, scanNumeral, scanMinus_decimalDigits, scanWhole_decimalDigits,
      decide_eq_false hneg]
    rfl

private theorem integer_congr {m n : Int} (h : m = n)
    (hm : -0x8000000000000000 ≤ m ∧ m < 0x10000000000000000)
    (hn : -0x8000000000000000 ≤ n ∧ n < 0x10000000000000000) :
    Number.integer m hm = .integer n hn := by
  subst h
  rfl

theorem integer?_decimalDigits (n : Int)
    (fits : -0x8000000000000000 ≤ n ∧ n < 0x10000000000000000) :
    Numeral.integer? ⟨decide (n < 0), decimalDigits n.natAbs, none, none⟩
      = some (.integer n fits) := by
  unfold Numeral.integer?
  simp only [digitsValue_decimalDigits, decide_eq_true_eq]
  by_cases hneg : n < 0
  · rw [if_pos hneg, dif_pos (by omega)]
    exact congrArg some (integer_congr (by omega) _ _)
  · rw [if_neg hneg, dif_pos (by omega)]
    exact congrArg some (integer_congr (by omega) _ _)

/-- A whole number is read back from its digits. -/
theorem readNumber_decimalChars (n : Int)
    (fits : -0x8000000000000000 ≤ n ∧ n < 0x10000000000000000) :
    readNumber (decimalChars n) = .ok (.integer n fits, []) := by
  unfold readNumber
  rw [scanNumeral_decimalChars]
  dsimp only [Except.bind, Number.ofNumeral?]
  rw [integer?_decimalDigits n fits]

end DegreeAudit.Json
