import DegreeAudit.Json.Printer
import DegreeAudit.Json.QuotedText

/-!
# Reading back a string

What a string is written as is read as that string, whatever stands behind its closing quote:
`exists_textChars_append`. A character is written as itself or as an escape, and either is read as
the character; the rest is induction on the characters.
-/

namespace DegreeAudit.Json

theorem readTextRest_quote (collected rest : List Char) :
    readTextRest collected ('"' :: rest) = .ok (String.ofList collected.reverse, rest) := by
  rw [readTextRest]
  exact if_pos rfl

theorem readTextRest_escape {collected s after : List Char} {c : Char}
    (h : readEscape s = .ok (c, after)) :
    readTextRest collected ('\\' :: s) = readTextRest (c :: collected) after := by
  rw [readTextRest, if_neg (by decide), if_pos rfl]
  split
  · next heq =>
      rw [h] at heq
      cases heq
  · next heq =>
      rw [h] at heq
      cases heq
      rfl

theorem readTextRest_plain {collected rest : List Char} {c : Char} (hquote : c ≠ '"')
    (hslash : c ≠ '\\') (hcontrol : ¬c.toNat < 0x20) :
    readTextRest collected (c :: rest) = readTextRest (c :: collected) rest := by
  rw [readTextRest, if_neg hquote, if_neg hslash, if_neg hcontrol]

/-- An escape by number spells the control character that it was written for. -/
theorem readEscape_control {n : Nat} (h : n < 0x20) (rest : List Char) :
    readEscape ('u' :: '0' :: '0' :: lowerHexDigit (n / 16) :: lowerHexDigit (n % 16) :: rest)
      = .ok (Char.ofNat n, rest) := by
  have hall : ∀ n < 0x20,
      (String.ofList ['0', '0', lowerHexDigit (n / 16), lowerHexDigit (n % 16)]).utf8ByteSize = 4 ∧
        Text.hexNumber? ['0', '0', lowerHexDigit (n / 16), lowerHexDigit (n % 16)] = some n ∧
        isTrailing n = false ∧ isLeading n = false := by
    decide
  obtain ⟨hsize, hnumber, htrailing, hleading⟩ := hall n h
  have hhex : readHex ('0' :: '0' :: lowerHexDigit (n / 16) :: lowerHexDigit (n % 16) :: rest)
      = .ok (n, rest) := by
    unfold readHex
    simp only [List.take_succ_cons, List.take_zero, List.drop_succ_cons, List.drop_zero, hsize,
      hnumber]
    rfl
  rw [readEscape, readCode, hhex]
  dsimp only [Except.bind]
  rw [htrailing, hleading]
  rfl

/-- What a character is written as is read as that character. -/
theorem readTextRest_escapeChar (collected rest : List Char) (c : Char) :
    readTextRest collected (escapeChar c ++ rest) = readTextRest (c :: collected) rest := by
  unfold escapeChar
  split
  case h_8 _ hquote hslash _ _ _ _ _ =>
    split
    · next hcontrol =>
        have hread := readEscape_control hcontrol rest
        rw [Char.ofNat_toNat] at hread
        exact readTextRest_escape hread
    · next hcontrol => exact readTextRest_plain hquote hslash hcontrol
  -- the seven characters with an escape of their own
  all_goals exact readTextRest_escape rfl

theorem readTextRest_flatMap_escapeChar (collected s rest : List Char) :
    readTextRest collected (s.flatMap escapeChar ++ '"' :: rest)
      = .ok (String.ofList (collected.reverse ++ s), rest) := by
  induction s generalizing collected with
  | nil => rw [List.flatMap_nil, List.nil_append, readTextRest_quote, List.append_nil]
  | cons c s ih =>
      rw [List.flatMap_cons, List.append_assoc, readTextRest_escapeChar, ih, List.reverse_cons,
        List.append_assoc, List.singleton_append]

/-- A string begins with a quote, and what follows is read as the string. -/
theorem exists_textChars_append (s : String) (rest : List Char) :
    ∃ more, textChars s ++ rest = '"' :: more ∧ readTextRest [] more = .ok (s, rest) := by
  refine ⟨s.toList.flatMap escapeChar ++ '"' :: rest, ?_, ?_⟩
  · simp only [textChars, List.cons_append, List.append_assoc, List.nil_append]
  · rw [readTextRest_flatMap_escapeChar, List.reverse_nil, List.nil_append, String.ofList_toList]

end DegreeAudit.Json
