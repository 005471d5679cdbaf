import DegreeAudit.Json.Numeral

/-!
# JSON strings

`readTextRest` reads a string after its opening quote. Raw control characters are refused, an escape
names one character, and a character beyond the first plane is spelled by two escapes that belong
together. An escape by number needs four bytes of text after its `u`, whatever they are, or the text
counts as ended.
-/

namespace DegreeAudit.Json

open Except (bind_eq_ok_iff)

/-- The number written by the next four characters, all hexadecimal digits, and what follows. -/
def readHex (s : List Char) : Except Failure (Nat × List Char) :=
  if (String.ofList (s.take 4)).utf8ByteSize < 4 then .error .ended
  else
    match Text.hexNumber? (s.take 4) with
    | some n => .ok (n, s.drop 4)
    | none => .error .malformed

/-- Whether the number is the first of a pair that spells one character. -/
def isLeading (n : Nat) : Bool := 0xD800 ≤ n && n ≤ 0xDBFF

/-- Whether the number is the second of a pair that spells one character. -/
def isTrailing (n : Nat) : Bool := 0xDC00 ≤ n && n ≤ 0xDFFF

/-- The character that a pair of numbers spells. -/
def pairedChar (leading trailing : Nat) : Char :=
  Char.ofNat (0x10000 + (leading - 0xD800) * 0x400 + (trailing - 0xDC00))

/-- The character spelled by number after a `u`, and what follows. -/
def readCode (s : List Char) : Except Failure (Char × List Char) :=
  (readHex s).bind fun (n, s) =>
  if isTrailing n then .error .malformed
  else if isLeading n then
    match s with
    | [] | ['\\'] => .error .ended
    | '\\' :: 'u' :: s =>
      (readHex s).bind fun (m, s) =>
      if isTrailing m then .ok (pairedChar n m, s) else .error .malformed
    | _ => .error .malformed
  else .ok (Char.ofNat n, s)

/-- The character that a letter after a backslash stands for, numbers apart. -/
def simpleEscape? : Char → Option Char
  | '"' => some '"'
  | '\\' => some '\\'
  | '/' => some '/'
  | 'b' => some '\x08'
  | 'f' => some '\x0c'
  | 'n' => some '\n'
  | 'r' => some '\r'
  | 't' => some '\t'
  | _ => none

/-- The character that an escape stands for, after its backslash, and what follows. -/
def readEscape : List Char → Except Failure (Char × List Char)
  | [] => .error .ended
  | 'u' :: s => readCode s
  | c :: s =>
    match simpleEscape? c with
    | some escaped => .ok (escaped, s)
    | none => .error .malformed

theorem length_le_of_readHex {s rest : List Char} {n : Nat} (h : readHex s = .ok (n, rest)) :
    rest.length ≤ s.length := by
  unfold readHex at h
  split at h
  · cases h
  · split at h
    · cases h
      simp only [List.length_drop]
      omega
    · cases h

theorem length_le_of_readCode {s rest : List Char} {c : Char} (h : readCode s = .ok (c, rest)) :
    rest.length ≤ s.length := by
  obtain ⟨⟨n, s₁⟩, hhex, h⟩ := bind_eq_ok_iff.1 h
  have hlen := length_le_of_readHex hhex
  dsimp only at h
  split at h
  · cases h
  · split at h
    · split at h
      · cases h
      · cases h
      · obtain ⟨⟨m, s₂⟩, hhex', h⟩ := bind_eq_ok_iff.1 h
        have := length_le_of_readHex hhex'
        dsimp only at h
        split at h
        · simp only [Except.ok.injEq, Prod.mk.injEq] at h
          obtain ⟨-, rfl⟩ := h
          simp only [List.length_cons] at hlen
          omega
        · cases h
      · cases h
    · simp only [Except.ok.injEq, Prod.mk.injEq] at h
      obtain ⟨-, rfl⟩ := h
      exact hlen

theorem length_lt_of_readEscape {s rest : List Char} {c : Char}
    (h : readEscape s = .ok (c, rest)) : rest.length < s.length := by
  unfold readEscape at h
  split at h
  · cases h
  · have := length_le_of_readCode h
    simp only [List.length_cons]
    omega
  · split at h
    · cases h
      simp
    · cases h

/-- The rest of a string up to its closing quote, after the characters collected so far in reverse;
answers the text and what follows. -/
def readTextRest (collected : List Char) (s : List Char) : Except Failure (String × List Char) :=
  match s with
  | [] => .error .ended
  | c :: rest =>
    if c = '"' then .ok (String.ofList collected.reverse, rest)
    else if c = '\\' then
      match h : readEscape rest with
      | .error failure => .error failure
      | .ok (escaped, after) =>
        have := length_lt_of_readEscape h
        readTextRest (escaped :: collected) after
    else if c.toNat < 0x20 then .error .malformed
    else readTextRest (c :: collected) rest
termination_by s.length

theorem length_lt_of_readTextRest {collected s rest : List Char} {text : String}
    (h : readTextRest collected s = .ok (text, rest)) : rest.length < s.length := by
  fun_induction readTextRest collected s with
  | case1 => cases h
  | case2 => cases h; simp
  | case3 => cases h
  | case4 _ _ _ _ _ _ _ ih =>
    have := ih h
    simp only [List.length_cons]
    omega
  | case5 => cases h
  | case6 _ _ _ _ _ _ ih =>
    have := ih h
    simp only [List.length_cons]
    omega

end DegreeAudit.Json
