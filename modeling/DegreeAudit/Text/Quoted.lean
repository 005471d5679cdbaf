import DegreeAudit.Text.CombiningMark
import DegreeAudit.Text.Hex
import DegreeAudit.Text.Unprintable

/-!
# Quoted text

How a message shows a text of unknown content: between double quotes, with every character that
could end the quotes, break the line or hide from the reader written as an escape. `quote` writes
the form and `quoteList` joins several of them in brackets. `unquote` reads one back together with
what follows it, so a quoted text inside a sentence is never ambiguous.
-/

namespace DegreeAudit.Text

/-- Whether the character is shown by its code rather than by itself. -/
def isHidden (c : Char) : Bool :=
  if c.toNat < 0x20 then true
  else if c.toNat < 0x7F then false
  else isCombiningMark c || isUnprintable c

/-- The lower-case hexadecimal digits of a number, most significant first, with no leading zero. -/
def hexDigits (n : Nat) : List Char := Nat.toDigits 16 n

/-- The escape that stands for one character, or the character itself. -/
def quoteChar (c : Char) : List Char :=
  match c with
  | '"' => ['\\', '"']
  | '\\' => ['\\', '\\']
  | '\n' => ['\\', 'n']
  | '\r' => ['\\', 'r']
  | '\t' => ['\\', 't']
  | '\x00' => ['\\', '0']
  | c => if isHidden c then ['\\', 'u', '\x7b'] ++ hexDigits c.toNat ++ ['\x7d'] else [c]

def quoteChars (s : List Char) : List Char := '"' :: s.flatMap quoteChar ++ ['"']

def quote (s : String) : String := String.ofList (quoteChars s.toList)

def quoteList (items : List String) : String :=
  "[" ++ ", ".intercalate (items.map quote) ++ "]"

/-- Reads hexadecimal digits up to a closing brace, adding them to the number read so far. -/
def unquoteCode (code : Nat) : List Char → Option (Nat × List Char)
  | [] => none
  | c :: rest =>
    if c = '\x7d' then some (code, rest)
    else (hexValue? c).bind fun digit => unquoteCode (16 * code + digit) rest

/-- A code leaves less text than it found. -/
theorem length_lt_of_unquoteCode {s rest : List Char} {code result : Nat}
    (h : unquoteCode code s = some (result, rest)) : rest.length < s.length := by
  induction s generalizing code with
  | nil => simp [unquoteCode] at h
  | cons c s ih =>
    rw [unquoteCode] at h
    split at h
    · simp only [Option.some.injEq, Prod.mk.injEq] at h
      simp [← h.2]
    · obtain ⟨digit, -, hrest⟩ := Option.bind_eq_some_iff.1 h
      have := ih hrest
      simp only [List.length_cons]
      omega

/-- Reads the inside of a quoted text up to its closing quote; answers the text and what follows. -/
def unquoteRest : List Char → Option (List Char × List Char)
  | '"' :: rest => some ([], rest)
  | '\\' :: '"' :: rest => (unquoteRest rest).map fun r => ('"' :: r.1, r.2)
  | '\\' :: '\\' :: rest => (unquoteRest rest).map fun r => ('\\' :: r.1, r.2)
  | '\\' :: 'n' :: rest => (unquoteRest rest).map fun r => ('\n' :: r.1, r.2)
  | '\\' :: 'r' :: rest => (unquoteRest rest).map fun r => ('\r' :: r.1, r.2)
  | '\\' :: 't' :: rest => (unquoteRest rest).map fun r => ('\t' :: r.1, r.2)
  | '\\' :: '0' :: rest => (unquoteRest rest).map fun r => ('\x00' :: r.1, r.2)
  | '\\' :: 'u' :: '\x7b' :: rest =>
    match h : unquoteCode 0 rest with
    | none => none
    | some (code, after) =>
      have := length_lt_of_unquoteCode h
      (unquoteRest after).map fun r => (Char.ofNat code :: r.1, r.2)
  | '\\' :: _ => none
  | c :: rest => (unquoteRest rest).map fun r => (c :: r.1, r.2)
  | [] => none
termination_by s => s.length
decreasing_by all_goals (simp only [List.length_cons]; omega)

/-- Reads a quoted text at the front; answers the text and what follows its closing quote. -/
def unquote : List Char → Option (List Char × List Char)
  | '"' :: rest => unquoteRest rest
  | _ => none

end DegreeAudit.Text
