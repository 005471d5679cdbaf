import DegreeAudit.Json.Reader

/-!
# Passing over a value

A value that nobody asks for is checked for its grammar and not kept. Its nesting has no limit, its
numbers may be of any size and its escapes need not spell whole characters; nothing is built, so the
open arrays and objects are all that has to be remembered.
-/

namespace DegreeAudit.Json

open Except (bind_eq_ok_iff map_eq_ok_iff)

def skipEscape : List Char → Except Failure (List Char)
  | [] => .error .ended
  | 'u' :: s => (readHex s).map (·.2)
  | c :: s => if (simpleEscape? c).isSome then .ok s else .error .malformed

theorem length_lt_of_skipEscape {s rest : List Char} (h : skipEscape s = .ok rest) :
    rest.length < s.length := by
  unfold skipEscape at h
  split at h
  · cases h
  · obtain ⟨⟨n, after⟩, hhex, h⟩ := map_eq_ok_iff.1 h
    cases h
    have := length_le_of_readHex hhex
    simp only [List.length_cons]
    omega
  · split at h
    · cases h
      simp
    · cases h

def skipTextRest (s : List Char) : Except Failure (List Char) :=
  match s with
  | [] => .error .ended
  | c :: rest =>
    if c = '"' then .ok rest
    else if c = '\\' then
      match h : skipEscape rest with
      | .error failure => .error failure
      | .ok after =>
        have := length_lt_of_skipEscape h
        skipTextRest after
    else if c.toNat < 0x20 then .error .malformed
    else skipTextRest rest
termination_by s.length

theorem length_lt_of_skipTextRest {s rest : List Char} (h : skipTextRest s = .ok rest) :
    rest.length < s.length := by
  fun_induction skipTextRest s with
  | case1 => cases h
  | case2 => cases h; simp
  | case3 => cases h
  | case4 _ _ _ _ _ ih =>
    have := ih h
    simp only [List.length_cons]
    omega
  | case5 => cases h
  | case6 _ _ _ _ _ ih =>
    have := ih h
    simp only [List.length_cons]
    omega

def skipKey (s : List Char) : Except Failure (List Char) :=
  match skipSpaces s with
  | [] => .error .ended
  | '"' :: rest => (skipTextRest rest).bind readColon
  | _ => .error .malformed

theorem length_lt_of_skipKey {s rest : List Char} (h : skipKey s = .ok rest) :
    rest.length < s.length := by
  unfold skipKey at h
  split at h
  · cases h
  · next heq =>
    obtain ⟨after, htext, hcolon⟩ := bind_eq_ok_iff.1 h
    have := length_lt_of_skipTextRest htext
    have := length_lt_of_readColon hcolon
    have := length_lt_of_skipSpaces heq
    omega
  · cases h

/-- Passes over a numeral; one that breaks off is malformed. -/
def skipNumeral (s : List Char) : Except Failure (List Char) :=
  match scanNumeral s with
  | .ok (_, rest) => .ok rest
  | .error _ => .error .malformed

theorem length_lt_of_skipNumeral {s rest : List Char} (h : skipNumeral s = .ok rest) :
    rest.length < s.length := by
  unfold skipNumeral at h
  split at h
  · next hscan =>
    cases h
    exact length_lt_of_scanNumeral hscan
  · cases h

/-- Passes over a word, string or number; the text begins with its first character. -/
def skipScalar : List Char → Except Failure (List Char)
  | [] => .error .ended
  | 'n' :: rest => readWord ['u', 'l', 'l'] rest
  | 't' :: rest => readWord ['r', 'u', 'e'] rest
  | 'f' :: rest => readWord ['a', 'l', 's', 'e'] rest
  | '"' :: rest => skipTextRest rest
  | c :: rest =>
    if c = '-' ∨ c.isDigit then skipNumeral (c :: rest) else .error .malformed

theorem length_lt_of_skipScalar {s rest : List Char} (h : skipScalar s = .ok rest) :
    rest.length < s.length := by
  unfold skipScalar at h
  split at h
  · cases h
  · have := length_le_of_readWord h
    simp only [List.length_cons]
    omega
  · have := length_le_of_readWord h
    simp only [List.length_cons]
    omega
  · have := length_le_of_readWord h
    simp only [List.length_cons]
    omega
  · have := length_lt_of_skipTextRest h
    simp only [List.length_cons]
    omega
  · split at h
    · exact length_lt_of_skipNumeral h
    · cases h

inductive Container where
  | array
  | object
deriving DecidableEq, Repr

def Container.closing : Container → Char
  | array => ']'
  | object => '\x7d'

/-- Passes over what stands before an item's value: nothing in an array, a key in an object. -/
def Container.skipLabel : Container → List Char → Except Failure (List Char)
  | array, s => .ok s
  | object, s => skipKey s

theorem Container.length_le_of_skipLabel {container : Container} {s rest : List Char}
    (h : container.skipLabel s = .ok rest) : rest.length ≤ s.length := by
  cases container with
  | array => cases h; exact Nat.le_refl _
  | object => exact Nat.le_of_lt (length_lt_of_skipKey h)

inductive Place where
  | beforeValue
  | afterOpening
  | afterValue
deriving DecidableEq, Repr

/-- The order in which places can follow each other without a character in between. -/
def Place.rank : Place → Nat
  | afterOpening => 1
  | _ => 0

/-- Passes over the rest of a value inside the containers that are open, innermost first. -/
def skipFrom (place : Place) (containers : List Container) (s : List Char) :
    Except Failure (List Char) :=
  match place, containers with
  | .beforeValue, containers =>
    match hs : skipSpaces s with
    | [] => .error .ended
    | c :: rest =>
      have := length_lt_of_skipSpaces hs
      if c = '[' then skipFrom .afterOpening (.array :: containers) rest
      else if c = '\x7b' then skipFrom .afterOpening (.object :: containers) rest
      else
        match h : skipScalar (c :: rest) with
        | .error failure => .error failure
        | .ok after =>
          have := length_lt_of_skipScalar h
          skipFrom .afterValue containers after
  | .afterOpening, [] => .ok s
  | .afterOpening, container :: containers =>
    match hs : skipSpaces s with
    | [] => .error .ended
    | c :: rest =>
      have := length_lt_of_skipSpaces hs
      if c = container.closing then skipFrom .afterValue containers rest
      else
        match h : container.skipLabel (c :: rest) with
        | .error failure => .error failure
        | .ok after =>
          have := Container.length_le_of_skipLabel h
          skipFrom .beforeValue (container :: containers) after
  | .afterValue, [] => .ok s
  | .afterValue, container :: containers =>
    match hs : skipSpaces s with
    | [] => .error .ended
    | c :: rest =>
      have := length_lt_of_skipSpaces hs
      if c = container.closing then skipFrom .afterValue containers rest
      else if c = ',' then
        match h : container.skipLabel rest with
        | .error failure => .error failure
        | .ok after =>
          have := Container.length_le_of_skipLabel h
          skipFrom .beforeValue (container :: containers) after
      else .error .malformed
termination_by (s.length, place.rank)
decreasing_by all_goals (simp only [Place.rank, List.length_cons, Prod.lex_def] at *; omega)

def skipValue (s : List Char) : Except Failure (List Char) := skipFrom .beforeValue [] s

theorem length_le_of_skipFrom {place : Place} {containers : List Container} {s rest : List Char}
    (h : skipFrom place containers s = .ok rest) : rest.length ≤ s.length := by
  fun_induction skipFrom place containers s <;> grind [List.length_cons]

end DegreeAudit.Json
