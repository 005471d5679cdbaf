import DegreeAudit.Page.Fields
import DegreeAudit.Text.Blank

/-!
# Link scripts

A link that posts a form does so by a script, in which the form is named by its id and the fields to
add are written as pairs of quoted texts with a colon between them. `pairs` finds all such pairs
from left to right, each search beginning where the last pair ended, and `formId?` finds the first
form that is named. Quoted texts hold no quotes; blanks may stand around the colon. `write` is the
usual form of such a script, which both read back.
-/

namespace DegreeAudit.LinkScript

open Text

/-- The characters up to the next quote, and what follows that quote. -/
def upToQuote (s : List Char) : Option (List Char × List Char) :=
  match s.dropWhile (· != '\'') with
  | [] => none
  | _ :: rest => some (s.takeWhile (· != '\''), rest)

theorem length_lt_of_upToQuote {s text rest : List Char} (h : upToQuote s = some (text, rest)) :
    rest.length < s.length := by
  have hdrop := (List.dropWhile_suffix (l := s) (· != '\'')).length_le
  unfold upToQuote at h
  split at h
  · cases h
  · next heq =>
    cases h
    rw [heq, List.length_cons] at hdrop
    omega

/-- A colon and a quote with blanks around the colon, and what follows the quote. -/
def colonQuote? (s : List Char) : Option (List Char) :=
  match trimLeft s with
  | ':' :: rest =>
    match trimLeft rest with
    | '\'' :: after => some after
    | _ => none
  | _ => none

theorem length_trimLeft_le (s : List Char) : (trimLeft s).length ≤ s.length :=
  (List.dropWhile_suffix isBlank).length_le

theorem length_lt_of_colonQuote? {s rest : List Char} (h : colonQuote? s = some rest) :
    rest.length < s.length := by
  have hs := length_trimLeft_le s
  unfold colonQuote? at h
  split at h
  · next after heq =>
    have hafter := length_trimLeft_le after
    rw [heq, List.length_cons] at hs
    split at h
    · next heq' =>
      cases h
      rw [heq', List.length_cons] at hafter
      omega
    · cases h
  · cases h

def pairAt? : List Char → Option ((String × String) × List Char)
  | '\'' :: s =>
    (upToQuote s).bind fun (key, s) =>
    if key.isEmpty then none
    else
      (colonQuote? s).bind fun s =>
      (upToQuote s).map fun (value, s) => ((String.ofList key, String.ofList value), s)
  | _ => none

theorem length_lt_of_pairAt? {s rest : List Char} {pair : String × String}
    (h : pairAt? s = some (pair, rest)) : rest.length < s.length := by
  unfold pairAt? at h
  split at h
  · obtain ⟨⟨key, s₁⟩, hkey, h⟩ := Option.bind_eq_some_iff.1 h
    dsimp only at h
    split at h
    · cases h
    · obtain ⟨s₂, hcolon, h⟩ := Option.bind_eq_some_iff.1 h
      obtain ⟨⟨value, s₃⟩, hvalue, h⟩ := Option.map_eq_some_iff.1 h
      cases h
      have := length_lt_of_upToQuote hkey
      have := length_lt_of_colonQuote? hcolon
      have := length_lt_of_upToQuote hvalue
      simp only [List.length_cons]
      omega
  · cases h

/-- All pairs of a script from left to right, none overlapping another. -/
def pairs (s : List Char) : Fields :=
  match s with
  | [] => []
  | c :: tail =>
    match h : pairAt? (c :: tail) with
    | some (pair, rest) =>
      have := length_lt_of_pairAt? h
      pair :: pairs rest
    | none => pairs tail
termination_by s.length
decreasing_by
  · exact this
  · exact Nat.lt_succ_self _

def lookup : List Char := "getElementById('".toList

def formIdAt? (s : List Char) : Option String :=
  if lookup.isPrefixOf s then
    (upToQuote (s.drop lookup.length)).bind fun (id, rest) =>
    if !id.isEmpty ∧ rest.head? = some ')' then some (String.ofList id) else none
  else none

def formId? : List Char → Option String
  | [] => none
  | c :: tail => (formIdAt? (c :: tail)).or (formId? tail)

def quoted (s : String) : List Char := '\'' :: s.toList ++ ['\'']

def writePairs : Fields → List Char
  | [] => []
  | [(key, value)] => quoted key ++ ':' :: quoted value
  | (key, value) :: rest => quoted key ++ ':' :: quoted value ++ ',' :: writePairs rest

/-- The script of a link that posts a form with additional fields to a target. -/
def write (form : String) (fields : Fields) (target : String) : List Char :=
  "if(typeof jsfcljs == 'function')\x7bjsfcljs(document.getElementById(".toList ++ quoted form ++
    "),\x7b".toList ++ writePairs fields ++ "\x7d,".toList ++ quoted target ++
    ");\x7dreturn false".toList

end DegreeAudit.LinkScript
