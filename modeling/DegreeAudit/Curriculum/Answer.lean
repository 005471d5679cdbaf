import DegreeAudit.Curriculum.Component

/-!
# The portal's curriculum answer

The answer is an object whose `disciplinas` member lists the components, or an array that holds
nothing but that list. Other members are passed over unread. The text is read once from the front,
so of several faults the first decides, and the explanation names what was found and what was wanted
in its place.
-/

namespace DegreeAudit

open Json
open Except (bind_eq_ok_iff map_eq_ok_iff)

/-- The components of a degree in the portal's order. -/
structure Curriculum where
  components : List Component

namespace Curriculum

def listKey : String := "disciplinas"

def toValue (c : Curriculum) : Value :=
  .object [(listKey, .array (c.components.map Component.toValue))]

def answerShape : String := "struct Integralizacao"

def listShape : String := "a sequence"

def componentShape : String := "a map"

/-- What a text begins with; arrays and objects are recognized by their bracket. -/
def foundAt : List Char → Except Failure Found
  | [] => .error .ended
  | 'n' :: rest => (readWord ['u', 'l', 'l'] rest).map fun _ => .null
  | 't' :: rest => (readWord ['r', 'u', 'e'] rest).map fun _ => .boolean true
  | 'f' :: rest => (readWord ['a', 'l', 's', 'e'] rest).map fun _ => .boolean false
  | '"' :: rest => (readTextRest [] rest).map fun (text, _) => .text text
  | '[' :: _ => .ok .sequence
  | '\x7b' :: _ => .ok .map
  | c :: rest =>
    if c = '-' ∨ c.isDigit then (readNumber (c :: rest)).map fun (n, _) => .number n
    else .error .malformed

/-- The failure when something else than `wanted` stands at the front. -/
def refusal (wanted : String) (s : List Char) : Failure :=
  match foundAt s with
  | .ok found => .mismatch (.found found wanted)
  | .error failure => failure

/-- How many arrays and objects may be open at once inside a component's values: the answer, its
list and the component are open around them. -/
def valueDepth : Nat := maxDepth - 3

def runComponent (s : List Char) : Except Failure (Component × List Char) :=
  match skipSpaces s with
  | [] => .error .ended
  | c :: rest =>
    if c = '\x7b' then
      match h : (Reader.value valueDepth).members rest with
      | .error failure => .error failure
      | .ok (members, after) => .ok (⟨members, Reader.nodup_keys_of_members h⟩, after)
    else .error (refusal componentShape (c :: rest))

theorem length_lt_of_runComponent {s rest : List Char} {c : Component}
    (h : runComponent s = .ok (c, rest)) : rest.length < s.length := by
  unfold runComponent at h
  split at h
  · cases h
  · next heq =>
    split at h
    · split at h
      · cases h
      · next hmembers =>
        cases h
        have := Reader.length_lt_of_members hmembers
        have := length_lt_of_skipSpaces heq
        omega
    · cases h

def componentReader : Reader Component := ⟨runComponent, length_lt_of_runComponent⟩

def readList (s : List Char) : Except Failure (List Component × List Char) :=
  match skipSpaces s with
  | [] => .error .ended
  | c :: rest =>
    if c = '[' then componentReader.items rest else .error (refusal listShape (c :: rest))

theorem length_lt_of_readList {s rest : List Char} {components : List Component}
    (h : readList s = .ok (components, rest)) : rest.length < s.length := by
  unfold readList at h
  split at h
  · cases h
  · next heq =>
    split at h
    · have := Reader.length_lt_of_items h
      have := length_lt_of_skipSpaces heq
      omega
    · cases h

/-- The array form after its opening bracket: the list and nothing else. -/
def readArrayForm (s : List Char) : Except Failure (Curriculum × List Char) :=
  match skipSpaces s with
  | [] => .error .ended
  | ']' :: _ => .error (.mismatch (.tooShort 0 (answerShape ++ " with 1 element")))
  | c :: rest =>
    (readList (c :: rest)).bind fun (components, after) =>
    match skipSpaces after with
    | [] => .error .ended
    | ']' :: after => .ok (⟨components⟩, after)
    | _ => .error .malformed

/-- One member of the object form, added to the list found so far. -/
def readMember (found : Option (List Component)) (s : List Char) :
    Except Failure (Option (List Component) × List Char) :=
  (readName s).bind fun (key, s) =>
  if key = listKey then
    if found.isSome then .error (.mismatch (.repeated listKey))
    else
      (readColon s).bind fun s => (readList s).map fun (components, s) => (some components, s)
  else (readColon s).bind fun s => (skipValue s).map fun s => (found, s)

theorem length_lt_of_readMember {found result : Option (List Component)} {s rest : List Char}
    (h : readMember found s = .ok (result, rest)) : rest.length < s.length := by
  obtain ⟨⟨key, s₁⟩, hname, h⟩ := bind_eq_ok_iff.1 h
  have := length_lt_of_readName hname
  dsimp only at h
  split at h
  · split at h
    · cases h
    · obtain ⟨s₂, hcolon, h⟩ := bind_eq_ok_iff.1 h
      obtain ⟨⟨components, s₃⟩, hlist, h⟩ := map_eq_ok_iff.1 h
      cases h
      have := length_lt_of_readColon hcolon
      have := length_lt_of_readList hlist
      dsimp only
      omega
  · obtain ⟨s₂, hcolon, h⟩ := bind_eq_ok_iff.1 h
    obtain ⟨s₃, hskip, h⟩ := map_eq_ok_iff.1 h
    cases h
    have := length_lt_of_readColon hcolon
    have := length_le_of_skipFrom hskip
    omega

/-- The curriculum once the object form is closed. -/
def ofFound : Option (List Component) → Except Failure Curriculum
  | some components => .ok ⟨components⟩
  | none => .error (.mismatch (.missing listKey))

/-- The members of the object form after the first, up to the closing brace. -/
def readNextMembers (found : Option (List Component)) (s : List Char) :
    Except Failure (Curriculum × List Char) :=
  match hs : skipSpaces s with
  | [] => .error .ended
  | c :: rest =>
    if c = '\x7d' then (ofFound found).map fun curriculum => (curriculum, rest)
    else if c = ',' then
      match h : readMember found rest with
      | .error failure => .error failure
      | .ok (found, after) =>
        have := length_lt_of_skipSpaces hs
        have := length_lt_of_readMember h
        readNextMembers found after
    else .error .malformed
termination_by s.length
decreasing_by omega

def readObjectForm (s : List Char) : Except Failure (Curriculum × List Char) :=
  match skipSpaces s with
  | [] => .error .ended
  | c :: rest =>
    if c = '\x7d' then (ofFound none).map fun curriculum => (curriculum, rest)
    else (readMember none (c :: rest)).bind fun (found, after) => readNextMembers found after

def read (s : List Char) : Except Failure Curriculum :=
  let form : Except Failure (Curriculum × List Char) := match skipSpaces s with
    | [] => .error .ended
    | '[' :: rest => readArrayForm rest
    | '\x7b' :: rest => readObjectForm rest
    | c :: rest => .error (refusal answerShape (c :: rest))
  form.bind fun (curriculum, rest) =>
  if skipSpaces rest = [] then .ok curriculum else .error .malformed

def ofBody (body : String) : Except Failure Curriculum := read body.toList

/-- What is told of every body that holds no curriculum. -/
def refusedMessage : String := "unexpected integralizacao payload"

end Curriculum

end DegreeAudit
