import DegreeAudit.Json.QuotedText

/-!
# Reading JSON

A `Reader` takes a value off the front of a text and leaves a shorter one, so lists of values can be
read without a bound fixed beforehand. `items` and `members` read what stands between brackets for
any reader of the values inside, and `value` builds the reader of arbitrary values by going down one
level of nesting at a time: `value room` allows `room` more arrays and objects to be open at once. A
key that appears twice in an object keeps its place and takes the later value.
-/

namespace DegreeAudit.Json

open Except (bind_eq_ok_iff map_eq_ok_iff)

/-- Takes a value off the front of a text, or says why there is none. -/
structure Reader (α : Type) where
  run : List Char → Except Failure (α × List Char)
  shrinks : ∀ {s : List Char} {a : α} {rest : List Char},
    run s = .ok (a, rest) → rest.length < s.length

def isSpace (c : Char) : Bool := c == ' ' || c == '\t' || c == '\n' || c == '\r'

def skipSpaces (s : List Char) : List Char := s.dropWhile isSpace

theorem length_skipSpaces_le (s : List Char) : (skipSpaces s).length ≤ s.length :=
  (List.dropWhile_suffix isSpace).length_le

theorem length_lt_of_skipSpaces {s rest : List Char} {c : Char} (h : skipSpaces s = c :: rest) :
    rest.length < s.length := by
  have := length_skipSpaces_le s
  rw [h, List.length_cons] at this
  exact this

def readWord : List Char → List Char → Except Failure (List Char)
  | [], s => .ok s
  | _ :: _, [] => .error .ended
  | letter :: word, c :: s => if c = letter then readWord word s else .error .malformed

theorem length_le_of_readWord {word s rest : List Char} (h : readWord word s = .ok rest) :
    rest.length ≤ s.length := by
  fun_induction readWord word s with
  | case1 => cases h; exact Nat.le_refl _
  | case2 => cases h
  | case3 _ _ _ ih =>
    have := ih h
    simp only [List.length_cons]
    omega
  | case4 => cases h

def readNumber (s : List Char) : Except Failure (Number × List Char) :=
  (scanNumeral s).bind fun (numeral, rest) =>
  match Number.ofNumeral? numeral with
  | some n => .ok (n, rest)
  | none => .error .malformed

theorem length_lt_of_readNumber {s rest : List Char} {n : Number}
    (h : readNumber s = .ok (n, rest)) : rest.length < s.length := by
  obtain ⟨⟨numeral, after⟩, hscan, h⟩ := bind_eq_ok_iff.1 h
  dsimp only at h
  split at h
  · cases h
    exact length_lt_of_scanNumeral hscan
  · cases h

def readColon (s : List Char) : Except Failure (List Char) :=
  match skipSpaces s with
  | [] => .error .ended
  | ':' :: rest => .ok rest
  | _ => .error .malformed

theorem length_lt_of_readColon {s rest : List Char} (h : readColon s = .ok rest) :
    rest.length < s.length := by
  unfold readColon at h
  split at h
  · cases h
  · next heq =>
    cases h
    exact length_lt_of_skipSpaces heq
  · cases h

def readName (s : List Char) : Except Failure (String × List Char) :=
  match skipSpaces s with
  | [] => .error .ended
  | '"' :: rest => readTextRest [] rest
  | _ => .error .malformed

theorem length_lt_of_readName {s rest : List Char} {key : String}
    (h : readName s = .ok (key, rest)) : rest.length < s.length := by
  unfold readName at h
  split at h
  · cases h
  · next heq =>
    have := length_lt_of_readTextRest h
    have := length_lt_of_skipSpaces heq
    omega
  · cases h

def readKey (s : List Char) : Except Failure (String × List Char) :=
  (readName s).bind fun (key, s) => (readColon s).map fun s => (key, s)

theorem length_lt_of_readKey {s rest : List Char} {key : String}
    (h : readKey s = .ok (key, rest)) : rest.length < s.length := by
  obtain ⟨⟨key', s₁⟩, hname, h⟩ := bind_eq_ok_iff.1 h
  obtain ⟨s₂, hcolon, h⟩ := map_eq_ok_iff.1 h
  cases h
  have := length_lt_of_readName hname
  have := length_lt_of_readColon hcolon
  omega

namespace Reader

variable {α : Type}

/-- The items after the first, up to the closing bracket; those read so far are given in reverse. -/
def nextItems (item : Reader α) (read : List α) (s : List Char) :
    Except Failure (List α × List Char) :=
  match hs : skipSpaces s with
  | [] => .error .ended
  | c :: rest =>
    if c = ']' then .ok (read.reverse, rest)
    else if c = ',' then
      match h : item.run rest with
      | .error failure => .error failure
      | .ok (a, after) =>
        have := length_lt_of_skipSpaces hs
        have := item.shrinks h
        nextItems item (a :: read) after
    else .error .malformed
termination_by s.length
decreasing_by omega

def items (item : Reader α) (s : List Char) : Except Failure (List α × List Char) :=
  match skipSpaces s with
  | [] => .error .ended
  | c :: rest =>
    if c = ']' then .ok ([], rest)
    else (item.run (c :: rest)).bind fun (a, after) => nextItems item [a] after

def member (value : Reader α) (s : List Char) : Except Failure ((String × α) × List Char) :=
  (readKey s).bind fun (key, s) => (value.run s).map fun (a, s) => ((key, a), s)

theorem length_lt_of_member {value : Reader α} {s rest : List Char} {m : String × α}
    (h : value.member s = .ok (m, rest)) : rest.length < s.length := by
  obtain ⟨⟨key, s₁⟩, hkey, h⟩ := bind_eq_ok_iff.1 h
  obtain ⟨⟨a, s₂⟩, hvalue, h⟩ := map_eq_ok_iff.1 h
  cases h
  have := length_lt_of_readKey hkey
  have := value.shrinks hvalue
  omega

/-- The members after the first, up to the closing brace, put one by one to those read so far. -/
def nextMembers (value : Reader α) (read : List (String × α)) (s : List Char) :
    Except Failure (List (String × α) × List Char) :=
  match hs : skipSpaces s with
  | [] => .error .ended
  | c :: rest =>
    if c = '\x7d' then .ok (read, rest)
    else if c = ',' then
      match h : value.member rest with
      | .error failure => .error failure
      | .ok (m, after) =>
        have := length_lt_of_skipSpaces hs
        have := length_lt_of_member h
        nextMembers value (put m.1 m.2 read) after
    else .error .malformed
termination_by s.length
decreasing_by omega

def members (value : Reader α) (s : List Char) :
    Except Failure (List (String × α) × List Char) :=
  match skipSpaces s with
  | [] => .error .ended
  | c :: rest =>
    if c = '\x7d' then .ok ([], rest)
    else (value.member (c :: rest)).bind fun (m, after) => nextMembers value [m] after

theorem length_lt_of_nextItems {item : Reader α} {read result : List α} {s rest : List Char}
    (h : item.nextItems read s = .ok (result, rest)) : rest.length < s.length := by
  fun_induction nextItems item read s with
  | case1 => cases h
  | case2 _ _ _ hs =>
    cases h
    exact length_lt_of_skipSpaces hs
  | case3 => cases h
  | case4 _ _ _ _ _ _ _ _ hskip hshrink ih =>
    have := ih h
    omega
  | case5 => cases h

theorem length_lt_of_items {item : Reader α} {result : List α} {s rest : List Char}
    (h : item.items s = .ok (result, rest)) : rest.length < s.length := by
  have hskip := length_skipSpaces_le s
  unfold items at h
  split at h
  · cases h
  · next c tail heq =>
    split at h
    · cases h
      exact length_lt_of_skipSpaces heq
    · rw [heq] at hskip
      obtain ⟨⟨a, after⟩, hitem, h⟩ := bind_eq_ok_iff.1 h
      have := item.shrinks hitem
      have := length_lt_of_nextItems h
      omega

theorem length_lt_of_nextMembers {value : Reader α} {read result : List (String × α)}
    {s rest : List Char} (h : value.nextMembers read s = .ok (result, rest)) :
    rest.length < s.length := by
  fun_induction nextMembers value read s with
  | case1 => cases h
  | case2 _ _ _ hs =>
    cases h
    exact length_lt_of_skipSpaces hs
  | case3 => cases h
  | case4 _ _ _ _ _ _ _ _ hskip hshrink ih =>
    have := ih h
    omega
  | case5 => cases h

theorem length_lt_of_members {value : Reader α} {result : List (String × α)} {s rest : List Char}
    (h : value.members s = .ok (result, rest)) : rest.length < s.length := by
  have hskip := length_skipSpaces_le s
  unfold members at h
  split at h
  · cases h
  · next c tail heq =>
    split at h
    · cases h
      exact length_lt_of_skipSpaces heq
    · rw [heq] at hskip
      obtain ⟨⟨m, after⟩, hmember, h⟩ := bind_eq_ok_iff.1 h
      have := length_lt_of_member hmember
      have := length_lt_of_nextMembers h
      omega

theorem nodup_keys_of_nextMembers {value : Reader α} {read result : List (String × α)}
    {s rest : List Char} (h : value.nextMembers read s = .ok (result, rest))
    (hread : (keys read).Nodup) : (keys result).Nodup := by
  fun_induction nextMembers value read s with
  | case1 => cases h
  | case2 => cases h; exact hread
  | case3 => cases h
  | case4 _ _ _ _ _ _ _ _ _ _ ih => exact ih h (nodup_keys_put hread)
  | case5 => cases h

/-- No key is read twice. -/
theorem nodup_keys_of_members {value : Reader α} {result : List (String × α)}
    {s rest : List Char} (h : value.members s = .ok (result, rest)) : (keys result).Nodup := by
  unfold members at h
  split at h
  · cases h
  · split at h
    · cases h
      simp [keys]
    · obtain ⟨⟨m, after⟩, -, h⟩ := bind_eq_ok_iff.1 h
      exact nodup_keys_of_nextMembers h (by simp [keys])

/-- A value whose arrays and objects are read by `inner`; without it there is no room for any. -/
def runValue (inner : Option (Reader Value)) (s : List Char) :
    Except Failure (Value × List Char) :=
  match skipSpaces s with
  | [] => .error .ended
  | 'n' :: rest => (readWord ['u', 'l', 'l'] rest).map fun s => (.null, s)
  | 't' :: rest => (readWord ['r', 'u', 'e'] rest).map fun s => (.bool true, s)
  | 'f' :: rest => (readWord ['a', 'l', 's', 'e'] rest).map fun s => (.bool false, s)
  | '"' :: rest => (readTextRest [] rest).map fun (text, s) => (.text text, s)
  | '[' :: rest =>
    match inner with
    | none => .error .malformed
    | some item => (item.items rest).map fun (values, s) => (.array values, s)
  | '\x7b' :: rest =>
    match inner with
    | none => .error .malformed
    | some value => (value.members rest).map fun (values, s) => (.object values, s)
  | c :: rest =>
    if c = '-' ∨ c.isDigit then (readNumber (c :: rest)).map fun (n, s) => (.number n, s)
    else .error .malformed

theorem length_lt_of_runValue {inner : Option (Reader Value)} {s rest : List Char} {v : Value}
    (h : runValue inner s = .ok (v, rest)) : rest.length < s.length := by
  have hskip := length_skipSpaces_le s
  unfold runValue at h
  split at h
  · cases h
  · next heq =>
    obtain ⟨_, hread, h⟩ := map_eq_ok_iff.1 h
    cases h
    have := length_le_of_readWord hread
    rw [heq, List.length_cons] at hskip
    omega
  · next heq =>
    obtain ⟨_, hread, h⟩ := map_eq_ok_iff.1 h
    cases h
    have := length_le_of_readWord hread
    rw [heq, List.length_cons] at hskip
    omega
  · next heq =>
    obtain ⟨_, hread, h⟩ := map_eq_ok_iff.1 h
    cases h
    have := length_le_of_readWord hread
    rw [heq, List.length_cons] at hskip
    omega
  · next heq =>
    obtain ⟨_, hread, h⟩ := map_eq_ok_iff.1 h
    cases h
    have := length_lt_of_readTextRest hread
    rw [heq, List.length_cons] at hskip
    omega
  · next heq =>
    split at h
    · cases h
    · obtain ⟨_, hread, h⟩ := map_eq_ok_iff.1 h
      cases h
      have := length_lt_of_items hread
      rw [heq, List.length_cons] at hskip
      omega
  · next heq =>
    split at h
    · cases h
    · obtain ⟨_, hread, h⟩ := map_eq_ok_iff.1 h
      cases h
      have := length_lt_of_members hread
      rw [heq, List.length_cons] at hskip
      omega
  · next heq =>
    split at h
    · obtain ⟨_, hread, h⟩ := map_eq_ok_iff.1 h
      cases h
      have := length_lt_of_readNumber hread
      rw [heq] at hskip
      omega
    · cases h

/-- A value in which at most `room` arrays and objects are open at once. -/
def value : (room : Nat) → Reader Value
  | 0 => ⟨runValue none, length_lt_of_runValue⟩
  | room + 1 => ⟨runValue (some (value room)), length_lt_of_runValue⟩

end Reader

/-- How many arrays and objects may be open at once in a text. -/
def maxDepth : Nat := 127

def Value.read (s : List Char) : Except Failure Value :=
  ((Reader.value maxDepth).run s).bind fun (v, rest) =>
  if skipSpaces rest = [] then .ok v else .error .malformed

end DegreeAudit.Json
