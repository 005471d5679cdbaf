import DegreeAudit.Html.NamedCharacters

/-!
# Character references

What an ampersand and the characters after it stand for. A number stands for the character with that
code point, with the replacements the standard makes for numbers that are no characters or that old
pages meant in the Windows encoding. Of several names the longest is taken; inside an attribute a
name without its semicolon does not count when a letter, a digit or an equals sign follows, so that
addresses with parameters survive. An ampersand that begins no reference stands for itself.
-/

namespace DegreeAudit.Html

def isNameChar (c : Char) : Bool := c.isAlphanum

/-- The characters that the numbers from 0x80 to 0x9F stand for. -/
def windowsCodes : List Nat := [
  0x20AC, 0x81, 0x201A, 0x192, 0x201E, 0x2026, 0x2020, 0x2021, 0x2C6, 0x2030, 0x160, 0x2039,
  0x152, 0x8D, 0x17D, 0x8F, 0x90, 0x2018, 0x2019, 0x201C, 0x201D, 0x2022, 0x2013, 0x2014, 0x2DC,
  0x2122, 0x161, 0x203A, 0x153, 0x9D, 0x17E, 0x178]

def replacement : Char := '\uFFFD'

def codeChar (n : Nat) : Char :=
  if n = 0 ∨ 0x10FFFF < n ∨ (0xD800 ≤ n ∧ n ≤ 0xDFFF) then replacement
  else if 0x80 ≤ n ∧ n ≤ 0x9F then Char.ofNat (windowsCodes.getD (n - 0x80) n)
  else Char.ofNat n

/-- The text without the semicolon it may begin with. -/
def dropSemicolon : List Char → List Char
  | ';' :: rest => rest
  | s => s

/-- A reference by number, after `&#`: digits of a base and a semicolon that may be missing. -/
def numericReference (isDigit : Char → Bool) (base : Nat) (s : List Char) :
    Option (Char × List Char) :=
  let digits := s.takeWhile isDigit
  if digits.isEmpty then none
  else
    let value := digits.foldl (fun n c => base * n + (Text.hexValue? c).getD 0) 0
    some (codeChar value, dropSemicolon (s.dropWhile isDigit))

def isHexDigit (c : Char) : Bool := (Text.hexValue? c).isSome

/-- The longest beginning of a word, of at most `length` letters, that is a name without a
semicolon. -/
def shortName? (word : List Char) : (length : Nat) → Option (List Char × Nat)
  | 0 => none
  | length + 1 =>
    match shortNames[String.ofList (word.take (length + 1))]? with
    | some characters =>
      if length + 1 ≤ word.length then some (characters, length + 1) else shortName? word length
    | none => shortName? word length

/-- Whether a name without its semicolon counts before these characters. -/
def endsShortName (inAttribute : Bool) : List Char → Bool
  | c :: _ => !(inAttribute && (c == '=' || isNameChar c))
  | [] => true

def namedReference (inAttribute : Bool) (s : List Char) : Option (List Char × List Char) :=
  let word := s.takeWhile isNameChar
  let rest := s.dropWhile isNameChar
  let short := (shortName? word maxShortName).bind fun (found : List Char × Nat) =>
    if endsShortName inAttribute (s.drop found.2) then some (found.1, s.drop found.2) else none
  match rest, namedCharacters[String.ofList word]? with
  | ';' :: rest, some characters => some (characters, rest)
  | _, _ => short

/-- The characters that a reference stands for, after its ampersand, and what follows it. -/
def readReference (inAttribute : Bool) (s : List Char) : List Char × List Char :=
  let found : Option (List Char × List Char) := match s with
    | '#' :: 'x' :: digits | '#' :: 'X' :: digits =>
      (numericReference isHexDigit 16 digits).map fun (c, rest) => ([c], rest)
    | '#' :: digits => (numericReference Char.isDigit 10 digits).map fun (c, rest) => ([c], rest)
    | s => namedReference inAttribute s
  found.getD (['&'], s)

theorem length_dropSemicolon_le (s : List Char) : (dropSemicolon s).length ≤ s.length := by
  unfold dropSemicolon
  split <;> simp

theorem length_le_of_numericReference {isDigit : Char → Bool} {base : Nat} {s rest : List Char}
    {c : Char} (h : numericReference isDigit base s = some (c, rest)) :
    rest.length ≤ s.length := by
  unfold numericReference at h
  dsimp only at h
  split at h
  · cases h
  · simp only [Option.some.injEq, Prod.mk.injEq] at h
    rw [← h.2]
    exact Nat.le_trans (length_dropSemicolon_le _) (List.dropWhile_suffix isDigit).length_le

theorem length_le_of_namedReference {inAttribute : Bool} {s characters rest : List Char}
    (h : namedReference inAttribute s = some (characters, rest)) : rest.length ≤ s.length := by
  have hdrop := (List.dropWhile_suffix (l := s) isNameChar).length_le
  unfold namedReference at h
  dsimp only at h
  split at h
  · next heq _ =>
    cases h
    rw [heq, List.length_cons] at hdrop
    omega
  · obtain ⟨⟨found, length⟩, -, h⟩ := Option.bind_eq_some_iff.1 h
    dsimp only at h
    split at h
    · simp only [Option.some.injEq, Prod.mk.injEq] at h
      rw [← h.2, List.length_drop]
      omega
    · cases h

/-- A reference does not lengthen what follows. -/
theorem length_readReference_le (inAttribute : Bool) (s : List Char) :
    (readReference inAttribute s).2.length ≤ s.length := by
  unfold readReference
  dsimp only
  split
  · cases h : numericReference isHexDigit 16 _ with
    | none => simp
    | some found =>
      obtain ⟨c, rest⟩ := found
      have := length_le_of_numericReference h
      simp only [Option.map_some, Option.getD_some, List.length_cons]
      omega
  · cases h : numericReference isHexDigit 16 _ with
    | none => simp
    | some found =>
      obtain ⟨c, rest⟩ := found
      have := length_le_of_numericReference h
      simp only [Option.map_some, Option.getD_some, List.length_cons]
      omega
  · cases h : numericReference Char.isDigit 10 _ with
    | none => simp
    | some found =>
      obtain ⟨c, rest⟩ := found
      have := length_le_of_numericReference h
      simp only [Option.map_some, Option.getD_some, List.length_cons]
      omega
  · cases h : namedReference inAttribute s with
    | none => simp
    | some found =>
      obtain ⟨characters, rest⟩ := found
      simpa using length_le_of_namedReference h

/-- An attribute's value with every reference replaced by what it stands for. -/
def decodeAttribute (s : List Char) : List Char :=
  match s with
  | [] => []
  | '&' :: rest =>
    let found := readReference true rest
    have := length_readReference_le true rest
    found.1 ++ decodeAttribute found.2
  | c :: rest => c :: decodeAttribute rest
termination_by s.length
decreasing_by all_goals (simp only [List.length_cons]; omega)

end DegreeAudit.Html
