import DegreeAudit.Html.Doctype
import DegreeAudit.Html.Token

/-!
# Lexemes of a page

A page is cut into lexemes from the front: a tag, a comment, a document type, a character reference
or a single character. How the next one is cut depends on the element that is open: markup is
recognized in most of the page, only references in titles and text areas, nothing in style sheets
and frames, and scripts have rules of their own for comments that hold script tags. Inside these
elements only the end tag of the element itself is a tag.
-/

namespace DegreeAudit.Html

/-- Where in a script's nested comment the reading stands; the number counts hyphens just read, up
to two. -/
inductive ScriptPlace where
  | plain
  | commented (hyphens : Nat)
  | nested (hyphens : Nat)
deriving DecidableEq, Repr

/-- What is recognized in the text of the element that is open. -/
inductive TextMode where
  | markup
  | references (element : String)
  | raw (element : String)
  | script (place : ScriptPlace)
  | plain
deriving DecidableEq, Repr

/-- The tokens that a character and the text after it begin with, the mode they leave behind and the
text after them. -/
structure Lexeme (tail : List Char) where
  tokens : List Token
  mode : TextMode
  rest : List Char
  rest_le : rest.length ≤ tail.length

inductive CommentPlace where
  | opening
  | openingHyphen
  | inside
  | hyphen
  | hyphens
  | bang
deriving DecidableEq, Repr

def skipComment (place : CommentPlace) : List Char → List Char
  | [] => []
  | c :: rest =>
    match place with
    | .opening =>
      if c = '>' then rest
      else skipComment (if c = '-' then .openingHyphen else .inside) rest
    | .openingHyphen =>
      if c = '>' then rest else skipComment (if c = '-' then .hyphens else .inside) rest
    | .inside => skipComment (if c = '-' then .hyphen else .inside) rest
    | .hyphen => skipComment (if c = '-' then .hyphens else .inside) rest
    | .hyphens =>
      if c = '>' then rest
      else skipComment (if c = '-' then .hyphens else if c = '!' then .bang else .inside) rest
    | .bang => if c = '>' then rest else skipComment (if c = '-' then .hyphen else .inside) rest

theorem length_skipComment_le (place : CommentPlace) (s : List Char) :
    (skipComment place s).length ≤ s.length := by
  induction s generalizing place with
  | nil => simp [skipComment]
  | cons c rest ih => cases place <;> grind [skipComment, List.length_cons]

def skipToBracket (s : List Char) : List Char := (s.dropWhile (· != '>')).tail

theorem length_skipToBracket_le (s : List Char) : (skipToBracket s).length ≤ s.length := by
  have := (List.dropWhile_suffix (l := s) (· != '>')).length_le
  simp only [skipToBracket, List.length_tail]
  omega

/-- The text before the end of a character data section and the text after it. -/
def splitSection : List Char → List Char × List Char
  | [] => ([], [])
  | c :: rest =>
    match c, rest with
    | ']', ']' :: '>' :: after => ([], after)
    | _, _ => (c :: (splitSection rest).1, (splitSection rest).2)

theorem length_splitSection_le (s : List Char) : (splitSection s).2.length ≤ s.length := by
  induction s with
  | nil => simp [splitSection]
  | cons c rest ih =>
    rw [splitSection.eq_def]
    grind [List.length_cons]

/-- Whether a text begins with a word, the case of ASCII letters apart. -/
def beginsWith (word : List Char) (s : List Char) : Bool :=
  (s.take word.length).map Char.toLower == word

def single (mode : TextMode) (c : Char) (tail : List Char) : Lexeme tail :=
  ⟨[.character c], mode, tail, Nat.le_refl _⟩

def referenceLexeme (mode : TextMode) (tail : List Char) : Lexeme tail :=
  let found := readReference false tail
  ⟨found.1.map .character, mode, found.2, length_readReference_le false tail⟩

/-- The lexeme that begins with an opening bracket and an exclamation mark. -/
def declarationLexeme (foreign : Bool) (tail : List Char) : Lexeme tail :=
  if tail.take 2 = ['-', '-'] then
    ⟨[.comment], .markup, skipComment .opening (tail.drop 2), by
      have := length_skipComment_le .opening (tail.drop 2)
      simp only [List.length_drop] at this
      omega⟩
  else if beginsWith ['d', 'o', 'c', 't', 'y', 'p', 'e'] tail then
    let body := (tail.drop 7).takeWhile (· != '>')
    let closed := (tail.drop 7).any (· == '>')
    let quirky := !closed || (Doctype.declaration body).quirky
    ⟨[.doctype quirky], .markup, skipToBracket (tail.drop 7), by
      have := length_skipToBracket_le (tail.drop 7)
      simp only [List.length_drop] at this
      omega⟩
  else if foreign && tail.take 7 == ['[', 'C', 'D', 'A', 'T', 'A', '['] then
    let found := splitSection (tail.drop 7)
    ⟨found.1.map .character, .markup, found.2, by
      have := length_splitSection_le (tail.drop 7)
      simp only [List.length_drop] at this
      show (splitSection (tail.drop 7)).2.length ≤ tail.length
      omega⟩
  else ⟨[.comment], .markup, skipToBracket tail, length_skipToBracket_le tail⟩

def endTagLexeme (tail : List Char) : Lexeme tail :=
  match tail with
  | [] => ⟨[.character '<', .character '/'], .markup, [], Nat.le_refl _⟩
  | c :: rest =>
    if c.isAlpha then
      match h : readTag .name ⟨[], [], [], []⟩ (c :: rest) with
      | some (tag, after) =>
        ⟨[.endTag tag.name], .markup, after, Nat.le_of_lt (length_lt_of_readTag h)⟩
      | none => ⟨[], .markup, [], Nat.zero_le _⟩
    else if c = '>' then ⟨[], .markup, rest, by simp⟩
    else ⟨[.comment], .markup, skipToBracket (c :: rest), length_skipToBracket_le _⟩

def bracketLexeme (foreign : Bool) (tail : List Char) : Lexeme tail :=
  match tail with
  | [] => single .markup '<' []
  | c :: rest =>
    if c = '!' then
      let found := declarationLexeme foreign rest
      ⟨found.tokens, found.mode, found.rest, Nat.le_succ_of_le found.rest_le⟩
    else if c = '/' then
      let found := endTagLexeme rest
      ⟨found.tokens, found.mode, found.rest, Nat.le_succ_of_le found.rest_le⟩
    else if c = '?' then
      ⟨[.comment], .markup, skipToBracket (c :: rest), length_skipToBracket_le _⟩
    else if c.isAlpha then
      match h : readTag .name ⟨[], [], [], []⟩ (c :: rest) with
      | some (tag, after) =>
        ⟨[.startTag tag], .markup, after, Nat.le_of_lt (length_lt_of_readTag h)⟩
      | none => ⟨[], .markup, [], Nat.zero_le _⟩
    else single .markup '<' (c :: rest)

def endsTagName (c : Char) : Bool := isTagSpace c || c == '/' || c == '>'

/-- Whether the text after an opening bracket is the end tag of an element. -/
def closesElement (element : String) (tail : List Char) : Bool :=
  match tail with
  | '/' :: rest =>
    let name := element.toList
    beginsWith name rest && (rest.drop name.length).head?.any endsTagName
  | _ => false

/-- An opening bracket inside an element whose text holds no tags but its own end tag. -/
def closingLexeme (element : String) (mode : TextMode) (tail : List Char) : Lexeme tail :=
  if closesElement element tail then
    match tail with
    | [] => single mode '<' []
    | _ :: rest =>
      let found := endTagLexeme rest
      ⟨found.tokens, found.mode, found.rest, Nat.le_succ_of_le found.rest_le⟩
  else single mode '<' tail

/-- Whether a text begins with the word `script` as a whole tag name. -/
def namesScript (s : List Char) : Bool :=
  let word := s.takeWhile Char.isAlpha
  word.map Char.toLower == ['s', 'c', 'r', 'i', 'p', 't'] &&
    (s.drop word.length).head?.any endsTagName

/-- The place in a script after one more character; the text after it tells whether a comment or a
script tag begins. -/
def ScriptPlace.after (place : ScriptPlace) (c : Char) (tail : List Char) : ScriptPlace :=
  match place with
  | plain => plain
  | commented hyphens =>
    if c = '-' then commented (min 2 (hyphens + 1))
    else if c = '>' ∧ hyphens = 2 then plain
    else if c = '<' ∧ namesScript tail then nested 0
    else commented 0
  | nested hyphens =>
    if c = '-' then nested (min 2 (hyphens + 1))
    else if c = '>' ∧ hyphens = 2 then plain
    else if c = '<' ∧ tail.head? = some '/' ∧ namesScript tail.tail then commented 0
    else nested 0

def scriptLexeme (place : ScriptPlace) (c : Char) (tail : List Char) : Lexeme tail :=
  let shown := if c = '\x00' then replacement else c
  if place = .plain ∧ c = '<' ∧ tail.take 3 = ['!', '-', '-'] then
    ⟨[.character '<', .character '!', .character '-', .character '-'],
      .script (.commented 2), tail.drop 3, by simp [List.length_drop]⟩
  else
    match place, c with
    | .nested _, _ => single (.script (place.after c tail)) shown tail
    | _, '<' => closingLexeme "script" (.script (place.after c tail)) tail
    | _, _ => single (.script (place.after c tail)) shown tail

/-- The lexeme that a character and the text after it begin with. `foreign` tells that the open
element is not one of HTML, which allows character data sections. -/
def lexeme (mode : TextMode) (foreign : Bool) (c : Char) (tail : List Char) : Lexeme tail :=
  let shown := if c = '\x00' then replacement else c
  match mode with
  | .markup =>
    if c = '&' then referenceLexeme .markup tail
    else if c = '<' then bracketLexeme foreign tail
    else single .markup c tail
  | .references element =>
    if c = '&' then referenceLexeme mode tail
    else if c = '<' then closingLexeme element mode tail
    else single mode shown tail
  | .raw element => if c = '<' then closingLexeme element mode tail else single mode shown tail
  | .script place => scriptLexeme place c tail
  | .plain => single .plain shown tail

end DegreeAudit.Html
