/-!
# Blank characters

The characters with the Unicode property White_Space, which decide where a word begins and ends. A
zero width space is not among them, a no-break space is. Trimming removes blanks from both ends of a
text and touches nothing between.
-/

namespace DegreeAudit.Text

def isBlank (c : Char) : Bool :=
  let n := c.toNat
  (9 ≤ n && n ≤ 13) || n == 0x20 || n == 0x85 || n == 0xA0 || n == 0x1680 ||
    (0x2000 ≤ n && n ≤ 0x200A) || n == 0x2028 || n == 0x2029 || n == 0x202F || n == 0x205F ||
    n == 0x3000

def trimLeft (s : List Char) : List Char := s.dropWhile isBlank

def trimRight (s : List Char) : List Char := (s.reverse.dropWhile isBlank).reverse

def trim (s : List Char) : List Char := trimRight (trimLeft s)

/-- The longest stretches of characters that are not blank, in order. -/
def words (s : List Char) : List (List Char) :=
  (s.splitBy fun a b => isBlank a == isBlank b).filter fun run => run.any (!isBlank ·)

def joinSpaced (pieces : List (List Char)) : List Char := [' '].intercalate pieces

end DegreeAudit.Text
