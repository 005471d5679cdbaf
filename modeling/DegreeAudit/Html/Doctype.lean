/-!
# Document types

A document type declaration matters only for whether the page is laid out by the old rules: it is
when the declaration is missing, broken off, misspelled or names one of the types of the early web.
-/

namespace DegreeAudit.Html.Doctype

/-- Whether the character is a blank between the parts of a declaration. -/
def isSpace (c : Char) : Bool := c == ' ' || c == '\t' || c == '\n' || c == '\x0c'

def lower (s : List Char) : List Char := s.map Char.toLower

def skipBlanks (s : List Char) : List Char := s.dropWhile isSpace

/-- The name and identifiers of a declaration; `broken` asks for the old rules by itself. -/
structure Declaration where
  name : Option String
  publicId : Option String
  systemId : Option String
  broken : Bool

/-- A text in quotes of either kind, and what follows it; without a closing quote the text runs to
the end. -/
def quotedText? : List Char → Option (List Char × Option (List Char))
  | c :: rest =>
    if c = '"' ∨ c = '\'' then
      let text := rest.takeWhile (· != c)
      match rest.dropWhile (· != c) with
      | [] => some (text, none)
      | _ :: after => some (text, some after)
    else none
  | [] => none

/-- An identifier as it is compared: in lower case. -/
def identifier (s : List Char) : String := String.ofList (lower s)

/-- The declaration that is left when a system identifier should follow. -/
def systemPart (name : String) (publicId : Option String) (s : List Char) : Declaration :=
  match quotedText? s with
  | some (text, some _) => ⟨some name, publicId, some (identifier text), false⟩
  | some (text, none) => ⟨some name, publicId, some (identifier text), true⟩
  | none => ⟨some name, publicId, none, true⟩

/-- The declaration that is left when a public identifier should follow. -/
def publicPart (name : String) (s : List Char) : Declaration :=
  match quotedText? s with
  | some (text, some rest) =>
    match skipBlanks rest with
    | [] => ⟨some name, some (identifier text), none, false⟩
    | rest => systemPart name (some (identifier text)) rest
  | some (text, none) => ⟨some name, some (identifier text), none, true⟩
  | none => ⟨some name, none, none, true⟩

/-- The declaration made by the text after `<!doctype` and before the closing bracket. -/
def declaration (s : List Char) : Declaration :=
  let s := skipBlanks s
  let word := s.takeWhile (!isSpace ·)
  let name := String.ofList (lower word)
  let rest := skipBlanks (s.dropWhile (!isSpace ·))
  if word.isEmpty then ⟨none, none, none, true⟩
  else if rest.isEmpty then ⟨some name, none, none, false⟩
  else
    let keyword := String.ofList (lower (rest.take 6))
    if keyword = "public" then publicPart name (skipBlanks (rest.drop 6))
    else if keyword = "system" then systemPart name none (skipBlanks (rest.drop 6))
    else ⟨some name, none, none, true⟩

/-- Public identifiers, by their beginning, of the types of the early web. -/
def oldPublicIds : List String := [
  "-//ietf//dtd html 2.0 level 1//",
  "-//ietf//dtd html 2.0 level 2//",
  "-//ietf//dtd html 2.0 strict level 1//",
  "-//ietf//dtd html 2.0 strict level 2//",
  "-//ietf//dtd html 2.0 strict//",
  "-//ietf//dtd html 2.0//",
  "-//ietf//dtd html 2.1e//",
  "-//ietf//dtd html 3.0//",
  "-//ietf//dtd html 3.2 final//",
  "-//ietf//dtd html 3.2//",
  "-//ietf//dtd html 3//",
  "-//ietf//dtd html level 0//",
  "-//ietf//dtd html level 1//",
  "-//ietf//dtd html level 2//",
  "-//ietf//dtd html level 3//",
  "-//ietf//dtd html strict level 0//",
  "-//ietf//dtd html strict level 1//",
  "-//ietf//dtd html strict level 2//",
  "-//ietf//dtd html strict level 3//",
  "-//ietf//dtd html strict//",
  "-//ietf//dtd html//",
  "-//w3c//dtd html 3 1995-03-24//",
  "-//w3c//dtd html 3.2 draft//",
  "-//w3c//dtd html 3.2 final//",
  "-//w3c//dtd html 3.2//",
  "-//w3c//dtd html 3.2s draft//",
  "-//w3c//dtd html 4.0 frameset//",
  "-//w3c//dtd html 4.0 transitional//",
  "-//w3c//dtd html experimental 19960712//",
  "-//w3c//dtd html experimental 970421//",
  "-//w3c//dtd w3 html//",
  "-//w3o//dtd w3 html 3.0//"]

/-- Public identifiers, as a whole, of the types of the early web. -/
def oldWholePublicIds : List String := [
  "-//w3o//dtd w3 html strict 3.0//en//", "-/w3c/dtd html 4.0 transitional/en", "html"]

/-- Public identifiers that mean the old rules only without a system identifier. -/
def unaccompaniedPublicIds : List String := [
  "-//w3c//dtd html 4.01 frameset//", "-//w3c//dtd html 4.01 transitional//"]

def Declaration.quirky (d : Declaration) : Bool :=
  let publicId := d.publicId.getD ""
  d.broken || d.name != some "html" ||
    oldWholePublicIds.contains publicId || oldPublicIds.any (·.isPrefixOf publicId) ||
    (d.systemId.isNone && unaccompaniedPublicIds.any (·.isPrefixOf publicId))

end DegreeAudit.Html.Doctype
