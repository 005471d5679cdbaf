/-!
# Headers

The named values that come with an answer. Names do not mind the case of their letters, and blanks
around a value do not belong to it. A media type may carry parameters; one that is not well formed
carries none.
-/

namespace DegreeAudit.Http

abbrev Headers := List (String × String)

def isPadding (c : Char) : Bool := c == ' ' || c == '\t'

def unpadded (s : List Char) : List Char :=
  ((s.dropWhile isPadding).reverse.dropWhile isPadding).reverse

namespace Headers

def getAll (headers : Headers) (name : String) : List String :=
  (headers.filter (·.1.toLower == name)).map fun header => String.ofList (unpadded header.2.toList)

def get? (headers : Headers) (name : String) : Option String := (headers.getAll name).head?

end Headers

namespace MediaType

def isTokenChar (c : Char) : Bool :=
  c.isAlphanum || "!#$%&'*+-.^_|~\x60".toList.contains c

def upToQuote : List Char → Option (List Char × List Char)
  | [] => none
  | '"' :: rest => some ([], rest)
  | '\\' :: c :: rest => (upToQuote rest).map fun found => (c :: found.1, found.2)
  | c :: rest => (upToQuote rest).map fun found => (c :: found.1, found.2)

def readValue (s : List Char) : Option (List Char × List Char) :=
  match s with
  | '"' :: rest => upToQuote rest
  | s =>
    if s.takeWhile isTokenChar = [] then none
    else some (s.takeWhile isTokenChar, s.dropWhile isTokenChar)

/-- The parameters that a text begins with, at most as many as told. -/
def readParameters (s : List Char) : (most : Nat) → Option (List (String × String))
  | 0 => none
  | most + 1 =>
    match s.dropWhile isPadding with
    | [] => some []
    | ';' :: rest =>
      let s := rest.dropWhile isPadding
      if s.isEmpty then some []
      else
        match s.takeWhile isTokenChar, s.dropWhile isTokenChar with
        | name@(_ :: _), '=' :: rest =>
          (readValue rest).bind fun (value, rest) =>
          (readParameters rest most).map fun parameters =>
          ((String.ofList name).toLower, String.ofList value) :: parameters
        | _, _ => none
    | _ => none

def parameters? (text : String) : Option (List (String × String)) :=
  let s := text.toList
  match s.takeWhile isTokenChar, s.dropWhile isTokenChar with
  | _ :: _, '/' :: rest =>
    if rest.takeWhile isTokenChar = [] then none
    else readParameters (rest.dropWhile isTokenChar) (rest.length + 1)
  | _, _ => none

def charset? (text : String) : Option String :=
  ((parameters? text).getD []).lookup "charset"

end MediaType

end DegreeAudit.Http
