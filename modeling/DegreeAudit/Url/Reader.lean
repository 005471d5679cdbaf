import DegreeAudit.Url.Basic
import DegreeAudit.Url.DomainName

/-!
# Reading addresses

An address is read from its front: scheme, user and host, path, query, fragment. What is wrong with
it is one of a few things, and the first that is met is told. `ofText` reads an address that stands
alone, `join` one that may be written relative to another. Blanks and control characters at the ends
and line breaks and tabs anywhere do not count.
-/

namespace DegreeAudit.Url

/-- What is wrong with the text of an address. -/
inductive Fault where
  | noBase
  | noJoining
  | emptyHost
  | port
  | domain
  | domainCharacter
  | fourBytes
  | sixteenBytes
deriving DecidableEq, Repr

def Fault.message : Fault → String
  | noBase => "relative URL without a base"
  | noJoining => "relative URL with a cannot-be-a-base base"
  | emptyHost => "empty host"
  | port => "invalid port number"
  | domain => "invalid international domain name"
  | domainCharacter => "invalid domain character"
  | fourBytes => "invalid IPv4 address"
  | sixteenBytes => "invalid IPv6 address"

/-- Whether the character does not count at the ends of an address. -/
def isEdge (c : Char) : Bool := c.toNat ≤ 0x20

/-- Whether the character does not count anywhere in an address. -/
def isBreak (c : Char) : Bool := c == '\t' || c == '\n' || c == '\r'

/-- The characters of an address that count. -/
def significant (s : List Char) : List Char :=
  (((s.dropWhile isEdge).reverse.dropWhile isEdge).reverse).filter (!isBreak ·)

/-- Whether the character can stand in a scheme after its first letter. -/
def isSchemeChar (c : Char) : Bool := c.isAlphanum || c == '+' || c == '-' || c == '.'

def splitScheme? (s : List Char) : Option (String × List Char) :=
  match s with
  | c :: _ =>
    if c.isAlpha then
      match s.dropWhile isSchemeChar with
      | ':' :: rest => some (String.ofList ((s.takeWhile isSchemeChar).map Char.toLower), rest)
      | _ => none
    else none
  | [] => none

def isSlash (special : Bool) (c : Char) : Bool := c == '/' || (special && c == '\\')

/-- Whether the character ends the part of an address in which user and host stand. -/
def endsAuthority (special : Bool) (c : Char) : Bool := isSlash special c || c == '?' || c == '#'

def endsPath (c : Char) : Bool := c == '?' || c == '#'

/-- The text before the last mark of user information and the text after it. -/
def splitLastAt (s : List Char) : Option (List Char × List Char) :=
  let after := (s.reverse.takeWhile (· != '@')).reverse
  if after.length = s.length then none else some (s.take (s.length - after.length - 1), after)

/-- A user name and, after a colon, a password that is not empty. -/
def splitUser (s : List Char) : String × Option String :=
  let encode (s : List Char) := String.ofList (Percent.encode Percent.inUserInfo s)
  let password := (s.dropWhile (· != ':')).tail
  (encode (s.takeWhile (· != ':')), if password.isEmpty then none else some (encode password))

/-- The text of a host: it ends at a colon outside brackets. -/
def hostText (inBrackets : Bool) : List Char → List Char
  | [] => []
  | c :: rest =>
    if c = ':' ∧ !inBrackets then []
    else c :: hostText (if c = '[' then true else if c = ']' then false else inBrackets) rest

def bracketed (s : List Char) : Except Fault Host :=
  if s.getLast? = some ']' ∧ 1 < s.length then
    ((Host.six? (s.drop 1).dropLast).map Host.six).elim (.error .sixteenBytes) .ok
  else .error .sixteenBytes

/-- Whether the character cannot stand in the host of a scheme of no special kind. -/
def isForbiddenInHost (c : Char) : Bool :=
  ['\x00', '\t', '\n', '\r', ' ', '#', '/', ':', '<', '>', '?', '@', '[', '\\', ']', '^',
    '|'].contains c

def readHost (special : Bool) (s : List Char) : Except Fault Host :=
  if s.head? = some '[' then bracketed s
  else if special then
    match DomainName.ofEncoded? s with
    | none => .error .domain
    | some [] => .error .emptyHost
    | some name =>
      if Host.endsInNumber name then (Host.four? name).elim (.error .fourBytes) (.ok ∘ Host.four)
      else .ok (.name (String.ofList name))
  else if s.any isForbiddenInHost then .error .domainCharacter
  else .ok (.name (String.ofList (Percent.encode Percent.isControl s)))

/-- The port after a host, unless it is the scheme's own, and what follows it. -/
def readPort (scheme : String) (s : List Char) : Except Fault (Option Nat × List Char) :=
  match s with
  | ':' :: s =>
    let digits := s.takeWhile Char.isDigit
    let rest := s.dropWhile Char.isDigit
    let port := digits.foldl (fun n c => 10 * n + (c.toNat - '0'.toNat)) 0
    if 65535 < port ∨ rest.head?.any (!endsAuthority true ·) then .error .port
    else if digits.isEmpty ∨ some port = defaultPort? scheme then .ok (none, rest)
    else .ok (some port, rest)
  | s => .ok (none, s)

def readAuthority (scheme : String) (s : List Char) : Except Fault (Authority × List Char) :=
  let special := isSpecialScheme scheme
  let within := s.takeWhile (!endsAuthority special ·)
  let ((username, password), afterUser, marked) := match splitLastAt within with
    | none => (("", none), s, false)
    | some (user, _) => (splitUser user, s.drop (user.length + 1), user.isEmpty)
  if marked ∧ afterUser.head?.any (endsAuthority special) then .error .emptyHost
  else
    let text := hostText false (afterUser.takeWhile (!endsAuthority special ·))
    if special ∧ text.isEmpty then .error .emptyHost
    else
      (readHost special text).bind fun host =>
      let rest := afterUser.drop text.length
      if text.isEmpty ∧ rest.head? = some ':' then .error .emptyHost
      else
        (readPort scheme rest).bind fun (port, rest) =>
        if text.isEmpty ∧ (password.isSome ∨ !username.isEmpty) then .error .emptyHost
        else .ok (⟨username, password, host, port⟩, rest)

def isSingleDot (segment : String) : Bool := [".", "%2e"].contains segment.toLower

def isDoubleDot (segment : String) : Bool :=
  ["..", ".%2e", "%2e.", "%2e%2e"].contains segment.toLower

def isDrive (segment : String) : Bool :=
  match segment.toList with
  | [letter, ':'] => letter.isAlpha
  | _ => false

/-- A drive letter with either mark, as it is written. -/
def drive? (segment : String) : Option String :=
  match segment.toList with
  | [letter, mark] =>
    if letter.isAlpha ∧ (mark = ':' ∨ mark = '|') then some (String.ofList [letter, ':']) else none
  | _ => none

/-- The segments without the last one; a drive letter that stands first stays. -/
def shorten (file : Bool) (path : List String) : List String :=
  match path with
  | [only] => if file && isDrive only then [only] else []
  | path => path.dropLast

/-- Adds segments to a path one by one; dots move about in it instead of being added. -/
def addSegments (file : Bool) (path : List String) : List String → List String
  | [] => path
  | segment :: rest =>
    let last := rest.isEmpty
    let next :=
      if isDoubleDot segment then
        if last then shorten file path ++ [""] else shorten file path
      else if isSingleDot segment then if last then path ++ [""] else path
      else
        match file && path.isEmpty, drive? segment with
        | true, some drive => path ++ [drive]
        | _, _ => path ++ [segment]
    addSegments file next rest

def readSegments (special : Bool) (s : List Char) : List String :=
  (s.splitOnP (isSlash special)).map fun part => String.ofList (Percent.encode Percent.inPath part)

/-- The path that results from writing a text after a path. -/
def extendPath (scheme : String) (path : List String) (s : List Char) : List String :=
  let file := scheme == "file"
  let extended := addSegments file path (readSegments (isSpecialScheme scheme) s)
  if file then
    match extended.dropWhile (· == "") with
    | [] => [""]
    | rest => rest
  else extended

def readEnding (scheme : String) (s : List Char) : Option String × Option String :=
  let encodeFragment (s : List Char) := String.ofList (Percent.encode Percent.inFragment s)
  let afterHash (s : List Char) : Option String :=
    match s with
    | '#' :: rest => some (encodeFragment rest)
    | _ => none
  match s with
  | '?' :: rest =>
    let query := rest.takeWhile (· != '#')
    (some (String.ofList (Percent.encode (Percent.inQuery (isSpecialScheme scheme)) query)),
      afterHash (rest.dropWhile (· != '#')))
  | s => (none, afterHash s)

/-- The address with a path written after a given one, and the query and fragment that follow. -/
def withPath (scheme : String) (authority : Option Authority) (path : List String)
    (s : List Char) : Url :=
  let (query, fragment) := readEnding scheme (s.dropWhile (!endsPath ·))
  let path := extendPath scheme path (s.takeWhile (!endsPath ·))
  ⟨scheme, authority, .segments path, query, fragment⟩

def readAfterSlashes (scheme : String) (s : List Char) : Except Fault Url :=
  (readAuthority scheme s).map fun (authority, rest) =>
  let special := isSpecialScheme scheme
  match rest with
  | c :: tail =>
    if isSlash special c then withPath scheme (some authority) [] tail
    else if special ∨ !endsPath c then withPath scheme (some authority) [] rest
    else
      let (query, fragment) := readEnding scheme rest
      ⟨scheme, some authority, .segments [], query, fragment⟩
  | [] =>
    if special then withPath scheme (some authority) [] []
    else ⟨scheme, some authority, .segments [], none, none⟩

/-- The host of an address of a file: none is shown for the machine itself. -/
def readFileHost (s : List Char) : Except Fault (Option Host) :=
  if s.isEmpty then .ok none
  else (readHost true s).map fun host => if host = .name "localhost" then none else some host

def fileAuthority (host : Option Host) : Authority := ⟨"", none, host.getD (.name ""), none⟩

def beginsWithDrive (s : List Char) : Bool :=
  let segment := s.takeWhile fun c => !(isSlash true c || endsPath c)
  (drive? (String.ofList segment)).isSome

/-- The address of a file after its scheme, or relative to another. -/
def readFile (base : Option Url) (s : List Char) : Except Fault Url :=
  match s with
  | c :: rest =>
    if isSlash true c then
      match rest with
      | c' :: rest' =>
        if isSlash true c' then
          let text := rest'.takeWhile (!endsAuthority true ·)
          let after := rest'.drop text.length
          if (drive? (String.ofList text)).isSome then
            .ok (withPath "file" (some (fileAuthority none)) [] rest')
          else
            (readFileHost text).map fun host =>
            let path := if after.head?.any (isSlash true) then after.tail else after
            let host := if beginsWithDrive path then none else host
            withPath "file" (some (fileAuthority host)) [] path
        else .ok (fromRoot base rest)
      | [] => .ok (fromRoot base rest)
    else .ok (relative base s)
  | [] => .ok (relative base s)
where
  /-- The address with a path from the root. -/
  fromRoot (base : Option Url) (s : List Char) : Url :=
    let host := if beginsWithDrive s then none else (base.bind host?)
    withPath "file" (some (fileAuthority host)) [] s
  /-- The address with a path, query or fragment of its own, the rest taken from the other. -/
  relative (base : Option Url) (s : List Char) : Url :=
    match base with
    | none => withPath "file" (some (fileAuthority none)) [] s
    | some base =>
      let path := match base.path with
        | .segments list => list
        | .whole _ => []
      match s with
      | [] => { base with fragment := none }
      | '?' :: _ =>
        let (query, fragment) := readEnding "file" s
        { base with query, fragment }
      | '#' :: _ => { base with fragment := (readEnding "file" s).2 }
      | s =>
        if beginsWithDrive s then withPath "file" (some (fileAuthority none)) [] s
        else withPath "file" base.authority (shorten true path) s

/-- An address of a scheme of no special kind after its colon. -/
def readOther (scheme : String) (s : List Char) : Except Fault Url :=
  match s with
  | '/' :: '/' :: rest => readAfterSlashes scheme rest
  | '/' :: rest => .ok (withPath scheme none [] rest)
  | s =>
    let (query, fragment) := readEnding scheme (s.dropWhile (!endsPath ·))
    let text := String.ofList (Percent.encode Percent.isControl (s.takeWhile (!endsPath ·)))
    .ok ⟨scheme, none, .whole text, query, fragment⟩

/-- An address written without its scheme, relative to one whose path has segments. -/
def readRelative (base : Url) (path : List String) (s : List Char) : Except Fault Url :=
  let special := isSpecialScheme base.scheme
  match s with
  | [] => .ok { base with fragment := none }
  | '?' :: _ =>
    let (query, fragment) := readEnding base.scheme s
    .ok { base with query, fragment }
  | '#' :: _ => .ok { base with fragment := (readEnding base.scheme s).2 }
  | c :: rest =>
    if isSlash special c then
      match rest with
      | c' :: rest' =>
        if isSlash special c' then
          readAfterSlashes base.scheme (if special then rest'.dropWhile (isSlash true) else rest')
        else .ok (withPath base.scheme base.authority [] rest)
      | [] => .ok (withPath base.scheme base.authority [] rest)
    else .ok (withPath base.scheme base.authority path.dropLast s)

def readWith (base : Option Url) (s : List Char) : Except Fault Url :=
  match splitScheme? s with
  | some (scheme, rest) =>
    if scheme = "file" then readFile (base.filter (·.scheme == "file")) rest
    else if isSpecialScheme scheme then
      let slashes := rest.takeWhile (isSlash true)
      match base with
      | some (base : Url) =>
        match base.path with
        | .segments path =>
          if slashes.length < 2 ∧ base.scheme = scheme then readRelative base path rest
          else readAfterSlashes scheme (rest.drop slashes.length)
        | .whole _ => readAfterSlashes scheme (rest.drop slashes.length)
      | none => readAfterSlashes scheme (rest.drop slashes.length)
    else readOther scheme rest
  | none =>
    match base with
    | none => .error .noBase
    | some base =>
      match base.path with
      | .whole _ =>
        if s.head? = some '#' then .ok { base with fragment := (readEnding base.scheme s).2 }
        else .error .noJoining
      | .segments path =>
        if base.scheme = "file" then readFile (some base) s else readRelative base path s

def ofText (text : String) : Except Fault Url := readWith none (significant text.toList)

/-- The address that a text writes when it stands on the page of another. -/
def join (base : Url) (text : String) : Except Fault Url :=
  readWith (some base) (significant text.toList)

end DegreeAudit.Url
