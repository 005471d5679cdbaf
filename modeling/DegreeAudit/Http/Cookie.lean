import DegreeAudit.Http.Date
import DegreeAudit.Text.Blank
import DegreeAudit.Url.Basic

/-!
# Cookies

What an answer asks to be sent along with later requests. A cookie belongs to a domain, to a path
under it, perhaps to safe schemes alone, and lasts until an instant or for the whole session. A jar
holds one cookie for each name, domain and path; a request takes along those that fit its address.
-/

namespace DegreeAudit.Http

/-- A cookie; one that is for its host alone is not sent to hosts below it. -/
structure Cookie where
  name : String
  value : String
  domain : String
  hostOnly : Bool
  path : String
  secure : Bool
  expires : Option Instant
deriving DecidableEq, Repr

namespace Cookie

/-- What a cookie says of itself beside its name and value. -/
structure Attributes where
  domain : Option String
  path : Option String
  secure : Bool
  maxAge : Option Nat
  expires : Option Instant

def trimmed (s : List Char) : String := String.ofList (Text.trim s)

/-- The text before the first equals sign and the one after it, if there is one. -/
def splitPair (s : List Char) : String × Option String :=
  match s.dropWhile (· != '=') with
  | [] => (trimmed s, none)
  | _ :: value => (trimmed (s.takeWhile (· != '=')), some (trimmed value))

/-- The greatest age that is kept apart from greater ones. -/
def maxAge : Nat := 0x7FFFFFFFFFFFFFFF

/-- The seconds that an age gives: ages below zero are zero. -/
def age? (text : String) : Option Nat :=
  match text.toList with
  | '-' :: digits => if digits.all Char.isDigit then some 0 else none
  | [] => none
  | digits =>
    if digits.all Char.isDigit then
      some (min maxAge (digits.foldl (fun n c => 10 * n + (c.toNat - '0'.toNat)) 0))
    else none

/-- A domain without the dot that may stand in front of it. -/
def bareDomain (text : String) : Option String :=
  let bare := match text.toList with
    | '.' :: rest => rest
    | s => s
  if bare.isEmpty then none else some (String.ofList (bare.map Char.toLower))

/-- Takes an attribute in; of several of one kind the last counts. -/
def Attributes.add (a : Attributes) (s : List Char) : Attributes :=
  match splitPair s with
  | (key, value) =>
    match key.toLower, value with
    | "secure", _ => { a with secure := true }
    | "max-age", some text => { a with maxAge := (age? text).or a.maxAge }
    | "domain", some text => { a with domain := bareDomain text }
    | "path", some text => { a with path := some text }
    | "expires", some text => { a with expires := (Date.read? text).or a.expires }
    | _, _ => a

/-- The path of a cookie that names none: that of the address up to its last slash. -/
def defaultPath (url : Url) : String :=
  let front := (url.path.toText.toList.reverse.dropWhile (· != '/')).tail.reverse
  if front.head? = some '/' then String.ofList front else "/"

/-- Whether a host lies in a domain: it is the domain, or a name that ends with a dot and the
domain. -/
def inDomain (host : Url.Host) (domain : String) : Bool :=
  host.toText == domain ||
    match host with
    | .name name => ('.' :: domain.toList).isSuffixOf name.toList
    | _ => false

/-- The cookie that an answer from an address asks for, unless it is malformed or for a foreign
domain. -/
def ofHeader? (url : Url) (now : Instant) (text : String) : Option Cookie :=
  match text.toList.splitOn ';', url.host? with
  | pair :: attributes, some host =>
    match splitPair pair with
    | (name, some value) =>
      let a := attributes.foldl Attributes.add ⟨none, none, false, none, none⟩
      if name.isEmpty ∨ a.domain.any (!inDomain host ·) then none
      else some
        { name, value
          domain := a.domain.getD host.toText
          hostOnly := a.domain.isNone
          path := (a.path.filter fun path => path.toList.head? == some '/').getD (defaultPath url)
          secure := a.secure
          expires := (a.maxAge.map fun age => now + age).or a.expires }
    | (_, none) => none
  | _, _ => none

def isExpired (c : Cookie) (now : Instant) : Bool := c.expires.any (· ≤ now)

def inPath (path under : String) : Bool :=
  path == under ||
    (under.toList.isPrefixOf path.toList &&
      (under.toList.getLast? == some '/' ||
        (path.toList.drop under.toList.length).head? == some '/'))

def fits (c : Cookie) (url : Url) (now : Instant) : Bool :=
  url.host?.any (fun host =>
      if c.hostOnly then host.toText == c.domain else inDomain host c.domain) &&
    inPath url.path.toText c.path && (!c.secure || url.scheme == "https") && !c.isExpired now

/-- Whether two cookies take each other's place. -/
def sameSlot (c d : Cookie) : Bool := c.name == d.name && c.domain == d.domain && c.path == d.path

end Cookie

structure Jar where
  cookies : List Cookie
deriving DecidableEq, Repr

namespace Jar

def empty : Jar := ⟨[]⟩

/-- Puts a cookie into a jar in the stead of the one in its place; one that has come to its end only
takes that one out. -/
def put (jar : Jar) (c : Cookie) (now : Instant) : Jar :=
  let others := jar.cookies.filter (!c.sameSlot ·)
  ⟨if c.isExpired now then others else others ++ [c]⟩

/-- Takes in what an answer from an address asks for, one request for a cookie after the other. -/
def take (jar : Jar) (url : Url) (now : Instant) (texts : List String) : Jar :=
  (texts.filterMap (Cookie.ofHeader? url now)).foldl (fun jar c => jar.put c now) jar

def sentTo (jar : Jar) (url : Url) (now : Instant) : List (String × String) :=
  (jar.cookies.filter (·.fits url now)).map fun c => (c.name, c.value)

end Jar

end DegreeAudit.Http
