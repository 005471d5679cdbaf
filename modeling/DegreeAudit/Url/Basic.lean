import DegreeAudit.Url.Host

/-!
# Addresses

The address of a page in its parts: a scheme, who and where, a path, and a query and fragment that
may be missing. A path is a list of segments, or, in addresses like those of mail, a text of its own
that nothing can be joined to. `toText` is the one written form.
-/

namespace DegreeAudit

/-- Who and where: a user name and password, a host, and a port if it is not the scheme's own. -/
structure Url.Authority where
  username : String
  password : Option String
  host : Url.Host
  port : Option Nat
deriving DecidableEq, Repr

/-- A path: segments that each follow a slash, or a text as a whole. -/
inductive Url.Path where
  | segments (list : List String)
  | whole (text : String)
deriving DecidableEq, Repr

structure Url where
  scheme : String
  authority : Option Url.Authority
  path : Url.Path
  query : Option String
  fragment : Option String
deriving DecidableEq, Repr

namespace Url

/-- Schemes with a host and their own ports; `file` has no port. -/
def specialPorts : List (String × Option Nat) :=
  [("http", some 80), ("https", some 443), ("ws", some 80), ("wss", some 443), ("ftp", some 21),
    ("file", none)]

def isSpecialScheme (scheme : String) : Bool := specialPorts.any (·.1 == scheme)

def defaultPort? (scheme : String) : Option Nat := (specialPorts.find? (·.1 == scheme)).bind (·.2)

def Path.toText : Path → String
  | segments list => String.join (list.map ("/" ++ ·))
  | whole text => text

def Authority.userInfo (a : Authority) : String :=
  match a.password with
  | some password => a.username ++ ":" ++ password ++ "@"
  | none => if a.username.isEmpty then "" else a.username ++ "@"

/-- The host with the port, if there is one to show. -/
def Authority.hostAndPort (a : Authority) : String :=
  a.host.toText ++ a.port.elim "" fun port => ":" ++ toString port

/-- Whether the path would be mistaken for a host without a mark in front. -/
def needsPathMark (u : Url) : Bool :=
  match u.authority, u.path with
  | none, .segments ("" :: _ :: _) => true
  | _, _ => false

def origin (u : Url) (userInfo : Authority → String) : String :=
  u.scheme ++ ":" ++
    u.authority.elim "" (fun a => "//" ++ userInfo a ++ a.hostAndPort) ++
    (if u.needsPathMark then "/." else "")

def ending (u : Url) : String :=
  u.query.elim "" ("?" ++ ·) ++ u.fragment.elim "" ("#" ++ ·)

def toText (u : Url) : String := u.origin Authority.userInfo ++ u.path.toText ++ u.ending

/-- The same address without user and fragment. -/
def withoutSecrets (u : Url) : Url :=
  { u with
    authority := u.authority.map fun a => { a with username := "", password := none }
    fragment := none }

def host? (u : Url) : Option Host := u.authority.map Authority.host

/-- The port that is used: the one given, else the scheme's own. -/
def effectivePort? (u : Url) : Option Nat :=
  (u.authority.bind Authority.port).or (defaultPort? u.scheme)

end Url

end DegreeAudit
