import DegreeAudit.Http.Cookie
import DegreeAudit.Http.FormBody
import DegreeAudit.Http.Header
import DegreeAudit.Http.Status
import DegreeAudit.Text.Charset
import DegreeAudit.Url.Reader

/-!
# Exchanges

An exchange is one request and what follows from it: as long as the answer points elsewhere, the
request goes on there, at most ten times. Its ending is the last answer or the failure that cut it
off. What the network does is a value: which addresses it reaches, what time it is, and the replies
that are still to come, one for each request that is sent. So an exchange is a function of them, and
every request that was sent is part of its result.
-/

namespace DegreeAudit.Http

/-- What a request is made for: to get a page or to post a form. -/
inductive Method where
  | get
  | post
deriving DecidableEq, Repr

def Method.name : Method → String
  | get => "GET"
  | post => "POST"

structure Request where
  method : Method
  url : Url
  referer : Option String
  cookies : List (String × String)
  form : Option Fields
deriving DecidableEq, Repr

namespace Request

def userAgent : String := "sigaa-progress/0.1.0"

/-- Whether the bytes of a percent-encoded text are a text. -/
def isReadable (s : String) : Bool :=
  let bytes := Url.Percent.decode s.toList
  Text.Utf8.encode (Text.Utf8.decode bytes) == bytes

def namesUser (a : Url.Authority) : Bool :=
  isReadable a.username && (!a.username.isEmpty || a.password.any isReadable)

/-- An address that is asked for: whom it names is told to the server apart from it. -/
def address (url : Url) : Url :=
  { url with
    authority := url.authority.map fun a =>
      if namesUser a then { a with username := "", password := none } else a }

def getting (url : Url) : Request := ⟨.get, address url, none, [], none⟩

/-- A request that posts a form and gives its own address as where it came from. -/
def posting (url : Url) (form : Fields) : Request :=
  ⟨.post, address url, some url.toText, [], some form⟩

def contentType? (r : Request) : Option String := r.form.map fun _ => FormBody.mediaType

def body (r : Request) : String := r.form.elim "" FormBody.encode

/-- The address as it is sent: without user and fragment. -/
def sentUrl (r : Request) : Url := r.url.withoutSecrets

def cookieTexts (r : Request) : List String :=
  (r.cookies.map fun c => c.1 ++ "=" ++ c.2).mergeSort fun a b => a ≤ b

end Request

/-- An answer, its body as it is when every coding of its content has been undone. -/
structure Response where
  status : Status
  headers : Headers
  body : List UInt8
deriving DecidableEq, Repr

namespace Response

def notFound : Response := ⟨404, [], []⟩

/-- The text of the body, in the character set that the headers name. -/
def text (r : Response) : String :=
  let set := (r.headers.get? "content-type").bind MediaType.charset?
  let bytes := if r.status.isBodiless then [] else r.body
  String.ofList ((set.elim Text.Charset.utf8 Text.Charset.ofName).decode bytes)

def cookieTexts (r : Response) : List String := r.headers.getAll "set-cookie"

def isRedirect (r : Response) : Bool := [301, 302, 303, 307, 308].contains r.status

/-- Whether the status sends a request elsewhere just as it is. -/
def keepsRequest (r : Response) : Bool := [307, 308].contains r.status

/-- Where the answer to a request for an address points; an unusable address points nowhere. -/
def target? (r : Response) (url : Url) : Option Url :=
  if r.isRedirect then
    (r.headers.get? "location").bind fun location => (url.join location).toOption
  else none

end Response

inductive Reply where
  | response (r : Response)
  | closed
  | silence
deriving DecidableEq, Repr

/-- What the network does: which addresses it reaches, and at what time. -/
structure Network where
  reaches : Url → Bool
  now : Instant

namespace Network

/-- A network in which plain addresses of the web are reached and no others. -/
def plain (now : Instant) : Network := ⟨(·.scheme == "http"), now⟩

def offline : Network := ⟨fun _ => false, 0⟩

end Network

/-- What is known between two requests: the cookies, and the replies that are still to come. -/
structure Line where
  jar : Jar
  replies : List Reply
deriving DecidableEq, Repr

namespace Line

def fresh (replies : List Reply) : Line := ⟨.empty, replies⟩

def reply (line : Line) : Reply := line.replies.headD (.response .notFound)

def afterReply (line : Line) : Line := { line with replies := line.replies.tail }

def takeCookies (line : Line) (net : Network) (url : Url) (r : Response) : Line :=
  { line with jar := line.jar.take url net.now r.cookieTexts }

end Line

def sameOrigin (a b : Url) : Bool := a.host? == b.host? && a.effectivePort? == b.effectivePort?

/-- What a page tells the next one about where the request came from; a safe page tells an unsafe
one nothing. -/
def refererFor? (source target : Url) : Option String :=
  if source.scheme = "https" ∧ target.scheme = "http" then none
  else some source.withoutSecrets.toText

namespace Request

/-- The request with the cookies for its address; without any it keeps what it had. -/
def withCookies (r : Request) (jar : Jar) (now : Instant) : Request :=
  let cookies := jar.sentTo r.url now
  if cookies.isEmpty then r else { r with cookies }

/-- The request that an answer sends elsewhere, without its cookies if they belong to another place.
-/
def redirected (r : Request) (answer : Response) (target : Url) : Request where
  method := if answer.keepsRequest then r.method else .get
  url := target
  referer := (refererFor? r.url target).or r.referer
  cookies := if sameOrigin r.url target then r.cookies else []
  form := if answer.keepsRequest then r.form else none

end Request

/-- How an exchange ends. -/
inductive Ending where
  | answered (url : Url) (r : Response)
  | lost (url : Url)
  | unanswered (url : Url)
  | turnedTooOften (target : Url)
deriving DecidableEq, Repr

/-- What was sent for one request, and how it ended. -/
structure Exchange where
  sent : List Request
  ending : Ending
deriving DecidableEq, Repr

def maxTurns : Nat := 10

/-- Sends a request, and sends it on as often as is left. -/
def follow (net : Network) : (turns : Nat) → Line → Request → Exchange × Line
  | turns, line, request =>
    if !net.reaches request.url then (⟨[], .lost request.url⟩, line)
    else
      match line.reply with
      | .closed => (⟨[request], .lost request.url⟩, line.afterReply)
      | .silence => (⟨[request], .unanswered request.url⟩, line.afterReply)
      | .response answer =>
        let line := line.afterReply.takeCookies net request.url answer
        match answer.target? request.url with
        | none => (⟨[request], .answered request.url answer⟩, line)
        | some target =>
          match turns with
          | 0 => (⟨[request], .turnedTooOften target⟩, line)
          | turns + 1 =>
            let next := (request.redirected answer target).withCookies line.jar net.now
            let (exchange, line) := follow net turns line next
            (⟨request :: exchange.sent, exchange.ending⟩, line)

/-- Sends a request with the cookies of the session and sees it to its end. -/
def send (net : Network) (line : Line) (request : Request) : Exchange × Line :=
  follow net maxTurns line (request.withCookies line.jar net.now)

end DegreeAudit.Http
