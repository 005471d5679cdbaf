import DegreeAudit.Html.Document
import DegreeAudit.Http.Exchange

/-!
# Pages

What an exchange brings: a page, if its ending is an answer whose status is no error, and a problem
otherwise. A problem tells the address at which the exchange stopped.
-/

namespace DegreeAudit.Http

/-- A page: where it was found in the end, and its text. -/
structure Page where
  url : Url
  text : String
deriving DecidableEq, Repr

def Page.document (page : Page) : Html.Document := Html.Document.ofText page.text

/-- What keeps an exchange from bringing a page. -/
inductive Problem where
  | status (status : Status) (url : Url)
  | lost (url : Url)
  | unanswered (url : Url)
  | turnedTooOften (target : Url)
deriving DecidableEq, Repr

def Problem.url : Problem → Url
  | status _ url | lost url | unanswered url | turnedTooOften url => url

def Ending.page : Ending → Except Problem Page
  | answered url r => if r.status.isError then .error (.status r.status url) else .ok ⟨url, r.text⟩
  | lost url => .error (.lost url)
  | unanswered url => .error (.unanswered url)
  | turnedTooOften target => .error (.turnedTooOften target)

end DegreeAudit.Http
