import DegreeAudit.Page.AffiliationForm
import DegreeAudit.Portal.AffiliationMode
import DegreeAudit.Portal.Credentials
import DegreeAudit.Portal.Endpoints
import DegreeAudit.Portal.Run

/-!
# Sessions

A session logs in and fetches the curriculum. To log in, the login page is opened for its token, the
credentials are posted, and, if the page that comes back wants it and the mode allows it, an
affiliation is chosen. To fetch, the page that shows the curriculum is opened first, because the
portal prepares the data for it; then the data is read. Each form sends back the token of the page
it answers, or a fixed one if that page issued none.
-/

namespace DegreeAudit

open Http

/-- A portal and who logs in to it: under which affiliation, and when that is chosen. -/
structure Portal where
  credentials : Credentials
  endpoints : Endpoints
  affiliation : String
  mode : AffiliationMode

/-- What came of a login: whether an affiliation was chosen, and which were offered. -/
structure LoginOutcome where
  chosen : Bool
  offered : List Affiliation
deriving DecidableEq, Repr

namespace Portal

def defaultAffiliation : String := "1"

def tokenOr (token : Option String) (warning : Event) : Run String :=
  match token with
  | some token => pure token
  | none => do
    Run.tell warning
    pure fallbackViewState

def openLogin (p : Portal) : Run String := do
  Run.tell (.openingLogin p.endpoints.login)
  let page ← Run.get .loginPage p.endpoints.login
  tokenOr page.document.viewState? .loginWithoutToken

/-- Posts the credentials with a token and answers the page that comes back. -/
def submit (p : Portal) (token : String) : Run Page := do
  Run.tell (.submittingCredentials p.credentials.username)
  Run.post .login p.endpoints.login
    (loginPayload p.credentials.username p.credentials.password token)

def isAffiliationsPage (url : Url) : Bool :=
  Endpoints.affiliationsPath.toList.isSuffixOf url.path.toText.toList

/-- Whether an affiliation is to be chosen on the page that came back from the login. -/
def wantsChoice (mode : AffiliationMode) (url : Url) (form : Option AffiliationForm) : Bool :=
  match mode with
  | .auto => form.isSome || isAffiliationsPage url
  | .always => true
  | .never => false

/-- What the page that came back from the login calls for: nothing more, or an affiliation form that
offers what is wanted, or offers nothing. -/
def verdict (p : Portal) (url : Url) (document : Html.Document) :
    Except Refusal (Option AffiliationForm) :=
  if document.isLoginForm then .error .loginRejected
  else
    let read := AffiliationForm.ofDocument? document
    if wantsChoice p.mode url read then
      let form := read.getD (.legacy document.viewState?)
      if form.choices.isEmpty ∨ (form.choice? p.affiliation).isSome then .ok (some form)
      else .error (.unknownAffiliation p.affiliation (form.choices.map (·.value)))
    else .ok none

def choose (p : Portal) (form : AffiliationForm) : Run LoginOutcome := do
  if form.viewState.isNone then Run.tell .choiceWithoutToken
  Run.tell (.choosing p.affiliation form.choices.length)
  let _ ← Run.post .choice p.endpoints.affiliations (form.payload p.affiliation)
  return ⟨true, form.choices⟩

/-- Goes on from the page that came back from the login. -/
def finish (p : Portal) (page : Page) : Run LoginOutcome :=
  match p.verdict page.url page.document with
  | .error refusal => .stop (.refused refusal)
  | .ok none => do
    Run.tell .noChoiceNeeded
    return ⟨false, []⟩
  | .ok (some form) => p.choose form

def login (p : Portal) : Run LoginOutcome := do
  let token ← p.openLogin
  let page ← p.submit token
  p.finish page

def fetch (p : Portal) : Run Curriculum := do
  Run.tell (.openingSummary p.endpoints.summary)
  let _ ← Run.get .summary p.endpoints.summary
  Run.tell (.openingData p.endpoints.data)
  let page ← Run.get .data p.endpoints.data
  let curriculum ← Run.ofExcept ((Curriculum.ofBody page.text).mapError .answer)
  Run.tell (.fetched curriculum.components.length)
  return curriculum

end Portal

inductive Step where
  | login
  | fetch
deriving DecidableEq, Repr

def Step.name : Step → String
  | login => "login"
  | fetch => "fetch"

inductive StepOutcome where
  | loggedIn (outcome : LoginOutcome)
  | fetched (curriculum : Curriculum)

namespace Portal

def step (p : Portal) : Step → Run StepOutcome
  | .login => do return .loggedIn (← p.login)
  | .fetch => do return .fetched (← p.fetch)

/-- Does one step after the other, each with the cookies of those before it, whether or not they
failed. -/
def steps (p : Portal) (net : Network) (line : Line) : List Step → List (Trace StepOutcome)
  | [] => []
  | step :: rest => let trace := p.step step net line; trace :: p.steps net trace.line rest

end Portal

end DegreeAudit
