import DegreeAudit.Curriculum.Answer
import DegreeAudit.Event
import DegreeAudit.Http.Page
import DegreeAudit.Portal.Refusal

/-!
# Runs against a portal

A run asks for pages one after the other, each for an errand, and tells events on the way. Its trace
holds all of it in order: the exchanges, the events, and in the end a result or the fault that
stopped it. A run depends on the network, and hands on to the next run only the cookies and the
replies that are left.
-/

namespace DegreeAudit

open Http

/-- What a page is asked for. -/
inductive Errand where
  | loginPage
  | login
  | choice
  | summary
  | data
deriving DecidableEq, Repr

namespace Errand

def failure : Errand → String
  | loginPage => "failed to load login page"
  | login => "login request failed"
  | choice => "affiliation request failed"
  | summary => "failed to load integralizacao page"
  | data => "failed to load integralizacao data"

def posts : Errand → Bool
  | login | choice => true
  | loginPage | summary | data => false

end Errand

inductive RunFault where
  | errand (errand : Errand) (problem : Problem)
  | refused (refusal : Refusal)
  | answer (failure : Json.Failure)

/-- The message of a fault. Where a page without a form is not even answered, none of the portal's
own applies. -/
def RunFault.message? : RunFault → Option String
  | errand e (.status ..) => some e.failure
  | errand e _ => if e.posts then some e.failure else none
  | refused refusal => some refusal.message
  | answer _ => some Curriculum.refusedMessage

/-- All that happened in a run. -/
structure Trace (α : Type) where
  exchanges : List (Errand × Exchange)
  events : List Event
  line : Line
  result : Except RunFault α

namespace Trace

def requests (t : Trace α) : List Request := t.exchanges.flatMap (·.2.sent)

def after (earlier : List (Errand × Exchange)) (events : List Event) (t : Trace α) : Trace α :=
  { t with exchanges := earlier ++ t.exchanges, events := events ++ t.events }

end Trace

/-- A run, which depends on the network and on what earlier runs left. -/
def Run (α : Type) : Type := Network → Line → Trace α

namespace Run

def pure (a : α) : Run α := fun _ line => ⟨[], [], line, .ok a⟩

/-- A run that goes on with the result of another, unless that was stopped. -/
def bind (run : Run α) (next : α → Run β) : Run β := fun net line =>
  let first := run net line
  match first.result with
  | .error fault => ⟨first.exchanges, first.events, first.line, .error fault⟩
  | .ok a => (next a net first.line).after first.exchanges first.events

instance : Monad Run where
  pure := Run.pure
  bind := Run.bind

def stop (fault : RunFault) : Run α := fun _ line => ⟨[], [], line, .error fault⟩

def ofExcept : Except RunFault α → Run α
  | .ok a => pure a
  | .error fault => stop fault

def tell (event : Event) : Run Unit := fun _ line => ⟨[], [event], line, .ok ()⟩

/-- Sends a request for an errand and answers the page that it brings. -/
def ask (errand : Errand) (request : Request) : Run Page := fun net line =>
  let (exchange, line) := send net line request
  ⟨[(errand, exchange)], [], line, exchange.ending.page.mapError (.errand errand)⟩

def get (errand : Errand) (url : Url) : Run Page := ask errand (.getting url)

def post (errand : Errand) (url : Url) (form : Fields) : Run Page := do
  tell (.posting url (form.map (·.1)))
  ask errand (.posting url form)

end Run

end DegreeAudit
