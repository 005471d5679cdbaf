import DegreeAudit.Curriculum.Progress
import DegreeAudit.Export.Format
import DegreeAudit.Page.Fields
import DegreeAudit.Text.Quoted
import DegreeAudit.Url.Basic

/-!
# Events

What a run tells about itself while it goes on. An event is what happened; its level, message and
fields are how it is told. Of a form that is posted only the names of the fields are told, never
their values.
-/

namespace DegreeAudit

inductive Event where
  | openingLogin (url : Url)
  | loginWithoutToken
  | submittingCredentials (username : String)
  | posting (url : Url) (names : List String)
  | noChoiceNeeded
  | choiceWithoutToken
  | choosing (affiliation : String) (offered : Nat)
  | openingSummary (url : Url)
  | openingData (url : Url)
  | fetched (components : Nat)
  | exported (path : String) (format : ExportFormat) (components : Nat)
  | categorized (progress : Progress)
  | reported (path : String)
deriving DecidableEq, Repr

namespace Event

inductive Level where
  | debug
  | info
  | warn
deriving DecidableEq, Repr

def Level.name : Level → String
  | debug => "DEBUG"
  | info => "INFO"
  | warn => "WARN"

/-- The level of an event: requests are details, and a missing token is a warning. -/
def level : Event → Level
  | posting .. | openingSummary .. | openingData .. => .debug
  | loginWithoutToken | choiceWithoutToken => .warn
  | _ => .info

def message : Event → String
  | openingLogin _ => "fetching login page"
  | loginWithoutToken => "login page carries no view state, using " ++ fallbackViewState
  | submittingCredentials _ => "submitting credentials"
  | posting .. => "posting form"
  | noChoiceNeeded => "no affiliation choice needed"
  | choiceWithoutToken => "affiliation page carries no view state, using " ++ fallbackViewState
  | choosing .. => "choosing affiliation"
  | openingSummary _ => "priming summary page"
  | openingData _ => "fetching components"
  | fetched _ => "fetched curriculum components"
  | exported .. => "exported components"
  | categorized _ => "categorized components"
  | reported _ => "wrote progress report"

/-- The fields of an event, each with its text. -/
def fields : Event → Fields
  | openingLogin url | openingSummary url | openingData url => [("url", url.toText)]
  | loginWithoutToken | choiceWithoutToken | noChoiceNeeded => []
  | submittingCredentials username => [("username", username)]
  | posting url names => [("url", url.toText), ("fields", Text.quoteList names)]
  | choosing affiliation offered => [("vinculo", affiliation), ("offered", toString offered)]
  | fetched components => [("components", toString components)]
  | exported path format components =>
    [("path", path), ("format", format.name), ("components", toString components)]
  | categorized progress =>
    [("concluidas", toString progress.completed.length),
      ("pendentes", toString progress.pending.length)]
  | reported path => [("path", path)]

end Event

end DegreeAudit
