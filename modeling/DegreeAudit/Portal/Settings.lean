import DegreeAudit.Portal.Session
import DegreeAudit.Text.Word

/-!
# Settings

What a portal is set up from: a base address, the word for a mode, an affiliation and credentials,
each of which may be left out. Only the credentials have nothing to stand for them.
-/

namespace DegreeAudit

structure Settings where
  base : Option String
  mode : Option String
  affiliation : Option String
  credentials : Option Credentials

namespace Settings

/-- Why settings make no portal. -/
inductive Fault where
  | base (fault : Endpoints.Fault)
  | mode
  | credentials
deriving DecidableEq, Repr

def Fault.message : Fault → String
  | base fault => fault.message
  | mode => Text.unknownWord
  | credentials => "`credentials` must be initialized"

/-- The portal of settings; the first fault in the order base, mode, credentials counts. -/
def portal (s : Settings) : Except Fault Portal := do
  let endpoints ← (Endpoints.ofBase (s.base.getD Endpoints.defaultBase)).mapError .base
  let mode ← s.mode.elim (.ok .default) fun word =>
    (AffiliationMode.ofName? word).elim (.error .mode) .ok
  let credentials ← s.credentials.elim (.error .credentials) .ok
  let affiliation := s.affiliation.getD Portal.defaultAffiliation
  return { credentials, endpoints, mode, affiliation }

end Settings

end DegreeAudit
