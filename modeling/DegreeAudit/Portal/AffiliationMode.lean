/-!
# When the affiliation choice is answered

After a login the portal may ask under which of several affiliations to go on. The mode says when an
answer is sent.
-/

namespace DegreeAudit

/-- When to answer the affiliation page: when it is shown, after every login, or after none. -/
inductive AffiliationMode where
  | auto
  | always
  | never
deriving DecidableEq, Repr

namespace AffiliationMode

def default : AffiliationMode := auto

def name : AffiliationMode → String
  | auto => "auto"
  | always => "always"
  | never => "never"

/-- The mode that a word chooses; the letters' case matters. -/
def ofName? (text : String) : Option AffiliationMode :=
  [auto, always, never].find? fun mode => mode.name == text

end AffiliationMode

end DegreeAudit
