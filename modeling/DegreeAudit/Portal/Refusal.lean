import DegreeAudit.Curriculum.Progress
import DegreeAudit.Text.Quoted

/-!
# What the portal's answers make impossible

Three things can be wrong although every page arrived: the portal asks for the password again, it
does not offer the wanted affiliation, or a component lacks a member that sorting needs. Texts that
come from a page are quoted in the message, so no page can make one message look like another.
-/

namespace DegreeAudit

/-- Why the portal's answers do not lead on. -/
inductive Refusal where
  | loginRejected
  | unknownAffiliation (wanted : String) (available : List String)
  | missingField (missing : MissingField)
deriving DecidableEq, Repr

def Refusal.message : Refusal → String
  | loginRejected => "login rejected: the portal answered with the login form again"
  | unknownAffiliation wanted available =>
    "affiliation " ++ Text.quote wanted ++ " is not offered by the portal (available: " ++
      Text.quoteList available ++ ")"
  | missingField ⟨index, field⟩ =>
    "component #" ++ toString index ++ " has no " ++ Text.quote field.key ++ " field"

end DegreeAudit
