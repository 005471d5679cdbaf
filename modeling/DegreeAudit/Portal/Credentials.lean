import DegreeAudit.Text.Quoted

/-!
# Credentials

A user name and a password. What is shown of them for diagnosis names the user and never the
password.
-/

namespace DegreeAudit

structure Credentials where
  username : String
  password : String

/-- The text shown for diagnosis; every password looks the same in it. -/
def Credentials.describe (c : Credentials) : String :=
  "Credentials \x7b username: " ++ Text.quote c.username ++ ", password: \"***\" \x7d"

end DegreeAudit
