import DegreeAudit.Text.Quoted
import DegreeAudit.Url.Reader

/-!
# The pages of a portal

A portal is a base address and four pages under it. The base is read as if it ended with a slash, so
its last directory is kept.
-/

namespace DegreeAudit

/-- The pages that are visited, under one base address. -/
structure Endpoints where
  login : Url
  affiliations : Url
  summary : Url
  data : Url
deriving DecidableEq, Repr

/-- Why a text gives no portal: it is no address, or none that a path can be added to. -/
inductive Endpoints.Fault where
  | base (text : String) (fault : Url.Fault)
  | joining (fault : Url.Fault)
deriving DecidableEq, Repr

namespace Endpoints

def Fault.message : Fault → String
  | base text _ => "invalid base url " ++ Text.quote text
  | joining fault => fault.message

def Fault.causes : Fault → List String
  | base _ fault => [fault.message]
  | joining _ => []

def defaultBase : String := "https://sigaa.ufpb.br/sigaa/"

def loginPath : String := "index.jsf"

def affiliationsPath : String := "vinculos.jsf"

def summaryPath : String := "portal/discente/integralizacao/"

def dataPath : String := "portal/discente/integralizacao/dados/"

def slashed (base : String) : String :=
  if base.toList.getLast? = some '/' then base else base ++ "/"

def under (base : Url) : Except Url.Fault Endpoints := do
  let login ← base.join loginPath
  let affiliations ← base.join affiliationsPath
  let summary ← base.join summaryPath
  let data ← base.join dataPath
  return { login, affiliations, summary, data }

def ofBase (base : String) : Except Fault Endpoints :=
  match Url.ofText (slashed base) with
  | .error fault => .error (.base (slashed base) fault)
  | .ok base => (under base).mapError .joining

end Endpoints

end DegreeAudit
