import DegreeAudit.Json.Skip

/-!
# Curriculum components

A component of a degree is kept exactly as the portal sent it, member by member; only its name and
its status are ever asked for. The status is a word: three words mean something, and every other one
is kept as it is.
-/

namespace DegreeAudit

open Json

/-- A curriculum component: its members in the order of first appearance, no key twice. -/
structure Component where
  members : List (String × Value)
  distinct : (keys members).Nodup

namespace Component

def nameKey : String := "nome"

def statusKey : String := "situacao"

def keys (c : Component) : List String := Json.keys c.members

def get? (c : Component) (key : String) : Option Value := Json.get? key c.members

def toValue (c : Component) : Value := .object c.members

def name? (c : Component) : Option String := (c.get? nameKey).bind Value.text?

end Component

/-- How far a student has come with a component. -/
inductive Status where
  | pending
  | completed
  | enrolled
  | other (text : String)
deriving DecidableEq, Repr

def Status.ofText (text : String) : Status :=
  if text = "PENDENTE" then pending
  else if text = "CONCLUIDO" then completed
  else if text = "MATRICULADO" then enrolled
  else other text

def Component.status? (c : Component) : Option Status :=
  ((c.get? statusKey).bind Value.text?).map Status.ofText

end DegreeAudit
