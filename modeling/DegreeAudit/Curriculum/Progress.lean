import DegreeAudit.Curriculum.Component

/-!
# Progress through a curriculum

The names of the pending and of the completed components, each list in the portal's order.
Components of any other status are left out. A component without a status cannot be sorted, and one
that is listed needs a name; the first that lacks either stops the sorting.
-/

namespace DegreeAudit

open Json

/-- The members that sorting cannot do without. -/
inductive RequiredField where
  | status
  | name
deriving DecidableEq, Repr

def RequiredField.key : RequiredField → String
  | status => Component.statusKey
  | name => Component.nameKey

/-- A component, by its place in the list, that lacks a required member. -/
structure MissingField where
  index : Nat
  field : RequiredField
deriving DecidableEq, Repr

structure Progress where
  pending : List String
  completed : List String
deriving DecidableEq, Repr

namespace Progress

def empty : Progress := ⟨[], []⟩

/-- The name a component is listed under: a text as it is, any other value as its compact text. -/
def listedName? (c : Component) : Option String :=
  (c.get? Component.nameKey).map fun value => value.text?.getD value.compact

/-- What one component adds: nothing, a pending name or a completed name. -/
def ofComponent (c : Component) : Except RequiredField Progress :=
  if (c.get? Component.statusKey).isNone then .error .status
  else
    match c.status? with
    | some .pending =>
      match listedName? c with
      | some name => .ok ⟨[name], []⟩
      | none => .error .name
    | some .completed =>
      match listedName? c with
      | some name => .ok ⟨[], [name]⟩
      | none => .error .name
    | _ => .ok empty

def append (p q : Progress) : Progress := ⟨p.pending ++ q.pending, p.completed ++ q.completed⟩

def ofComponentsFrom (index : Nat) : List Component → Except MissingField Progress
  | [] => .ok empty
  | c :: rest =>
    match ofComponent c with
    | .error field => .error ⟨index, field⟩
    | .ok first => (ofComponentsFrom (index + 1) rest).map first.append

def ofComponents (components : List Component) : Except MissingField Progress :=
  ofComponentsFrom 0 components

def toValue (p : Progress) : Value :=
  .object [
    ("pendentes", .array (p.pending.map .text)),
    ("concluidas", .array (p.completed.map .text))]

end Progress

end DegreeAudit
