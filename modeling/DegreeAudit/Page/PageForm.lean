import DegreeAudit.Html.Node
import DegreeAudit.Page.Fields

/-!
# What a page asks for

The parts of a page that matter to the flow: the token issued with it, whether it asks for a
password, and the hidden fields of its forms. The token is searched for from the root of the page
down; a password field counts wherever it was begun.
-/

namespace DegreeAudit

open Html

def Html.Located.isInputNamed (name : String) (l : Located) : Bool :=
  l.name == "input" && l.attribute? "name" == some name

def viewStateAmong (elements : List Located) : Option String :=
  (elements.filter (·.isInputNamed Fields.viewState)).findSome? (·.attribute? "value")

def Html.Document.viewState? (d : Document) : Option String := viewStateAmong d.elements

def passwordField : String := "form:senha"

def Html.Document.isLoginForm (d : Document) : Bool := d.begun.any (·.isInputNamed passwordField)

/-- Whether the element is a hidden input field; HTML does not mind the case of the word. -/
def Html.Located.isHiddenInput (l : Located) : Bool :=
  l.name == "input" &&
    (l.attribute? "type").any fun type =>
      type == "hidden" || (l.element.vocabulary == .html && type.toLower == "hidden")

/-- The field of a hidden input, unless it has no name or a reserved one. -/
def hiddenField? (l : Located) : Option (String × String) :=
  if l.isHiddenInput then
    (l.attribute? "name").bind fun name =>
    if name = Fields.viewState ∨ name = Fields.affiliation then none
    else some (name, (l.attribute? "value").getD "")
  else none

def hiddenFields (elements : List Located) : Fields := elements.filterMap hiddenField?

def loginPayload (username password viewState : String) : Fields := [
  ("form", "form"),
  ("form:width", "1920"),
  ("form:height", "1080"),
  ("form:login", username),
  (passwordField, password),
  ("form:entrar", "Entrar"),
  (Fields.viewState, viewState)]

end DegreeAudit
