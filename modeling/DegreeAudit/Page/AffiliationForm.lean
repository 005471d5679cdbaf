import DegreeAudit.Order.FirstSeen
import DegreeAudit.Page.Label
import DegreeAudit.Page.LinkScript
import DegreeAudit.Page.PageForm

/-!
# The affiliation page

After a login the portal may list the affiliations of an account. A link offers one when its script
sets the affiliation field; an input field or an option of a selection offers its value. Of several
offers of one value the first counts. The form to answer is the one that the first offering link
names, or, if no link names any, the first that holds a part for the affiliation; what it hides is
sent back with the answer. A page that offers nothing and holds no such form is not an affiliation
page. The first of several elements is the one that was begun first, and links, fields and forms
count even where the page was later dropped around them.
-/

namespace DegreeAudit

open Html

/-- An affiliation that a page offers, and the fields that choosing it adds. -/
structure Affiliation where
  value : String
  label : String
  parameters : Fields
deriving DecidableEq, Repr

/-- The form that chooses an affiliation. -/
structure AffiliationForm where
  hidden : Fields
  viewState : Option String
  choices : List Affiliation
  extra : Fields
deriving DecidableEq, Repr

/-- The id of the form on pages that could not be read. -/
def legacyFormId : String := "j_id_jsp_1522167007_1"

/-- The id of the link on pages that could not be read. -/
def legacyLinkId : String := "j_id_jsp_1522167007_2"

namespace AffiliationPage

def script? (l : Located) : Option (List Char) :=
  if l.name = "a" then (l.attribute? "onclick").map String.toList else none

/-- The label of a link: that of the row around it, or its own. -/
def linkLabel (l : Located) : String := ((l.nearest? "tr").getD l.node).label

def linkOffer? (l : Located) : Option Affiliation :=
  (script? l).bind fun script =>
  (Fields.takeOut? Fields.affiliation (LinkScript.pairs script)).map fun (value, parameters) =>
    ⟨value, linkLabel l, parameters⟩

def offeredFormId? (l : Located) : Option String :=
  if (linkOffer? l).isSome then (script? l).bind LinkScript.formId? else none

/-- Whether the element is an option of a selection of the affiliation. -/
def isOption (l : Located) : Bool :=
  l.name == "option" &&
    l.parents.any fun e => e.name == "select" && e.attribute? "name" == some Fields.affiliation

/-- The label of an input field or an option: for a field that of the element around it. -/
def fieldLabel (l : Located) : String :=
  match l.parent? with
  | some parent => if l.name = "input" then parent.label else l.node.label
  | none => l.node.label

def fieldOffer? (l : Located) : Option Affiliation :=
  if l.isInputNamed Fields.affiliation || isOption l then
    (l.attribute? "value").map fun value => ⟨value, fieldLabel l, []⟩
  else none

/-- Everything that a page offers: links first, then fields, each in the order in which they were
begun. -/
def offers (d : Document) : List Affiliation :=
  d.begun.filterMap linkOffer? ++ d.begun.filterMap fieldOffer?

/-- The offers of a page, each value where it is first offered. -/
def choices (d : Document) : List Affiliation := Order.firstSeen Affiliation.value (offers d)

def namedFormId? (d : Document) : Option String := d.begun.findSome? offeredFormId?

/-- Whether the element is a form that holds a part for the affiliation. -/
def holdsAffiliation (l : Located) : Bool :=
  l.descendants.any fun inner => inner.attribute? "name" == some Fields.affiliation

/-- The form that a page wants answered. -/
def form? (d : Document) : Option Located :=
  let forms := d.begun.filter (·.name == "form")
  match namedFormId? d with
  | some id => forms.find? (·.attribute? "id" == some id)
  | none => forms.find? holdsAffiliation

end AffiliationPage

namespace AffiliationForm

open AffiliationPage

/-- The affiliation form of a page, if it is an affiliation page. -/
def ofDocument? (d : Document) : Option AffiliationForm :=
  match form? d with
  | some form => some
    { hidden := hiddenFields form.descendants
      viewState := (viewStateAmong form.descendants).or d.viewState?
      choices := AffiliationPage.choices d
      extra := [] }
  | none =>
    if (AffiliationPage.choices d).isEmpty then none
    else
      let id := (namedFormId? d).getD legacyFormId
      some {
        hidden := [(id, id)], viewState := d.viewState?, choices := AffiliationPage.choices d,
        extra := [] }

/-- The fixed form that is sent when a page could not be read. -/
def legacy (viewState : Option String) : AffiliationForm where
  hidden := [(legacyFormId, legacyFormId)]
  viewState := viewState
  choices := []
  extra := [(legacyLinkId, legacyLinkId)]

def choice? (form : AffiliationForm) (value : String) : Option Affiliation :=
  form.choices.find? (·.value == value)

/-- The fields that choose a value: the hidden ones, the token, those of the choice and the value.
-/
def payload (form : AffiliationForm) (value : String) : Fields :=
  form.hidden ++ (Fields.viewState, form.viewState.getD fallbackViewState) ::
    ((form.choice? value).elim form.extra Affiliation.parameters ++ [(Fields.affiliation, value)])

end AffiliationForm

end DegreeAudit
