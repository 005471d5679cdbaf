import DegreeAudit.Html.Token

/-!
# The workbench

While a page is read its parts are moved about: misplaced content goes in front of a table,
overlapping formatting is split over several elements. So the parts lie on a workbench, each under a
number, with the numbers of its parent and its children beside it. A number that is not on the bench
has no parent and no children, and nothing done to it has an effect. Text that comes to lie beside
text becomes one part with it.
-/

namespace DegreeAudit.Html

inductive Vocabulary where
  | html
  | math
  | svg
deriving DecidableEq, Repr, Inhabited

/-- An element without its content. Names are in lower case in every vocabulary. -/
structure Element where
  vocabulary : Vocabulary
  name : String
  attributes : List (String × String)
deriving DecidableEq, Repr, Inhabited

namespace Element

def attribute? (e : Element) (key : String) : Option String :=
  (e.attributes.find? (·.1 == key)).map (·.2)

def isHtml (names : List String) (e : Element) : Bool :=
  e.vocabulary == .html && names.contains e.name

/-- Whether HTML content may stand in this element of another vocabulary as plain text would. -/
def isTextPoint (e : Element) : Bool :=
  e.vocabulary == .math && ["mi", "mo", "mn", "ms", "mtext"].contains e.name

/-- Whether HTML content may stand in this element of another vocabulary. -/
def isHtmlPoint (e : Element) : Bool :=
  e.vocabulary == .svg && ["foreignobject", "desc", "title"].contains e.name

end Element

/-- What lies on the bench. The contents of a template are a part of their own between the template
and what it holds. -/
inductive Part where
  | document
  | element (e : Element)
  | contents
  | text (s : String)
  | comment
deriving Inhabited

abbrev PartId := Nat

/-- A part with the numbers of its parent and children. -/
structure Slot where
  part : Part
  parent : Option PartId
  children : Array PartId
deriving Inhabited

structure Workbench where
  slots : Array Slot

namespace Workbench

/-- A bench with nothing on it but the document, which has number zero. -/
def empty : Workbench := ⟨#[⟨.document, none, #[]⟩]⟩

/-- The element under a number; an element without a name if there is none. -/
def elementAt (w : Workbench) (id : PartId) : Element :=
  match (w.slots[id]?).map Slot.part with
  | some (.element e) => e
  | _ => ⟨.html, "", []⟩

def parent? (w : Workbench) (id : PartId) : Option PartId := (w.slots[id]?).bind Slot.parent

def children (w : Workbench) (id : PartId) : Array PartId :=
  ((w.slots[id]?).map Slot.children).getD #[]

def isText (w : Workbench) (id : PartId) : Bool :=
  match (w.slots[id]?).map Slot.part with
  | some (.text _) => true
  | _ => false

def fresh (w : Workbench) : PartId := w.slots.size

def add (w : Workbench) (part : Part) : Workbench := ⟨w.slots.push ⟨part, none, #[]⟩⟩

def update (w : Workbench) (id : PartId) (change : Slot → Slot) : Workbench :=
  ⟨w.slots.modify id change⟩

def detach (w : Workbench) (id : PartId) : Workbench :=
  match w.parent? id with
  | none => w
  | some parent =>
    (w.update parent fun slot => { slot with children := slot.children.filter (· != id) }).update id
      fun slot => { slot with parent := none }

def append (w : Workbench) (parent id : PartId) : Workbench :=
  let w := (w.detach id).update parent fun slot => { slot with children := slot.children.push id }
  w.update id fun slot => { slot with parent := some parent }

/-- Puts a part in front of another with the same parent, if that has a parent. -/
def insertBefore (w : Workbench) (sibling id : PartId) : Workbench :=
  let w := w.detach id
  match w.parent? sibling with
  | none => w
  | some parent =>
    let order := (w.children parent).toList
    let order := order.takeWhile (· != sibling) ++ id :: order.dropWhile (· != sibling)
    (w.update parent fun slot => { slot with children := order.toArray }).update id
      fun slot => { slot with parent := some parent }

def extendText (w : Workbench) (id : PartId) (c : Char) : Workbench :=
  w.update id fun slot =>
    match slot with
    | ⟨.text s, parent, children⟩ => ⟨.text (s.push c), parent, children⟩
    | slot => slot

def appendChar (w : Workbench) (parent : PartId) (c : Char) : Workbench :=
  match (w.children parent).back? with
  | some last =>
    if w.isText last then w.extendText last c
    else (w.add (.text (String.singleton c))).append parent w.fresh
  | none => (w.add (.text (String.singleton c))).append parent w.fresh

/-- Adds a character in front of a part, if that has a parent. -/
def insertCharBefore (w : Workbench) (sibling : PartId) (c : Char) : Workbench :=
  match w.parent? sibling with
  | none => w
  | some parent =>
    match ((w.children parent).toList.takeWhile (· != sibling)).getLast? with
    | some previous =>
      if w.isText previous then w.extendText previous c
      else (w.add (.text (String.singleton c))).insertBefore sibling w.fresh
    | none => (w.add (.text (String.singleton c))).insertBefore sibling w.fresh

def moveChildren (w : Workbench) (source target : PartId) : Workbench :=
  (w.children source).foldl (fun w id => w.append target id) w

/-- Lays a new element on the bench; a template gets its contents. -/
def addElement (w : Workbench) (e : Element) : Workbench :=
  let id := w.fresh
  let w := w.add (.element e)
  if e.isHtml ["template"] then (w.add .contents).append id (id + 1) else w

/-- Where the children of a part go: into the contents of a template, else into the part itself. -/
def contentHolder (w : Workbench) (id : PartId) : PartId :=
  if (w.elementAt id).isHtml ["template"] then ((w.children id)[0]?).getD id else id

end Workbench

end DegreeAudit.Html
