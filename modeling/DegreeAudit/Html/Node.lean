import DegreeAudit.Html.Workbench

/-!
# The tree of a page

A page as a tree of elements and texts. Comments have no part in it, except that they keep the texts
on their two sides apart. What a template holds stands in a contents node below the template: it is
searched like any other content, but an element right inside it has no parent element.
`Node.elements` lists the elements of a tree in document order, each together with everything around
it.

A frameset that comes late replaces the body. The body that was dropped for it, with all that it
holds, is no longer on the page: whoever goes down from the root does not meet it. But its elements
were begun, and are kept beside the tree. So there are two ways to search a page.
`Document.elements` is the search from the root; `Document.begun` is the search of all that was
begun inside something, whether the page still holds it or not.

Elements are numbered as they are begun, and the second search goes by these numbers. They follow
document order as long as every element stays where it was begun; but what is misplaced in a table
is moved in front of the table, and so comes before the content that the table already had. On a
page on which nothing was dropped and nothing moved both searches are one: `Document.InPlace`.
-/

namespace DegreeAudit.Html

inductive Node where
  | element (number : Nat) (e : Element) (children : List Node)
  | contents (children : List Node)
  | text (s : String)

namespace Node

mutual

def texts : Node → List String
  | element _ _ children => textsOf children
  | contents children => textsOf children
  | text s => [s]

def textsOf : List Node → List String
  | [] => []
  | node :: rest => node.texts ++ textsOf rest

end

end Node

/-- An element of a page, with what it holds and the nodes around it, the nearest first. -/
structure Located where
  number : Nat
  element : Element
  children : List Node
  around : List Node

namespace Node

mutual

/-- The elements of a node in document order, given the nodes around it. -/
def elements (around : List Node) : Node → List Located
  | element number e children =>
    ⟨number, e, children, around⟩ :: elementsOf (element number e children :: around) children
  | contents children => elementsOf (contents children :: around) children
  | text _ => []

/-- The elements of nodes in document order, given the nodes around them. -/
def elementsOf (around : List Node) : List Node → List Located
  | [] => []
  | node :: rest => node.elements around ++ elementsOf around rest

end

/-- The elements inside a node that stands in nothing, in document order. -/
def inside : Node → List Located
  | element number e children => elementsOf [element number e children] children
  | contents children => elementsOf [contents children] children
  | text _ => []

end Node

namespace Located

def node (l : Located) : Node := .element l.number l.element l.children

def name (l : Located) : String := l.element.name

def attribute? (l : Located) (key : String) : Option String := l.element.attribute? key

def descendants (l : Located) : List Located := Node.elementsOf (l.node :: l.around) l.children

/-- The node right around the element, if it is an element. -/
def parent? (l : Located) : Option Node :=
  match l.around with
  | .element number e children :: _ => some (.element number e children)
  | _ => none

/-- The elements around this one, nearest first, up to the edge of a template. -/
def parents (l : Located) : List Element :=
  (l.around.map fun
    | .element _ e _ => some e
    | _ => none).takeWhile Option.isSome |>.filterMap id

/-- The nearest element of a name around this one, templates notwithstanding. -/
def nearest? (l : Located) (name : String) : Option Node :=
  l.around.find? fun
    | .element _ e _ => e.name == name
    | _ => false

/-- The element put among others, in front of the first that was not begun before it. -/
def insertBegun (l : Located) : List Located → List Located
  | [] => [l]
  | next :: rest => if l.number ≤ next.number then l :: next :: rest else next :: l.insertBegun rest

theorem mem_insertBegun {l inner : Located} {others : List Located} :
    inner ∈ l.insertBegun others ↔ inner = l ∨ inner ∈ others := by
  induction others with
  | nil => rw [insertBegun, List.mem_singleton, or_iff_left List.not_mem_nil]
  | cons next rest ih =>
    rw [insertBegun]
    split
    · exact List.mem_cons
    · rw [List.mem_cons, ih, List.mem_cons, or_left_comm]

theorem insertBegun_of_le {l : Located} {others : List Located}
    (h : ∀ next ∈ others, l.number ≤ next.number) : l.insertBegun others = l :: others := by
  cases others with
  | nil => rfl
  | cons next rest => rw [insertBegun, if_pos (h next List.mem_cons_self)]

end Located

/-- A page, and beside it what was dropped from it. -/
structure Document where
  nodes : List Node
  dropped : List Node

namespace Document

def elements (d : Document) : List Located := Node.elementsOf [] d.nodes

/-- The elements inside what was dropped from a page. -/
def strays (d : Document) : List Located := d.dropped.flatMap Node.inside

/-- The elements that were begun inside something, on the page or not, in the order in which they
were begun. -/
def begun (d : Document) : List Located := (d.elements ++ d.strays).foldr Located.insertBegun []

@[simp] theorem mem_begun {d : Document} {l : Located} :
    l ∈ d.begun ↔ l ∈ d.elements ∨ l ∈ d.strays := by
  rw [begun, ← List.mem_append]
  induction d.elements ++ d.strays with
  | nil => rfl
  | cons first rest ih => rw [List.foldr_cons, Located.mem_insertBegun, ih, List.mem_cons]

/-- Nothing was dropped from the page that holds an element, and no element was moved. -/
structure InPlace (d : Document) : Prop where
  kept : d.strays = []
  ordered : d.elements.Pairwise (·.number ≤ ·.number)

instance (d : Document) : Decidable d.InPlace :=
  decidable_of_iff (d.strays = [] ∧ d.elements.Pairwise (·.number ≤ ·.number))
    ⟨fun ⟨kept, ordered⟩ => ⟨kept, ordered⟩, fun ⟨kept, ordered⟩ => ⟨kept, ordered⟩⟩

theorem begun_eq_elements {d : Document} (h : d.InPlace) : d.begun = d.elements := by
  obtain ⟨hkept, hordered⟩ := h
  rw [begun, hkept, List.append_nil]
  generalize d.elements = elements at hordered
  induction hordered with
  | nil => rfl
  | cons hfirst _ ih => rw [List.foldr_cons, ih, Located.insertBegun_of_le hfirst]

end Document

end DegreeAudit.Html
