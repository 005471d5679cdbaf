import DegreeAudit.Html.Node
import DegreeAudit.Html.Rules

/-!
# Reading a page

A page's text is cut into lexemes, each of which changes the page under construction; what hangs
together with the document on the workbench at the end is the tree, and what lies there loose was
dropped. Line ends are unified and a byte order mark at the front is
dropped before anything else. Every text is a page: nothing is refused.
-/

namespace DegreeAudit.Html

def unifyLineEnds : List Char → List Char
  | [] => []
  | '\r' :: '\n' :: rest => '\n' :: unifyLineEnds rest
  | c :: rest => (if c = '\r' then '\n' else c) :: unifyLineEnds rest

/-- The text without the byte order mark it may begin with. -/
def dropMark : List Char → List Char
  | '\uFEFF' :: rest => rest
  | s => s

/-- Whether the innermost open element belongs to another vocabulary than HTML. -/
def Construction.inForeign (c : Construction) : Bool :=
  match c.openElements with
  | id :: _ => (c.bench.elementAt id).vocabulary != .html
  | [] => false

def construct (c : Construction) (s : List Char) : Construction :=
  match s with
  | [] => ((Rules.take .ended).run c).2
  | ch :: tail =>
    let next := lexeme c.textMode c.inForeign ch tail
    have := next.rest_le
    construct ((Rules.takeAll next.tokens).run { c with textMode := next.mode }).2 next.rest
termination_by s.length
decreasing_by exact Nat.lt_succ_of_le this

namespace Workbench

mutual

/-- The tree below a part, as deep as allowed; a comment has none. -/
def node? (w : Workbench) (depth : Nat) (id : PartId) : Option Node :=
  match depth with
  | 0 => none
  | depth + 1 =>
    match w.slots[id]? with
    | none => none
    | some slot =>
      match slot.part with
      | .element e => some (.element id e (nodes w depth slot.children.toList))
      | .contents => some (.contents (nodes w depth slot.children.toList))
      | .text s => some (.text s)
      | .document | .comment => none
termination_by (depth, 0)

def nodes (w : Workbench) (depth : Nat) (ids : List PartId) : List Node :=
  match ids with
  | [] => []
  | id :: rest =>
    match node? w depth id with
    | some node => node :: nodes w depth rest
    | none => nodes w depth rest
termination_by (depth, ids.length + 1)

end

/-- The parts other than the document that stand in nothing. -/
def loose (w : Workbench) : List PartId :=
  (List.range w.slots.size).filter fun id => id != 0 && (w.parent? id).isNone

/-- The tree of the page, and the trees of what was dropped from it; none is deeper than there are
parts. -/
def toDocument (w : Workbench) : Document where
  nodes := w.nodes w.slots.size (w.children 0).toList
  dropped := w.nodes w.slots.size w.loose

end Workbench

def Document.ofText (text : String) : Document :=
  (construct .start (dropMark (unifyLineEnds text.toList))).bench.toDocument

end DegreeAudit.Html
