import DegreeAudit.Html.Document

/-!
# The tree of a page, computed

The tree below a part is taken from the workbench by going down level by level and, on each level,
part by part. `treeAt` takes the levels alone as its recursion and goes over the parts with the
library's `filterMap`, so the tree of a given text can be computed: `Document.ofText_eq`.
-/

namespace DegreeAudit.Html

namespace Workbench

def treeAt (w : Workbench) : (depth : Nat) → PartId → Option Node
  | 0, _ => none
  | depth + 1, id =>
    match w.slots[id]? with
    | none => none
    | some slot =>
      match slot.part with
      | .element e => some (.element id e (slot.children.toList.filterMap (treeAt w depth)))
      | .contents => some (.contents (slot.children.toList.filterMap (treeAt w depth)))
      | .text s => some (.text s)
      | .document | .comment => none

theorem nodes_eq_filterMap (w : Workbench) (depth : Nat) (ids : List PartId) :
    w.nodes depth ids = ids.filterMap (w.node? depth) := by
  induction ids with
  | nil => rw [nodes, List.filterMap_nil]
  | cons id rest ih =>
      rw [nodes, List.filterMap_cons, ih]
      cases w.node? depth id <;> rfl

theorem node?_eq_treeAt (w : Workbench) (depth : Nat) : w.node? depth = w.treeAt depth := by
  induction depth with
  | zero =>
      funext id
      rw [node?, treeAt]
  | succ depth ih =>
      funext id
      rw [node?, treeAt]
      cases w.slots[id]? with
      | none => rfl
      | some slot =>
          have hchildren : w.nodes depth slot.children.toList
              = slot.children.toList.filterMap (w.treeAt depth) := by
            rw [nodes_eq_filterMap, ih]
          dsimp only
          cases slot.part with
          | element e => exact congrArg (some ∘ Node.element id e) hchildren
          | contents => exact congrArg (some ∘ Node.contents) hchildren
          | text | document | comment => rfl

end Workbench

/-- The page that a text stands for, with its tree taken level by level. -/
theorem Document.ofText_eq (text : String) :
    Document.ofText text =
      let w := (construct .start (dropMark (unifyLineEnds text.toList))).bench
      ⟨(w.children 0).toList.filterMap (w.treeAt w.slots.size),
        w.loose.filterMap (w.treeAt w.slots.size)⟩ := by
  rw [Document.ofText, Workbench.toDocument, Workbench.nodes_eq_filterMap,
    Workbench.nodes_eq_filterMap, Workbench.node?_eq_treeAt]

end DegreeAudit.Html
