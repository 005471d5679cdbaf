import DegreeAudit.Html.Node

/-!
# Elements inside elements

The elements inside an element of a page are elements of the page, in the same order: document order
goes down into an element before it goes on behind it. So whatever is found inside a form is found
on its page.
-/

namespace DegreeAudit.Html

mutual

theorem Node.descendants_sublist_elements {l : Located} :
    ∀ (around : List Node) (node : Node), l ∈ node.elements around →
      l.descendants.Sublist (node.elements around)
  | around, .element number e children, h => by
      rw [Node.elements] at h ⊢
      rcases List.mem_cons.1 h with rfl | h
      · exact List.sublist_cons_self _ _
      · exact (descendants_sublist_elementsOf _ children h).cons _
  | around, .contents children, h => by
      rw [Node.elements] at h ⊢
      exact descendants_sublist_elementsOf _ children h
  | around, .text s, h => by
      rw [Node.elements] at h
      exact absurd h List.not_mem_nil

theorem Node.descendants_sublist_elementsOf {l : Located} :
    ∀ (around nodes : List Node), l ∈ Node.elementsOf around nodes →
      l.descendants.Sublist (Node.elementsOf around nodes)
  | around, [], h => by
      rw [Node.elementsOf] at h
      exact absurd h List.not_mem_nil
  | around, node :: rest, h => by
      rw [Node.elementsOf] at h ⊢
      rcases List.mem_append.1 h with h | h
      · exact (descendants_sublist_elements around node h).trans (List.sublist_append_left _ _)
      · exact (descendants_sublist_elementsOf around rest h).trans (List.sublist_append_right _ _)

end

theorem Document.mem_elements_of_mem_descendants {d : Document} {l inner : Located}
    (hl : l ∈ d.elements) (hinner : inner ∈ l.descendants) : inner ∈ d.elements :=
  (Node.descendants_sublist_elementsOf [] d.nodes hl).subset hinner

end DegreeAudit.Html
