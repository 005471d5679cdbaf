/-!
# Form fields

Names and values in the order in which they are posted; a name may come more than once. Two names
are reserved: the token that the portal issues with each page and wants back, and the affiliation.
-/

namespace DegreeAudit

abbrev Fields := List (String × String)

namespace Fields

def viewState : String := "javax.faces.ViewState"

def affiliation : String := "vinculo"

/-- Takes the first field of a name out; answers its value and the other fields in order. -/
def takeOut? (name : String) : Fields → Option (String × Fields)
  | [] => none
  | field :: rest =>
    if field.1 = name then some (field.2, rest)
    else (takeOut? name rest).map fun found => (found.1, field :: found.2)

theorem takeOut?_append {name value : String} {before : Fields}
    (h : ∀ field ∈ before, field.1 ≠ name) (after : Fields) :
    takeOut? name (before ++ (name, value) :: after) = some (value, before ++ after) := by
  induction before with
  | nil => simp [takeOut?]
  | cons field before ih =>
    obtain ⟨hfield, hbefore⟩ := List.forall_mem_cons.1 h
    rw [List.cons_append, takeOut?, if_neg hfield, ih hbefore]
    rfl

/-- The field that is taken out is the first of its name. -/
theorem takeOut?_eq_some_iff {name value : String} {fields others : Fields} :
    takeOut? name fields = some (value, others) ↔
      ∃ before after, fields = before ++ (name, value) :: after ∧
        (∀ field ∈ before, field.1 ≠ name) ∧ others = before ++ after := by
  refine ⟨fun h => ?_, fun ⟨before, after, hfields, hbefore, hothers⟩ => ?_⟩
  · induction fields generalizing others with
    | nil => cases h
    | cons field rest ih =>
      rw [takeOut?] at h
      split at h
      · next hname =>
        cases h
        exact ⟨[], rest, by rw [← hname, List.nil_append], List.forall_mem_nil _, rfl⟩
      · next hname =>
        obtain ⟨found, hfound, heq⟩ := Option.map_eq_some_iff.1 h
        cases heq
        obtain ⟨before, after, hrest, hbefore, hothers⟩ := ih hfound
        exact ⟨field :: before, after, by rw [hrest, List.cons_append],
          List.forall_mem_cons.2 ⟨hname, hbefore⟩, by rw [hothers, List.cons_append]⟩
  · rw [hfields, hothers, takeOut?_append hbefore]

end Fields

/-- The token that is sent when a page issued none. -/
def fallbackViewState : String := "j_id1"

end DegreeAudit
