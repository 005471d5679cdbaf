/-!
# Gathering from a list, and the first of a list

What the search functions for lists do, said without them. `Gathers` says that one list holds, in
order, what the items of another give, and `IsFirst` that an item is the first for which something
holds. A list can be gone through without a failure if each of its items can
(`mapM_eq_some_map`).
-/

namespace DegreeAudit

/-- The second list holds, in order, what the items of the first give; an item that gives nothing is
passed over. -/
inductive Gathers {α β : Type} (gives : α → β → Prop) : List α → List β → Prop where
  | nil : Gathers gives [] []
  | skip {a : α} {as : List α} {bs : List β} (hnone : ∀ b, ¬gives a b) (h : Gathers gives as bs) :
      Gathers gives (a :: as) bs
  | take {a : α} {b : β} {as : List α} {bs : List β} (hgives : gives a b)
      (h : Gathers gives as bs) : Gathers gives (a :: as) (b :: bs)

theorem gathers_iff_filterMap {α β : Type} {gives : α → β → Prop} {f : α → Option β}
    (hf : ∀ a b, f a = some b ↔ gives a b) {as : List α} {bs : List β} :
    Gathers gives as bs ↔ as.filterMap f = bs := by
  constructor
  · intro h
    induction h with
    | nil => rfl
    | @skip a as bs hnone _ ih =>
        have hfa : f a = none :=
          Option.eq_none_iff_forall_ne_some.2 fun b => mt (hf a b).1 (hnone b)
        rw [List.filterMap_cons_none hfa, ih]
    | take hgives _ ih => rw [List.filterMap_cons_some ((hf _ _).2 hgives), ih]
  · rintro rfl
    induction as with
    | nil => exact .nil
    | cons a as ih =>
        cases hfa : f a with
        | none =>
            rw [List.filterMap_cons_none hfa]
            exact .skip (fun b hb => by simp [(hf a b).2 hb] at hfa) ih
        | some b =>
            rw [List.filterMap_cons_some hfa]
            exact .take ((hf a b).1 hfa) ih

theorem Gathers.append {α β : Type} {gives : α → β → Prop} {as as' : List α} {bs bs' : List β}
    (h : Gathers gives as bs) (h' : Gathers gives as' bs') :
    Gathers gives (as ++ as') (bs ++ bs') := by
  induction h with
  | nil => exact h'
  | skip hnone _ ih => exact .skip hnone ih
  | take hgives _ ih => exact .take hgives ih

theorem mapM_eq_some_map {α β : Type} {f : α → Option β} (g : α → β) {items : List α}
    (h : ∀ item ∈ items, f item = some (g item)) : items.mapM f = some (items.map g) := by
  induction items with
  | nil => rfl
  | cons item rest ih =>
      obtain ⟨hitem, hrest⟩ := List.forall_mem_cons.1 h
      rw [List.mapM_cons, hitem, ih hrest]
      rfl

def IsFirst {α : Type} (P : α → Prop) (items : List α) (item : α) : Prop :=
  ∃ before after, items = before ++ item :: after ∧ P item ∧ ∀ earlier ∈ before, ¬P earlier

section IsFirst

variable {α : Type} {P : α → Prop} {p : α → Bool} {items : List α} {item other : α}

theorem IsFirst.mem (h : IsFirst P items item) : item ∈ items := by
  obtain ⟨before, after, rfl, -⟩ := h
  exact List.mem_append_right before List.mem_cons_self

theorem IsFirst.holds (h : IsFirst P items item) : P item := by
  obtain ⟨-, -, -, hitem, -⟩ := h
  exact hitem

theorem find?_eq_some_iff_isFirst (hp : ∀ item, p item = true ↔ P item) :
    items.find? p = some item ↔ IsFirst P items item := by
  rw [List.find?_eq_some_iff_append]
  simp only [Bool.not_eq_true', ← Bool.not_eq_true, hp]
  constructor
  · rintro ⟨hitem, before, after, hitems, hbefore⟩
    exact ⟨before, after, hitems, hitem, hbefore⟩
  · rintro ⟨before, after, hitems, hitem, hbefore⟩
    exact ⟨hitem, before, after, hitems, hbefore⟩

theorem find?_eq_none_iff_forall_not (hp : ∀ item, p item = true ↔ P item) :
    items.find? p = none ↔ ∀ item ∈ items, ¬P item := by
  rw [List.find?_eq_none]
  simp only [hp]

theorem IsFirst.unique [DecidablePred P] (h : IsFirst P items item) (h' : IsFirst P items other) :
    item = other := by
  rw [← find?_eq_some_iff_isFirst fun _ => decide_eq_true_iff] at h h'
  exact Option.some.inj (h.symm.trans h')

end IsFirst

end DegreeAudit
