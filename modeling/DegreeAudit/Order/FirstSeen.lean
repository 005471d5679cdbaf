/-!
# First come, first kept

`firstSeen key items` keeps, in order, each item whose key no earlier item has. The keys of the
result are distinct, every key of the list is among them, and a longer list only adds at the end.
-/

namespace DegreeAudit.Order

variable {α κ : Type} [DecidableEq κ]

/-- The items whose key is neither among `seen` nor the key of an earlier item. -/
def firstSeenAfter (key : α → κ) (seen : List κ) : List α → List α
  | [] => []
  | item :: rest =>
    if key item ∈ seen then firstSeenAfter key seen rest
    else item :: firstSeenAfter key (key item :: seen) rest

/-- The items whose key is not the key of an earlier item. -/
def firstSeen (key : α → κ) (items : List α) : List α := firstSeenAfter key [] items

theorem mem_map_firstSeenAfter {key : α → κ} {seen : List κ} {items : List α} {k : κ} :
    k ∈ (firstSeenAfter key seen items).map key ↔ k ∈ items.map key ∧ k ∉ seen := by
  induction items generalizing seen with
  | nil => simp [firstSeenAfter]
  | cons item rest ih =>
    rw [firstSeenAfter]
    split
    · grind
    · grind

theorem nodup_map_firstSeenAfter (key : α → κ) (seen : List κ) (items : List α) :
    ((firstSeenAfter key seen items).map key).Nodup := by
  induction items generalizing seen with
  | nil => simp [firstSeenAfter]
  | cons item rest ih =>
    rw [firstSeenAfter]
    split
    · exact ih seen
    · rw [List.map_cons, List.nodup_cons]
      refine ⟨fun h => ?_, ih _⟩
      exact (mem_map_firstSeenAfter.1 h).2 (by simp)

/-- An item is the first of its key, with these items before it. -/
def SplitsAtFirst (key : α → κ) (items before : List α) (item : α) : Prop :=
  ∃ after, items = before ++ item :: after ∧ ∀ earlier ∈ before, key earlier ≠ key item

omit [DecidableEq κ] in
theorem SplitsAtFirst.cons {key : α → κ} {items before : List α} {first item : α}
    (h : SplitsAtFirst key items before item) (hfirst : key first ≠ key item) :
    SplitsAtFirst key (first :: items) (first :: before) item := by
  obtain ⟨after, rfl, hbefore⟩ := h
  exact ⟨after, rfl, List.forall_mem_cons.2 ⟨hfirst, hbefore⟩⟩

theorem not_mem_of_mem_firstSeenAfter {key : α → κ} {seen : List κ} {items : List α} {item : α}
    (h : item ∈ firstSeenAfter key seen items) : key item ∉ seen :=
  (mem_map_firstSeenAfter.1 (List.mem_map_of_mem h)).2

theorem exists_splitsAtFirst {key : α → κ} {seen : List κ} {items : List α} {item : α}
    (h : item ∈ firstSeenAfter key seen items) : ∃ before, SplitsAtFirst key items before item := by
  induction items generalizing seen with
  | nil => cases h
  | cons first rest ih =>
    have hnew := not_mem_of_mem_firstSeenAfter h
    rw [firstSeenAfter] at h
    split at h
    · next hseen =>
      obtain ⟨before, hsplit⟩ := ih h
      exact ⟨first :: before, hsplit.cons fun heq => hnew (heq ▸ hseen)⟩
    · rcases List.mem_cons.1 h with rfl | h
      · exact ⟨[], rest, rfl, List.forall_mem_nil _⟩
      · obtain ⟨before, hsplit⟩ := ih h
        have hne := List.ne_of_not_mem_cons (not_mem_of_mem_firstSeenAfter h)
        exact ⟨first :: before, hsplit.cons hne.symm⟩

theorem pairwise_firstSeenAfter (key : α → κ) (seen : List κ) (items : List α) :
    (firstSeenAfter key seen items).Pairwise fun a b =>
      ∃ before, SplitsAtFirst key items before b ∧ a ∈ before := by
  induction items generalizing seen with
  | nil => exact .nil
  | cons first rest ih =>
    rw [firstSeenAfter]
    split
    · next hseen =>
      refine (ih seen).imp_of_mem ?_
      rintro a b - hb ⟨before, hsplit, ha⟩
      have hnew := not_mem_of_mem_firstSeenAfter hb
      exact ⟨first :: before, hsplit.cons fun heq => hnew (heq ▸ hseen), List.mem_cons_of_mem _ ha⟩
    · have hne {b : α} (hb : b ∈ firstSeenAfter key (key first :: seen) rest) :
          key first ≠ key b :=
        (List.ne_of_not_mem_cons (not_mem_of_mem_firstSeenAfter hb)).symm
      refine .cons ?_ ((ih _).imp_of_mem ?_)
      · intro b hb
        obtain ⟨before, hsplit⟩ := exists_splitsAtFirst hb
        exact ⟨first :: before, hsplit.cons (hne hb), List.mem_cons_self⟩
      · rintro a b - hb ⟨before, hsplit, ha⟩
        exact ⟨first :: before, hsplit.cons (hne hb), List.mem_cons_of_mem _ ha⟩

theorem find?_firstSeenAfter {key : α → κ} {seen : List κ} {items : List α} {k : κ}
    (hk : k ∉ seen) :
    (firstSeenAfter key seen items).find? (key · == k) = items.find? (key · == k) := by
  induction items generalizing seen with
  | nil => rfl
  | cons item rest ih =>
    have hseen (h : key item ∈ seen) : (key item == k) = false := by
      rw [beq_eq_false_iff_ne]
      rintro rfl
      exact hk h
    rw [firstSeenAfter, List.find?_cons]
    split
    · next hmem => rw [hseen hmem, ih hk]
    · rw [List.find?_cons]
      split
      · rfl
      · next hne => exact ih fun h => by grind

/-- The keys that are kept are the keys of the list. -/
theorem mem_map_firstSeen {key : α → κ} {items : List α} {k : κ} :
    k ∈ (firstSeen key items).map key ↔ k ∈ items.map key := by
  simp [firstSeen, mem_map_firstSeenAfter]

/-- No key is kept twice. -/
theorem nodup_map_firstSeen (key : α → κ) (items : List α) :
    ((firstSeen key items).map key).Nodup :=
  nodup_map_firstSeenAfter key [] items

/-- What is kept earlier came before the first item of the key of what is kept later. -/
theorem pairwise_firstSeen (key : α → κ) (items : List α) :
    (firstSeen key items).Pairwise fun a b =>
      ∃ before, SplitsAtFirst key items before b ∧ a ∈ before :=
  pairwise_firstSeenAfter key [] items

/-- What is kept of a key is what comes first. -/
theorem find?_firstSeen (key : α → κ) (items : List α) (k : κ) :
    (firstSeen key items).find? (key · == k) = items.find? (key · == k) :=
  find?_firstSeenAfter List.not_mem_nil

end DegreeAudit.Order
