import DegreeAudit.Json.Reader

/-!
# What a reader can bring

Whatever holds of each value that a reader brings holds of the items and the members that are read
with it. So a value that was read holds no key twice, and is no deeper than there was room:
`value_brings`, by induction on the room. Likewise, if whatever one reader takes off a text is taken
off by another in some other form, then so are the lists that the two read.
-/

namespace DegreeAudit.Json

open Except (bind_eq_ok_iff map_eq_ok_iff)

theorem mem_put {α : Type} {key : String} {value : α} {members : List (String × α)}
    {member : String × α} (h : member ∈ put key value members) :
    member = (key, value) ∨ member ∈ members := by
  induction members with
  | nil => exact .inl (List.mem_singleton.1 h)
  | cons first rest ih =>
      rw [put] at h
      split at h
      · rcases List.mem_cons.1 h with h | h
        · exact .inl h
        · exact .inr (List.mem_cons_of_mem _ h)
      · rcases List.mem_cons.1 h with h | h
        · exact .inr (h ▸ List.mem_cons_self)
        · exact (ih h).imp_right (List.mem_cons_of_mem _)

namespace Reader

variable {α : Type} {reader : Reader α} {P : α → Prop} {s rest : List Char}

/-- Whatever the reader brings has a property. -/
def Brings (reader : Reader α) (P : α → Prop) : Prop :=
  ∀ {s a rest}, reader.run s = .ok (a, rest) → P a

theorem Brings.nextItems (h : reader.Brings P) {read items : List α} (hread : ∀ a ∈ read, P a)
    (hrun : reader.nextItems read s = .ok (items, rest)) : ∀ a ∈ items, P a := by
  fun_induction Reader.nextItems reader read s with
  | case1 => cases hrun
  | case2 =>
      cases hrun
      exact fun a ha => hread a (List.mem_reverse.1 ha)
  | case3 => cases hrun
  | case4 _ _ _ _ _ hitem _ _ _ _ ih =>
      exact ih (List.forall_mem_cons.2 ⟨h hitem, hread⟩) hrun
  | case5 => cases hrun

theorem Brings.items (h : reader.Brings P) {items : List α}
    (hrun : reader.items s = .ok (items, rest)) : ∀ a ∈ items, P a := by
  unfold Reader.items at hrun
  split at hrun
  · cases hrun
  · split at hrun
    · cases hrun
      exact List.forall_mem_nil P
    · obtain ⟨⟨a, after⟩, hitem, hrun⟩ := bind_eq_ok_iff.1 hrun
      exact h.nextItems (List.forall_mem_singleton.2 (h hitem)) hrun

theorem Brings.member (h : reader.Brings P) {member : String × α}
    (hrun : reader.member s = .ok (member, rest)) : P member.2 := by
  obtain ⟨_, -, hrun⟩ := bind_eq_ok_iff.1 hrun
  obtain ⟨_, hvalue, heq⟩ := map_eq_ok_iff.1 hrun
  cases heq
  exact h hvalue

theorem Brings.nextMembers (h : reader.Brings P) {read members : List (String × α)}
    (hread : ∀ member ∈ read, P member.2)
    (hrun : reader.nextMembers read s = .ok (members, rest)) :
    ∀ member ∈ members, P member.2 := by
  fun_induction Reader.nextMembers reader read s with
  | case1 => cases hrun
  | case2 =>
      cases hrun
      exact hread
  | case3 => cases hrun
  | case4 _ _ _ _ _ hmember _ _ _ _ ih =>
      refine ih (fun member hmem => ?_) hrun
      rcases mem_put hmem with rfl | hmem
      · exact h.member hmember
      · exact hread member hmem
  | case5 => cases hrun

theorem Brings.members (h : reader.Brings P) {members : List (String × α)}
    (hrun : reader.members s = .ok (members, rest)) : ∀ member ∈ members, P member.2 := by
  unfold Reader.members at hrun
  split at hrun
  · cases hrun
  · split at hrun
    · cases hrun
      exact fun member hmem => absurd hmem List.not_mem_nil
    · obtain ⟨⟨m, after⟩, hmember, hrun⟩ := bind_eq_ok_iff.1 hrun
      exact h.nextMembers (List.forall_mem_singleton.2 (h.member hmember)) hrun

/-! ### One reader in place of another -/

variable {β : Type} {other : Reader β} {f : α → β}

/-- What the one reader takes off the front of a text, the other takes off in another form. -/
def Refines (reader : Reader α) (f : α → β) (other : Reader β) : Prop :=
  ∀ {s a rest}, reader.run s = .ok (a, rest) → other.run s = .ok (f a, rest)

theorem Refines.nextItems (h : reader.Refines f other) {read items : List α}
    (hrun : reader.nextItems read s = .ok (items, rest)) :
    other.nextItems (read.map f) s = .ok (items.map f, rest) := by
  fun_induction Reader.nextItems reader read s with
  | case1 => cases hrun
  | case2 _ _ _ hs =>
      cases hrun
      rw [Reader.nextItems, List.map_reverse]
      split <;> grind
  | case3 => cases hrun
  | case4 _ _ _ _ _ hitem _ hs _ _ ih =>
      have hother := h hitem
      rw [Reader.nextItems, ← ih hrun]
      split <;> grind
  | case5 => cases hrun

theorem Refines.items (h : reader.Refines f other) {items : List α}
    (hrun : reader.items s = .ok (items, rest)) :
    other.items s = .ok (items.map f, rest) := by
  unfold Reader.items at hrun
  split at hrun
  · cases hrun
  · next hs =>
      rw [Reader.items, hs]
      dsimp only
      split at hrun
      · next hclosing =>
          cases hrun
          exact if_pos hclosing
      · next hclosing =>
          obtain ⟨⟨a, after⟩, hitem, hrun⟩ := bind_eq_ok_iff.1 hrun
          rw [if_neg hclosing, h hitem]
          exact h.nextItems hrun

end Reader

/-! ### Depth -/

namespace Value

theorem depthOfItems_le_iff {items : List Value} {n : Nat} :
    depthOfItems items ≤ n ↔ ∀ item ∈ items, item.depth ≤ n := by
  induction items with
  | nil => simp [depthOfItems]
  | cons item rest ih => rw [depthOfItems, Nat.max_le, ih, List.forall_mem_cons]

theorem depthOfMembers_le_iff {members : List (String × Value)} {n : Nat} :
    depthOfMembers members ≤ n ↔ ∀ member ∈ members, member.2.depth ≤ n := by
  induction members with
  | nil => simp [depthOfMembers]
  | cons member rest ih => rw [depthOfMembers, Nat.max_le, ih, List.forall_mem_cons]

/-- A value without arrays and objects. -/
def IsScalar : Value → Prop
  | array _ | object _ => False
  | _ => True

theorem IsScalar.wellKeyed {v : Value} (h : v.IsScalar) : v.WellKeyed := by
  cases v with
  | null => exact .null
  | bool b => exact .bool b
  | number n => exact .number n
  | text s => exact .text s
  | array | object => exact absurd h id

theorem IsScalar.depth_eq_zero {v : Value} (h : v.IsScalar) : v.depth = 0 := by
  cases v with
  | null | bool | number | text => rfl
  | array | object => exact absurd h id

end Value

namespace Reader

variable {inner : Option (Reader Value)} {s rest : List Char} {v : Value}

/-- A value that was read is a scalar, or its items or members were read by the inner reader. -/
theorem runValue_cases (h : runValue inner s = .ok (v, rest)) :
    v.IsScalar ∨
      (∃ reader items s', inner = some reader ∧ v = .array items ∧
        reader.items s' = .ok (items, rest)) ∨
      ∃ reader members s', inner = some reader ∧ v = .object members ∧
        reader.members s' = .ok (members, rest) := by
  unfold runValue at h
  split at h
  · cases h
  -- null, true, false, a string
  iterate 4
    · obtain ⟨_, -, heq⟩ := map_eq_ok_iff.1 h
      cases heq
      exact .inl trivial
  · split at h
    · cases h
    · obtain ⟨_, hitems, heq⟩ := map_eq_ok_iff.1 h
      cases heq
      exact .inr (.inl ⟨_, _, _, rfl, rfl, hitems⟩)
  · split at h
    · cases h
    · obtain ⟨_, hmembers, heq⟩ := map_eq_ok_iff.1 h
      cases heq
      exact .inr (.inr ⟨_, _, _, rfl, rfl, hmembers⟩)
  · split at h
    · obtain ⟨_, -, heq⟩ := map_eq_ok_iff.1 h
      cases heq
      exact .inl trivial
    · cases h

/-- A value that was read holds no key twice and is no deeper than there was room. -/
theorem value_brings (room : Nat) :
    (value room).Brings fun v => v.WellKeyed ∧ v.depth ≤ room := by
  induction room with
  | zero =>
      intro s v rest (h : runValue none s = .ok (v, rest))
      rcases runValue_cases h with hscalar | ⟨_, _, _, hinner, _⟩ | ⟨_, _, _, hinner, _⟩
      · exact ⟨hscalar.wellKeyed, Nat.le_of_eq hscalar.depth_eq_zero⟩
      · cases hinner
      · cases hinner
  | succ room ih =>
      intro s v rest (h : runValue (some (value room)) s = .ok (v, rest))
      rcases runValue_cases h with hscalar | ⟨_, items, _, hinner, rfl, hitems⟩ |
        ⟨_, members, _, hinner, rfl, hmembers⟩
      · exact ⟨hscalar.wellKeyed, hscalar.depth_eq_zero ▸ Nat.zero_le _⟩
      · cases hinner
        have hall := Brings.items ih hitems
        refine ⟨.array fun item hitem => (hall item hitem).1, Nat.succ_le_succ ?_⟩
        exact Value.depthOfItems_le_iff.2 fun item hitem => (hall item hitem).2
      · cases hinner
        have hall := Brings.members ih hmembers
        refine ⟨.object (nodup_keys_of_members hmembers) fun member hmember =>
          (hall member hmember).1, Nat.succ_le_succ ?_⟩
        exact Value.depthOfMembers_le_iff.2 fun member hmember => (hall member hmember).2

end Reader

end DegreeAudit.Json
