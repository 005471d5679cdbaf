import DegreeAudit.Curriculum.Progress
import DegreeAudit.Proofs.Json.Members
import DegreeAudit.Proofs.Order.Gathering

/-!
# How components are sorted

Sorting brings two lists of names, or it stops at the first component that lacks what it needs.
`Lacks` says what a component lacks, `ListedAs` under which name it is listed, both by its members
alone, and `ofComponents_sorts` that sorting goes by these. Every component goes one of four ways,
`Goes`; what holds of all components then follows by induction on the list.
-/

namespace DegreeAudit

open Json
open Except (map_eq_ok_iff)

namespace Component

/-- Without a status a component cannot be sorted, and without a name it cannot be listed. -/
inductive Lacks (c : Component) : RequiredField → Prop where
  | status (hmissing : statusKey ∉ c.keys) : Lacks c .status
  | name {word : String} (hstatus : (statusKey, .text word) ∈ c.members)
      (hlisted : word = "PENDENTE" ∨ word = "CONCLUIDO") (hmissing : nameKey ∉ c.keys) :
      Lacks c .name

/-- A text names a component as it is, any other value by its compact text. -/
inductive IsCalled (c : Component) : String → Prop where
  | text {name : String} (hname : (nameKey, .text name) ∈ c.members) : IsCalled c name
  | value {v : Value} (hname : (nameKey, v) ∈ c.members) (hother : ∀ s, v ≠ .text s) :
      IsCalled c v.compact

structure ListedAs (word : String) (c : Component) (name : String) : Prop where
  status : (statusKey, .text word) ∈ c.members
  called : c.IsCalled name

/-- The ways of a component: it stops the sorting, is listed, or is left out. -/
inductive Goes (c : Component) : Except RequiredField Progress → Prop where
  | missing {field : RequiredField} (hlacks : c.Lacks field) : Goes c (.error field)
  | pending {name : String} (hlisted : c.ListedAs "PENDENTE" name) : Goes c (.ok ⟨[name], []⟩)
  | completed {name : String} (hlisted : c.ListedAs "CONCLUIDO" name) : Goes c (.ok ⟨[], [name]⟩)
  | other {v : Value} (hstatus : (statusKey, v) ∈ c.members) (hpending : v ≠ .text "PENDENTE")
      (hcompleted : v ≠ .text "CONCLUIDO") : Goes c (.ok .empty)

end Component

/-- What comes of sorting components. -/
structure Sorts (components : List Component) (result : Except MissingField Progress) : Prop where
  succeeds : (∃ p, result = .ok p) ↔ ∀ c ∈ components, ∀ field, ¬c.Lacks field
  sorted : ∀ p, result = .ok p →
    Gathers (Component.ListedAs "PENDENTE") components p.pending ∧
      Gathers (Component.ListedAs "CONCLUIDO") components p.completed
  /-- The first component that lacks something is told, and what it lacks. -/
  fails : ∀ missing, result = .error missing →
    ∃ c, components[missing.index]? = some c ∧ c.Lacks missing.field ∧
      missing.field.key = (if Component.statusKey ∈ c.keys then "nome" else "situacao") ∧
      ∀ earlier ∈ components.take missing.index, ∀ field, ¬earlier.Lacks field

variable {c : Component} {key word name : String} {v w : Value} {field : RequiredField}

/-! ### One component -/

namespace Component

theorem mem_members_iff : (key, v) ∈ c.members ↔ c.get? key = some v :=
  ⟨get?_of_mem c.distinct, mem_of_get?⟩

theorem not_mem_keys_iff : key ∉ c.keys ↔ c.get? key = none := by
  rw [Option.eq_none_iff_forall_ne_some]
  simp only [keys, Json.keys, ne_eq, ← mem_members_iff]
  simp

theorem mem_members_unique (hv : (key, v) ∈ c.members) (hw : (key, w) ∈ c.members) : v = w := by
  rw [mem_members_iff] at hv hw
  exact Option.some.inj (hv.symm.trans hw)

theorem mem_keys_of_mem_members (h : (key, v) ∈ c.members) : key ∈ c.keys :=
  List.mem_map_of_mem h

theorem isCalled_of_listedName? (h : Progress.listedName? c = some name) : c.IsCalled name := by
  obtain ⟨v, hv, rfl⟩ := Option.map_eq_some_iff.1 h
  cases v with
  | text s => exact .text (mem_members_iff.2 hv)
  | null | bool | number | array | object =>
      exact .value (mem_members_iff.2 hv) fun s hs => Value.noConfusion hs

theorem not_mem_keys_of_listedName? (h : Progress.listedName? c = none) : nameKey ∉ c.keys :=
  not_mem_keys_iff.2 (Option.map_eq_none_iff.1 h)

theorem IsCalled.mem_keys (h : c.IsCalled name) : nameKey ∈ c.keys := by
  cases h with
  | text hname => exact mem_keys_of_mem_members hname
  | value hname => exact mem_keys_of_mem_members hname

theorem status?_of_text (h : c.get? statusKey = some (.text word)) :
    c.status? = some (Status.ofText word) := by
  rw [status?, h]
  rfl

/-- A component is sorted by its status and listed by its name. -/
theorem ofComponent_goes (c : Component) : c.Goes (Progress.ofComponent c) := by
  unfold Progress.ofComponent
  cases hstatus : c.get? statusKey with
  | none => exact .missing (.status (not_mem_keys_iff.2 hstatus))
  | some v =>
      have hmem := mem_members_iff.2 hstatus
      rw [if_neg (by simp)]
      cases v with
      | text word =>
          rw [status?_of_text hstatus]
          by_cases hpending : word = "PENDENTE"
          · subst hpending
            cases hname : Progress.listedName? c with
            | none => exact .missing (.name hmem (.inl rfl) (not_mem_keys_of_listedName? hname))
            | some name => exact .pending ⟨hmem, isCalled_of_listedName? hname⟩
          by_cases hcompleted : word = "CONCLUIDO"
          · subst hcompleted
            cases hname : Progress.listedName? c with
            | none => exact .missing (.name hmem (.inr rfl) (not_mem_keys_of_listedName? hname))
            | some name => exact .completed ⟨hmem, isCalled_of_listedName? hname⟩
          · have hother : Status.ofText word ≠ .pending ∧ Status.ofText word ≠ .completed := by
              simp only [Status.ofText, hpending, hcompleted, if_false]
              split <;> simp
            split
            · next heq => exact absurd (Option.some.inj heq) hother.1
            · next heq => exact absurd (Option.some.inj heq) hother.2
            · exact .other hmem (by simpa using hpending) (by simpa using hcompleted)
      | null | bool | number | array | object =>
          have hnone : c.status? = none := by
            rw [status?, hstatus]
            rfl
          rw [hnone]
          exact .other hmem (fun h => Value.noConfusion h) fun h => Value.noConfusion h

theorem ListedAs.not_of_ne {other : String} (h : c.ListedAs word name) (hne : word ≠ other)
    (name' : String) : ¬c.ListedAs other name' := by
  intro h'
  have hsame := mem_members_unique h.status h'.status
  exact hne (Value.text.inj hsame)

/-- What is listed lacks nothing. -/
theorem ListedAs.not_lacks (h : c.ListedAs word name) (field : RequiredField) :
    ¬c.Lacks field := by
  intro hlacks
  cases hlacks with
  | status hmissing => exact hmissing (mem_keys_of_mem_members h.status)
  | name _ _ hmissing => exact hmissing h.called.mem_keys

theorem Lacks.key_eq (h : c.Lacks field) :
    field.key = if statusKey ∈ c.keys then "nome" else "situacao" := by
  cases h with
  | status hmissing =>
      rw [if_neg hmissing]
      rfl
  | name hstatus =>
      rw [if_pos (mem_keys_of_mem_members hstatus)]
      rfl

variable {p : Progress}

theorem Goes.not_lacks (h : c.Goes (.ok p)) (field : RequiredField) : ¬c.Lacks field := by
  cases h with
  | pending hlisted => exact hlisted.not_lacks field
  | completed hlisted => exact hlisted.not_lacks field
  | other hstatus hpending hcompleted =>
      intro hlacks
      cases hlacks with
      | status hmissing => exact hmissing (mem_keys_of_mem_members hstatus)
      | name hword hlisted _ =>
          obtain rfl := mem_members_unique hstatus hword
          rcases hlisted with rfl | rfl
          · exact hpending rfl
          · exact hcompleted rfl

/-- A component is listed once at the most. -/
theorem Goes.length_le (h : c.Goes (.ok p)) : p.completed.length + p.pending.length ≤ 1 := by
  cases h with
  | pending => exact Nat.le_refl 1
  | completed => exact Nat.le_refl 1
  | other => exact Nat.zero_le 1

theorem Goes.gathers (h : c.Goes (.ok p)) :
    Gathers (ListedAs "PENDENTE") [c] p.pending ∧
      Gathers (ListedAs "CONCLUIDO") [c] p.completed := by
  cases h with
  | pending hlisted =>
      exact ⟨.take hlisted .nil, .skip (hlisted.not_of_ne (by decide)) .nil⟩
  | completed hlisted =>
      exact ⟨.skip (hlisted.not_of_ne (by decide)) .nil, .take hlisted .nil⟩
  | other hstatus hpending hcompleted =>
      constructor
      · refine .skip (fun name hlisted => ?_) .nil
        exact hpending (mem_members_unique hstatus hlisted.status)
      · refine .skip (fun name hlisted => ?_) .nil
        exact hcompleted (mem_members_unique hstatus hlisted.status)

end Component

/-! ### All components -/

namespace Progress

variable {components : List Component} {index : Nat}

theorem ofComponentsFrom_cons_eq_ok {p : Progress}
    (h : ofComponentsFrom index (c :: components) = .ok p) :
    ∃ first rest, ofComponent c = .ok first ∧ ofComponentsFrom (index + 1) components = .ok rest ∧
      p = first.append rest := by
  rw [ofComponentsFrom] at h
  cases hfirst : ofComponent c with
  | error field =>
      rw [hfirst] at h
      cases h
  | ok first =>
      rw [hfirst] at h
      obtain ⟨rest, hrest, rfl⟩ := map_eq_ok_iff.1 h
      exact ⟨first, rest, rfl, hrest, rfl⟩

theorem ofComponentsFrom_ok {p : Progress} (h : ofComponentsFrom index components = .ok p) :
    (∀ c ∈ components, ∀ field, ¬c.Lacks field) ∧
      Gathers (Component.ListedAs "PENDENTE") components p.pending ∧
      Gathers (Component.ListedAs "CONCLUIDO") components p.completed := by
  induction components generalizing index p with
  | nil =>
      cases h
      exact ⟨List.forall_mem_nil _, .nil, .nil⟩
  | cons c rest ih =>
      have hgoes := Component.ofComponent_goes c
      obtain ⟨first, q, hfirst, hq, rfl⟩ := ofComponentsFrom_cons_eq_ok h
      rw [hfirst] at hgoes
      obtain ⟨hlacks, hpending, hcompleted⟩ := ih hq
      obtain ⟨hfirstPending, hfirstCompleted⟩ := hgoes.gathers
      exact ⟨List.forall_mem_cons.2 ⟨hgoes.not_lacks, hlacks⟩,
        hfirstPending.append hpending, hfirstCompleted.append hcompleted⟩

theorem length_le_of_ofComponentsFrom {p : Progress}
    (h : ofComponentsFrom index components = .ok p) :
    p.completed.length + p.pending.length ≤ components.length := by
  induction components generalizing index p with
  | nil =>
      cases h
      exact Nat.le_refl 0
  | cons c rest ih =>
      have hgoes := Component.ofComponent_goes c
      obtain ⟨first, q, hfirst, hq, rfl⟩ := ofComponentsFrom_cons_eq_ok h
      rw [hfirst] at hgoes
      have hone := hgoes.length_le
      have hmore := ih hq
      simp only [append, List.length_append, List.length_cons]
      omega

theorem ofComponentsFrom_error {missing : MissingField}
    (h : ofComponentsFrom index components = .error missing) :
    ∃ i c, missing.index = index + i ∧ components[i]? = some c ∧ c.Lacks missing.field ∧
      ∀ earlier ∈ components.take i, ∀ field, ¬earlier.Lacks field := by
  induction components generalizing index with
  | nil => cases h
  | cons c rest ih =>
      have hgoes := Component.ofComponent_goes c
      rw [ofComponentsFrom] at h
      cases hfirst : ofComponent c with
      | error field =>
          rw [hfirst] at h hgoes
          cases h
          cases hgoes with
          | missing hlacks => exact ⟨0, c, rfl, rfl, hlacks, List.forall_mem_nil _⟩
      | ok first =>
          rw [hfirst] at h hgoes
          cases hrest : ofComponentsFrom (index + 1) rest with
          | ok q =>
              rw [hrest] at h
              cases h
          | error found =>
              rw [hrest] at h
              cases h
              obtain ⟨i, c', hindex, hc', hlacks, hearlier⟩ := ih hrest
              refine ⟨i + 1, c', by omega, hc', hlacks, ?_⟩
              exact List.forall_mem_cons.2 ⟨hgoes.not_lacks, hearlier⟩

end Progress

/-- Components are sorted by their status, each under its name, or the first that lacks something
is told. -/
theorem ofComponents_sorts (components : List Component) :
    Sorts components (Progress.ofComponents components) := by
  unfold Progress.ofComponents
  constructor
  · constructor
    · intro hresult
      obtain ⟨p, hp⟩ := hresult
      exact (Progress.ofComponentsFrom_ok hp).1
    · intro hlacks
      cases hresult : Progress.ofComponentsFrom 0 components with
      | ok p => exact ⟨p, rfl⟩
      | error missing =>
          obtain ⟨i, c, -, hc, hmissing, -⟩ := Progress.ofComponentsFrom_error hresult
          exact absurd hmissing (hlacks c (List.mem_of_getElem? hc) _)
  · intro p hp
    exact (Progress.ofComponentsFrom_ok hp).2
  · intro missing hmissing
    obtain ⟨i, c, hindex, hc, hlacks, hearlier⟩ := Progress.ofComponentsFrom_error hmissing
    rw [Nat.zero_add] at hindex
    rw [hindex]
    exact ⟨c, hc, hlacks, hlacks.key_eq, hearlier⟩

end DegreeAudit
