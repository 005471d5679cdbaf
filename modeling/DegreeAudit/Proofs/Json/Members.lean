import DegreeAudit.Proofs.Json.Printer

/-!
# Members of an object

Where no key stands twice, looking a key up and finding its member is the same, and building the
list by putting one member after the other leaves it as it is. A value without doubled keys and of
an allowed depth is read back from its compact text as a whole.
-/

namespace DegreeAudit.Json

variable {α : Type} {key : String} {value : α} {members : List (String × α)}

theorem mem_of_get? (h : get? key members = some value) : (key, value) ∈ members := by
  obtain ⟨member, hfind, rfl⟩ := Option.map_eq_some_iff.1 h
  have hkey : member.1 = key := by simpa using List.find?_some hfind
  exact hkey ▸ List.mem_of_find?_eq_some hfind

theorem get?_of_mem (hdistinct : (keys members).Nodup) (h : (key, value) ∈ members) :
    get? key members = some value := by
  induction members with
  | nil => cases h
  | cons member rest ih =>
      obtain ⟨hfresh, hdistinct⟩ := List.nodup_cons.1 hdistinct
      rcases List.mem_cons.1 h with rfl | h
      · simp [get?]
      · have hkey : member.1 ≠ key := by
          rintro rfl
          exact hfresh (List.mem_map.2 ⟨_, h, rfl⟩)
        have hrest : get? key rest = some value := ih hdistinct h
        rw [get?, List.find?_cons_of_neg (by simpa using hkey)]
        exact hrest

/-- The members that are there after each was put in turn. -/
def putAll (members : List (String × α)) : List (String × α) :=
  members.foldl (fun read member => put member.1 member.2 read) []

theorem foldl_put_eq_append {read : List (String × α)}
    (hdistinct : (keys (read ++ members)).Nodup) :
    members.foldl (fun read member => put member.1 member.2 read) read = read ++ members := by
  -- over what is still to be put, whatever is there already
  induction members generalizing read with
  | nil => exact (List.append_nil read).symm
  | cons member rest ih =>
      have hfresh : member.1 ∉ keys read := by
        intro hmem
        rw [keys, List.map_append, List.nodup_append] at hdistinct
        exact hdistinct.2.2 _ hmem _ List.mem_cons_self rfl
      rw [List.append_cons] at hdistinct
      rw [List.foldl_cons, put_of_not_mem hfresh, ih hdistinct, List.append_assoc,
        List.singleton_append]

/-- Where no key stands twice, no member takes the place of another. -/
theorem putAll_eq_self (hdistinct : (keys members).Nodup) : putAll members = members :=
  foldl_put_eq_append hdistinct

/-- A value whose compact text is read back where there is room for `room` arrays and objects. -/
structure Readable (room : Nat) (v : Value) : Prop where
  wellKeyed : v.WellKeyed
  depth_le : v.depth ≤ room
  readsBack : ∀ x, v.Holds x → ReadsBack x

namespace Readable

variable {room : Nat} {v : Value}

theorem reads (h : Readable room v) : (Reader.value room).Reads v.chars v :=
  Reader.reads_chars room h.wellKeyed h.depth_le h.readsBack

theorem item {items : List Value} (h : Readable (room + 1) (.array items)) :
    ∀ item ∈ items, Readable room item := by
  intro item hitem
  refine ⟨?_, ?_, fun x hx => h.readsBack x (.array hitem hx)⟩
  · cases h.wellKeyed with
    | array hkeys => exact hkeys item hitem
  · exact Value.depthOfItems_le_iff.1 (Nat.le_of_succ_le_succ h.depth_le) item hitem

theorem member {members : List (String × Value)} (h : Readable (room + 1) (.object members)) :
    ∀ member ∈ members, Readable room member.2 := by
  intro member hmember
  refine ⟨?_, ?_, fun x hx => h.readsBack x (.object hmember hx)⟩
  · cases h.wellKeyed with
    | object _ hkeys => exact hkeys member hmember
  · exact Value.depthOfMembers_le_iff.1 (Nat.le_of_succ_le_succ h.depth_le) member hmember

theorem distinct {members : List (String × Value)} (h : Readable room (.object members)) :
    (keys members).Nodup := by
  cases h.wellKeyed with
  | object hdistinct _ => exact hdistinct

end Readable

/-- A value is read back from its compact text. -/
theorem Value.read_chars {v : Value} (hkeys : v.WellKeyed) (hdepth : v.depth ≤ maxDepth)
    (hdoubles : ∀ x, v.Holds x → ReadsBack x) : Value.read v.chars = .ok v := by
  have hends : EndsNumeral [] := fun c hc => nomatch hc
  have hrun := (Reader.reads_chars maxDepth hkeys hdepth hdoubles).run hends
  rw [List.append_nil] at hrun
  rw [Value.read, hrun]
  rfl

end DegreeAudit.Json
