import DegreeAudit.Proofs.Curriculum.Answer
import DegreeAudit.Proofs.Export.Table
import DegreeAudit.Proofs.Json.Members
import Mathlib.Data.List.Nodup

/-!
# The table as JSON

The table's text is read back as an object of columns, each an object of cells under the numbers of
the rows: `read_render_table`. Neither the columns' keys nor the rows' numbers come twice, so no
cell takes the place of another, and every component is found again in its row, except for the
order of its fields and for the fields that are null, which look there like absent ones.

That it is read at all needs the bounds of what was read before: a component's values stand one
level deeper in the table than in an answer, where there is room for one more.
-/

namespace DegreeAudit

open Json

namespace Table

/-! ### Rows under their numbers -/

/-- No two rows have the same number in decimal. -/
theorem toString_injective : Function.Injective (toString : Nat → String) := by
  intro row other h
  have hdigits : decimalDigits row = decimalDigits other := String.ofList_injective h
  rw [← digitsValue_decimalDigits row, hdigits, digitsValue_decimalDigits]

theorem keys_numbered {α β : Type} (items : List α) (value : α → β) :
    keys (items.zipIdx.map fun (item, row) => (toString row, value item))
      = (List.range items.length).map toString := by
  rw [keys, List.map_map, List.range_eq_range', ← List.zipIdx_map_snd 0 items, List.map_map]
  rfl

theorem nodup_keys_numbered {α β : Type} (items : List α) (value : α → β) :
    (keys (items.zipIdx.map fun (item, row) => (toString row, value item))).Nodup := by
  rw [keys_numbered]
  exact List.nodup_range.map toString_injective

/-! ### Columns and cells -/

def cellsOf (components : List Component) (key : String) : List (String × Value) :=
  components.zipIdx.map fun (c, row) => (toString row, (c.get? key).getD .null)

def columnMembers (components : List Component) : List (String × Value) :=
  (columnsOf components).map fun key => (key, .object (cellsOf components key))

theorem columnValue_ofComponents {components : List Component} {key : String} {column : Nat}
    (h : (columnsOf components)[column]? = some key) :
    (ofComponents components).columnValue column = .object (cellsOf components key) := by
  unfold columnValue ofComponents cellsOf
  rw [List.zipIdx_map, List.map_map]
  refine congrArg _ (List.map_congr_left fun ⟨c, row⟩ _ => ?_)
  simp only [Function.comp_apply, Prod.map_apply, id_eq, rowOf, List.getElem?_map, h]
  rfl

theorem toValue_ofComponents (components : List Component) :
    (ofComponents components).toValue = .object (columnMembers components) := by
  unfold toValue columnMembers
  have hcolumns : (columnsOf components).zipIdx.map Prod.fst = columnsOf components :=
    List.zipIdx_map_fst 0 _
  conv_rhs => rw [← hcolumns, List.map_map]
  refine congrArg _ (List.map_congr_left fun ⟨key, column⟩ hmem => ?_)
  have hkey : (columnsOf components)[column]? = some key := List.mem_zipIdx_iff_getElem?.1 hmem
  exact congrArg (Prod.mk key) (columnValue_ofComponents hkey)

theorem keys_columnMembers (components : List Component) :
    keys (columnMembers components) = columnsOf components := by
  rw [keys, columnMembers, List.map_map]
  exact List.map_id _

theorem keys_cellsOf (components : List Component) (key : String) :
    keys (cellsOf components key) = (List.range components.length).map toString :=
  keys_numbered components fun c => (c.get? key).getD .null

theorem nodup_keys_cellsOf (components : List Component) (key : String) :
    (keys (cellsOf components key)).Nodup :=
  nodup_keys_numbered components fun c => (c.get? key).getD .null

theorem nodup_keys_columnMembers (components : List Component) :
    (keys (columnMembers components)).Nodup := by
  rw [keys_columnMembers]
  exact (ofComponents components).distinct

theorem get?_cellsOf {components : List Component} {row : Nat} {c : Component}
    (h : components[row]? = some c) (key : String) :
    get? (toString row) (cellsOf components key) = some ((c.get? key).getD .null) :=
  get?_of_mem (nodup_keys_cellsOf components key)
    (List.mem_map.2 ⟨(c, row), List.mem_zipIdx_iff_getElem?.2 h, rfl⟩)

theorem mem_cellsOf {components : List Component} {key : String} {cell : String × Value}
    (h : cell ∈ cellsOf components key) : ∃ c ∈ components, cell.2 = (c.get? key).getD .null := by
  obtain ⟨⟨c, row⟩, hmem, rfl⟩ := List.mem_map.1 h
  exact ⟨c, List.mem_of_getElem? (List.mem_zipIdx_iff_getElem?.1 hmem), rfl⟩

/-- A key that some component has is a column. -/
theorem mem_columnsOf {components : List Component} {c : Component} {key : String} {value : Value}
    (hc : c ∈ components) (hvalue : c.get? key = some value) : key ∈ columnsOf components := by
  have hkey : key ∈ c.keys := List.mem_map.2 ⟨_, mem_of_get? hvalue, rfl⟩
  have hseen : key ∈ (columnsOf components).map id :=
    Order.mem_map_firstSeen.2 (List.mem_map.2 ⟨key, List.mem_flatMap.2 ⟨c, hc, hkey⟩, rfl⟩)
  rwa [List.map_id] at hseen

/-- The table built by insertion: each cell is put under the number of its row, and each column
under its key. -/
def inserted (t : Table) : Value :=
  .object (putAll (t.columns.zipIdx.map fun (key, column) =>
    (key, .object (putAll (t.rows.zipIdx.map fun (row, i) =>
      (rowName i, (row[column]?).getD .null))))))

/-- No cell and no column that is inserted takes the place of another. -/
theorem inserted_eq_toValue (t : Table) : t.inserted = t.toValue := by
  have hcells : ∀ column : Nat,
      putAll (t.rows.zipIdx.map fun (row, i) => (rowName i, (row[column]?).getD .null))
        = t.rows.zipIdx.map fun (row, i) => (rowName i, (row[column]?).getD .null) := fun column =>
    putAll_eq_self (nodup_keys_numbered t.rows fun row => (row[column]?).getD .null)
  have hdistinct :
      (keys (t.columns.zipIdx.map fun (key, column) => (key, t.columnValue column))).Nodup := by
    have hkeys : (t.columns.zipIdx.map Prod.fst).Nodup := by
      rw [List.zipIdx_map_fst]
      exact t.distinct
    rwa [keys, List.map_map]
  unfold inserted
  simp only [hcells]
  exact congrArg _ (putAll_eq_self hdistinct)

end Table

/-! ### Within bounds -/

/-- The component stands in some answer. -/
def Component.IsAnswered (c : Component) : Prop :=
  ∃ body curriculum, Curriculum.ofBody body = .ok curriculum ∧ c ∈ curriculum.components

theorem Component.IsAnswered.withinBounds {c : Component} (h : c.IsAnswered) : c.WithinBounds := by
  obtain ⟨body, curriculum, hread, hc⟩ := h
  exact Curriculum.withinBounds_of_read hread c hc

namespace Table

variable {components : List Component}

/-- Whatever holds of null and of the fields of the components holds of the cells. -/
theorem forall_mem_cellsOf {P : Value → Prop} (hnull : P .null)
    (hfields : ∀ c ∈ components, ∀ member ∈ c.members, P member.2) (key : String) :
    ∀ cell ∈ cellsOf components key, P cell.2 := by
  intro cell hcell
  obtain ⟨c, hc, heq⟩ := mem_cellsOf hcell
  rw [heq]
  cases hvalue : c.get? key with
  | none => exact hnull
  | some value => exact hfields c hc _ (mem_of_get? hvalue)

theorem wellKeyed_columnMembers (h : ∀ c ∈ components, c.WithinBounds) :
    (Value.object (columnMembers components)).WellKeyed := by
  refine .object (nodup_keys_columnMembers components) fun member hmember => ?_
  obtain ⟨key, -, rfl⟩ := List.mem_map.1 hmember
  refine .object (nodup_keys_cellsOf components key) ?_
  exact forall_mem_cellsOf .null (fun c hc member hmember => (h c hc member hmember).1) key

theorem depth_columnMembers_le (h : ∀ c ∈ components, c.WithinBounds) :
    (Value.object (columnMembers components)).depth ≤ maxDepth := by
  have hcells : ∀ key,
      (Value.object (cellsOf components key)).depth ≤ Curriculum.valueDepth + 1 := by
    intro key
    refine Nat.succ_le_succ (Value.depthOfMembers_le_iff.2 ?_)
    exact forall_mem_cellsOf (P := fun value => value.depth ≤ Curriculum.valueDepth)
      (Nat.zero_le _) (fun c hc member hmember => (h c hc member hmember).2) key
  have hcolumns : (Value.object (columnMembers components)).depth ≤ Curriculum.valueDepth + 2 := by
    refine Nat.succ_le_succ (Value.depthOfMembers_le_iff.2 fun member hmember => ?_)
    obtain ⟨key, -, rfl⟩ := List.mem_map.1 hmember
    exact hcells key
  exact Nat.le_trans hcolumns (by decide)

/-- A double in the table is one in a component. -/
theorem exists_holds_of_columnMembers {x : Decimal.Binary64}
    (h : (Value.object (columnMembers components)).Holds x) :
    ∃ c ∈ components, c.toValue.Holds x := by
  cases h with
  | object hmember h =>
      obtain ⟨key, -, rfl⟩ := List.mem_map.1 hmember
      cases h with
      | object hcell h =>
          obtain ⟨c, hc, heq⟩ := mem_cellsOf hcell
          rw [heq] at h
          cases hvalue : c.get? key with
          | none =>
              rw [hvalue] at h
              cases h
          | some value =>
              rw [hvalue] at h
              exact ⟨c, hc, .object (mem_of_get? hvalue) h⟩

end Table

/-! ### What is read -/

def Json.Value.isNull : Value → Bool
  | .null => true
  | _ => false

/-- The cell of a column in a row, unless it is null. -/
def cellAt? (row : Nat) : Value → Option Value
  | .object cells => (get? (toString row) cells).filter (!·.isNull)
  | _ => none

/-- The fields found in a row of a table that was read: its cells that are not null, under the keys
of their columns. -/
def fieldsOfRow (members : List (String × Value)) (row : Nat) : List (String × Value) :=
  members.filterMap fun (key, column) => (cellAt? row column).map fun value => (key, value)

/-- The members of a table hold the components column by column, and nothing else. -/
structure HoldsComponents (components : List Component) (members : List (String × Value)) : Prop
    where
  columns : keys members = (Table.ofComponents components).columns
  distinct : (keys members).Nodup
  cells : ∀ key column, (key, column) ∈ members → ∃ cells, column = .object cells ∧
    keys cells = (List.range components.length).map toString ∧ (keys cells).Nodup ∧
    ∀ (row : Nat) (c : Component), components[row]? = some c →
      get? (toString row) cells = some ((c.get? key).getD .null)
  /-- Each component is found again in its row, up to the order of its fields and to null. -/
  rebuilt : ∀ (row : Nat) (c : Component), components[row]? = some c →
    (fieldsOfRow members row).Perm (c.members.filter (!·.2.isNull))
  /-- Inserting cells and columns one after the other loses none. -/
  inserted : (Table.ofComponents components).inserted = .object members

theorem cellAt?_cellsOf {components : List Component} {row : Nat} {c : Component}
    (h : components[row]? = some c) (key : String) :
    cellAt? row (.object (Table.cellsOf components key)) = (c.get? key).filter (!·.isNull) := by
  rw [cellAt?, Table.get?_cellsOf h]
  cases c.get? key <;> rfl

theorem mem_fieldsOfRow {members : List (String × Value)} {row : Nat} {field : String × Value} :
    field ∈ fieldsOfRow members row ↔
      ∃ column, (field.1, column) ∈ members ∧ cellAt? row column = some field.2 := by
  unfold fieldsOfRow
  rw [List.mem_filterMap]
  constructor
  · rintro ⟨⟨key, column⟩, hmem, hfield⟩
    obtain ⟨value, hvalue, rfl⟩ := Option.map_eq_some_iff.1 hfield
    exact ⟨column, hmem, hvalue⟩
  · rintro ⟨column, hmem, hvalue⟩
    exact ⟨(field.1, column), hmem, Option.map_eq_some_iff.2 ⟨field.2, hvalue, rfl⟩⟩

theorem nodup_fieldsOfRow {members : List (String × Value)} (hdistinct : (keys members).Nodup)
    (row : Nat) : (fieldsOfRow members row).Nodup := by
  have hpairwise : members.Pairwise fun m other => m.1 ≠ other.1 := List.pairwise_map.1 hdistinct
  refine List.Pairwise.filterMap _ ?_ hpairwise
  intro m other hne field hfield field' hfield' heq
  obtain ⟨_, -, rfl⟩ := Option.map_eq_some_iff.1 hfield
  obtain ⟨_, -, rfl⟩ := Option.map_eq_some_iff.1 hfield'
  exact hne (Prod.mk.inj heq).1

/-- The fields found in a row are those of its component that are not null. -/
theorem mem_fieldsOfRow_columnMembers {components : List Component} {row : Nat} {c : Component}
    (hc : components[row]? = some c) {field : String × Value} :
    field ∈ fieldsOfRow (Table.columnMembers components) row ↔
      field ∈ c.members.filter (!·.2.isNull) := by
  rw [mem_fieldsOfRow, List.mem_filter]
  constructor
  · rintro ⟨column, hmem, hcell⟩
    obtain ⟨key, -, heq⟩ := List.mem_map.1 hmem
    cases heq
    rw [cellAt?_cellsOf hc, Option.filter_eq_some_iff] at hcell
    exact ⟨mem_of_get? hcell.1, hcell.2⟩
  · rintro ⟨hmem, hnull⟩
    have hvalue : c.get? field.1 = some field.2 := get?_of_mem c.distinct hmem
    have hkey := Table.mem_columnsOf (List.mem_of_getElem? hc) hvalue
    refine ⟨_, List.mem_map.2 ⟨field.1, hkey, rfl⟩, ?_⟩
    rw [cellAt?_cellsOf hc, Option.filter_eq_some_iff]
    exact ⟨hvalue, hnull⟩

theorem holdsComponents_columnMembers (components : List Component) :
    HoldsComponents components (Table.columnMembers components) where
  columns := Table.keys_columnMembers components
  distinct := Table.nodup_keys_columnMembers components
  cells key column hmem := by
    obtain ⟨key, -, heq⟩ := List.mem_map.1 hmem
    cases heq
    exact ⟨_, rfl, Table.keys_cellsOf components _, Table.nodup_keys_cellsOf components _,
      fun row c hc => Table.get?_cellsOf hc _⟩
  rebuilt row c hc := by
    have hfields := nodup_fieldsOfRow (Table.nodup_keys_columnMembers components) row
    have hmembers : (c.members.filter (!·.2.isNull)).Nodup :=
      (List.Nodup.of_map Prod.fst c.distinct).filter _
    exact (List.perm_ext_iff_of_nodup hfields hmembers).2 fun _ => mem_fieldsOfRow_columnMembers hc
  inserted := by
    rw [Table.inserted_eq_toValue, Table.toValue_ofComponents]

/-- The text of a table is read back as the columns of the components, if each of these was read
from some answer and each double in them is read back from its digits. -/
theorem read_render_table {components : List Component}
    (hanswered : ∀ c ∈ components, c.IsAnswered)
    (hdoubles : ∀ c ∈ components, ∀ x, c.toValue.Holds x → ReadsBack x) :
    ∃ members, Value.read (ExportFormat.table.render components).toList = .ok (.object members) ∧
      HoldsComponents components members := by
  have hbounds : ∀ c ∈ components, c.WithinBounds := fun c hc => (hanswered c hc).withinBounds
  refine ⟨Table.columnMembers components, ?_, holdsComponents_columnMembers components⟩
  rw [ExportFormat.render, Table.toValue_ofComponents, Value.compact, String.toList_ofList]
  refine Value.read_chars (Table.wellKeyed_columnMembers hbounds)
    (Table.depth_columnMembers_le hbounds) fun x hx => ?_
  obtain ⟨c, hc, hholds⟩ := Table.exists_holds_of_columnMembers hx
  exact hdoubles c hc x hholds

private def nineAndAHalf : Decimal.Binary64 := ⟨false, 0x13000000000000, -49⟩

/-- Three components: a key that looks like the number of a row, none at all, and an empty key. -/
private def ragged : List Component := [
  ⟨[("1", .text "a\t\"b\""), ("nome", .null)], by decide⟩,
  ⟨[], by decide⟩,
  ⟨[("", .array [.bool true]), ("1", .number (.double nineAndAHalf))], by decide⟩]

private theorem cases_of_mem_ragged {c : Component} (hc : c ∈ ragged) {member : String × Value}
    (hmember : member ∈ c.members) :
    member.2.IsScalar ∧ (∀ x, member.2.Holds x → x = nineAndAHalf) ∨
      member.2 = .array [.bool true] := by
  simp only [ragged, List.mem_cons, List.not_mem_nil, or_false] at hc
  rcases hc with rfl | rfl | rfl
  · simp only [List.mem_cons, List.not_mem_nil, or_false] at hmember
    rcases hmember with rfl | rfl
    · exact .inl ⟨trivial, fun x hx => by cases hx⟩
    · exact .inl ⟨trivial, fun x hx => by cases hx⟩
  · cases hmember
  · simp only [List.mem_cons, List.not_mem_nil, or_false] at hmember
    rcases hmember with rfl | rfl
    · exact .inr rfl
    · refine .inl ⟨trivial, fun x hx => ?_⟩
      cases hx
      rfl

private theorem withinBounds_of_mem_ragged {c : Component} (hc : c ∈ ragged) :
    c.WithinBounds := by
  intro member hmember
  rcases cases_of_mem_ragged hc hmember with ⟨hscalar, -⟩ | harray
  · exact ⟨hscalar.wellKeyed, hscalar.depth_eq_zero ▸ Nat.zero_le _⟩
  · rw [harray]
    refine ⟨.array fun item hitem => ?_, by decide⟩
    cases List.mem_singleton.1 hitem
    exact .bool true

private theorem readsBack_of_holds_ragged {c : Component} (hc : c ∈ ragged)
    {x : Decimal.Binary64} (h : c.toValue.Holds x) : ReadsBack x := by
  cases h with
  | object hmember h =>
      rcases cases_of_mem_ragged hc hmember with ⟨-, hdouble⟩ | harray
      · rw [hdouble x h]
        exact readsBack_of_toOption (by decide +kernel)
      · rw [harray] at h
        cases h with
        | array hitem h =>
            cases List.mem_singleton.1 hitem
            cases h

/-- A table of ragged components. -/
theorem read_render_table_of_ragged :
    (∀ c ∈ ragged, c.IsAnswered) ∧ (∀ c ∈ ragged, ∀ x, c.toValue.Holds x → ReadsBack x) ∧
      ∃ members, Value.read (ExportFormat.table.render ragged).toList = .ok (.object members) ∧
        HoldsComponents ragged members := by
  have hdoubles : ∀ c ∈ ragged, ∀ x, c.toValue.Holds x → ReadsBack x :=
    fun c hc x hx => readsBack_of_holds_ragged hc hx
  have hanswered : ∀ c ∈ ragged, c.IsAnswered := by
    intro c hc
    refine ⟨(⟨ragged⟩ : Curriculum).toValue.compact, ⟨ragged⟩, ?_, hc⟩
    rw [Curriculum.ofBody, Value.compact, String.toList_ofList]
    exact Curriculum.read_chars fun c hc =>
      Curriculum.componentReader_reads (withinBounds_of_mem_ragged hc) (hdoubles c hc)
  exact ⟨hanswered, hdoubles, read_render_table hanswered hdoubles⟩

end DegreeAudit
