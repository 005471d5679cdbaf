import DegreeAudit.Proofs.Export.Columns
import DegreeAudit.Proofs.Order.Gathering

/-!
# The shape of a table

A table has a column for each key that some component has, in the order in which the keys first
come, and a row for each component with one cell for each column: `ofComponents_tabulates`.

The columns are what is gathered when the components are gone through key by key and a key is put
behind the others unless it is among them. One such step keeps the columns in first-seen order
(`IsFirstSeen.pushNew`) and only ever adds at the end, and so does the whole run. The rows are even
by construction; this is what lets a cell be taken by the number of its column alone, and the table
be written by a writer that refuses uneven records.
-/

namespace DegreeAudit

open Json

namespace Order

variable {α : Type} [DecidableEq α] {items more seen : List α}

/-- The items of a list, each once, in the order in which they first come. -/
structure IsFirstSeen (items seen : List α) : Prop where
  distinct : seen.Nodup
  complete : ∀ item, item ∈ seen ↔ item ∈ items
  ordered : seen.Pairwise fun a b => items.idxOf a < items.idxOf b

/-- An item goes behind those that were seen unless it is one of them. -/
def pushNew (seen : List α) (item : α) : List α := if item ∈ seen then seen else seen ++ [item]

theorem prefix_pushNew (seen : List α) (item : α) : seen <+: pushNew seen item := by
  unfold pushNew
  split
  · exact List.prefix_refl _
  · exact List.prefix_append _ _

theorem prefix_foldl_pushNew (seen items : List α) : seen <+: items.foldl pushNew seen := by
  induction items generalizing seen with
  | nil => exact List.prefix_refl _
  | cons item rest ih => exact (prefix_pushNew seen item).trans (ih _)

/-- What came first still comes first when there is more behind it. -/
theorem IsFirstSeen.ordered_append (h : IsFirstSeen items seen) (more : List α) :
    seen.Pairwise fun a b => (items ++ more).idxOf a < (items ++ more).idxOf b := by
  refine h.ordered.imp_of_mem fun {a b} ha hb hab => ?_
  rw [List.idxOf_append_of_mem ((h.complete a).1 ha),
    List.idxOf_append_of_mem ((h.complete b).1 hb)]
  exact hab

theorem IsFirstSeen.pushNew (h : IsFirstSeen items seen) (item : α) :
    IsFirstSeen (items ++ [item]) (pushNew seen item) := by
  unfold Order.pushNew
  by_cases hmem : item ∈ seen
  · rw [if_pos hmem]
    refine ⟨h.distinct, fun other => ?_, h.ordered_append _⟩
    rw [List.mem_append, List.mem_singleton, ← h.complete]
    exact ⟨.inl, fun hother => hother.elim id fun heq => heq ▸ hmem⟩
  · rw [if_neg hmem]
    have hnew : item ∉ items := fun hitem => hmem ((h.complete item).2 hitem)
    refine ⟨?_, fun other => ?_, ?_⟩
    · rw [← List.concat_eq_append]
      exact h.distinct.concat hmem
    · simp [h.complete]
    · rw [List.pairwise_append]
      refine ⟨h.ordered_append _, List.pairwise_singleton _ _, fun other hother last hlast => ?_⟩
      obtain rfl := List.mem_singleton.1 hlast
      have hbefore : other ∈ items := (h.complete other).1 hother
      rw [List.idxOf_append_of_mem hbefore, List.idxOf_append_of_notMem hnew]
      have := List.idxOf_lt_length_of_mem hbefore
      omega

theorem IsFirstSeen.foldl_pushNew (h : IsFirstSeen items seen) (more : List α) :
    IsFirstSeen (items ++ more) (more.foldl Order.pushNew seen) := by
  induction more generalizing items seen with
  | nil => simpa using h
  | cons item rest ih => simpa using ih (h.pushNew item)

/-- Pushing what is new keeps of each item what comes first. -/
theorem foldl_pushNew_eq_append {known : List α} (hknown : ∀ item, item ∈ known ↔ item ∈ seen)
    (items : List α) :
    items.foldl pushNew seen = seen ++ firstSeenAfter id known items := by
  induction items generalizing seen known with
  | nil => simp [firstSeenAfter]
  | cons item rest ih =>
      rw [List.foldl_cons, firstSeenAfter, pushNew, id_eq]
      by_cases hmem : item ∈ seen
      · rw [if_pos hmem, if_pos ((hknown item).2 hmem), ih hknown]
      · have hmore : ∀ other, other ∈ item :: known ↔ other ∈ seen ++ [item] := by
          simp [hknown, or_comm]
        rw [if_neg hmem, if_neg fun h => hmem ((hknown item).1 h), ih hmore, List.append_assoc]
        rfl

theorem foldl_pushNew_eq_firstSeen (items : List α) :
    items.foldl pushNew [] = firstSeen id items :=
  foldl_pushNew_eq_append (fun _ => Iff.rfl) items

end Order

namespace Table

open DegreeAudit.Order (IsFirstSeen pushNew)

/-- The columns after going through components, each key by key. -/
def gather (columns : List String) (components : List Component) : List String :=
  components.foldl (fun columns c => c.keys.foldl pushNew columns) columns

/-- The cells of a column under the names of their rows, if every row reaches so far. -/
def columnValue? (t : Table) (column : Nat) : Option Value :=
  let cell? : List Value × Nat → Option (String × Value) := fun (row, i) =>
    (row[column]?).map fun cell => (rowName i, cell)
  (t.rows.zipIdx.mapM cell?).map .object

/-- The table as an object, if every row has a cell for each column. -/
def toValue? (t : Table) : Option Value :=
  let cells? : String × Nat → Option (String × Value) := fun (column, i) =>
    (t.columnValue? i).map fun cells => (column, cells)
  (t.columns.zipIdx.mapM cells?).map .object

/-- The table has a column for each key and a row for each component, and nothing else. -/
structure Tabulates (components : List Component) (t : Table) : Prop where
  columns : IsFirstSeen (components.flatMap Component.keys) t.columns
  gathered : t.columns = gather [] components
  grows : ∀ earlier, earlier <+: components → (ofComponents earlier).columns <+: t.columns
  height : t.rows.length = components.length
  width : ∀ row ∈ t.rows, row.length = t.columns.length
  cell : ∀ (row column : Nat) (c : Component) (key : String), components[row]? = some c →
    t.columns[column]? = some key →
      (t.rows[row]?).bind (·[column]?) = some ((c.get? key).getD .null)
  /-- No column is looked for behind the end of a row. -/
  indexed : t.toValue? = some t.toValue
  /-- No record has another length than the first. -/
  written : t.delimited? = .ok t.delimited

theorem gather_eq_foldl_keys (columns : List String) (components : List Component) :
    gather columns components = (components.flatMap Component.keys).foldl pushNew columns :=
  List.foldl_flatMap.symm

theorem columnsOf_eq_gather (components : List Component) :
    columnsOf components = gather [] components := by
  rw [gather_eq_foldl_keys, Order.foldl_pushNew_eq_firstSeen]
  rfl

theorem isFirstSeen_columnsOf (components : List Component) :
    IsFirstSeen (components.flatMap Component.keys) (columnsOf components) := by
  have hnone : IsFirstSeen ([] : List String) [] := ⟨.nil, fun _ => Iff.rfl, .nil⟩
  rw [columnsOf_eq_gather, gather_eq_foldl_keys]
  exact hnone.foldl_pushNew (components.flatMap Component.keys)

/-- More components only add columns at the end. -/
theorem columnsOf_prefix_append (components more : List Component) :
    columnsOf components <+: columnsOf (components ++ more) := by
  simp only [columnsOf_eq_gather, gather_eq_foldl_keys, List.flatMap_append, List.foldl_append]
  exact Order.prefix_foldl_pushNew _ _

theorem columnValue?_eq_some (t : Table) {column : Nat} (hcolumn : column < t.columns.length) :
    t.columnValue? column = some (t.columnValue column) := by
  unfold columnValue? columnValue
  dsimp only
  rw [mapM_eq_some_map fun (row, i) => (rowName i, (row[column]?).getD .null)]
  · rfl
  · rintro ⟨row, i⟩ hrow
    have hmem : row ∈ t.rows := List.mem_of_getElem? (List.mem_zipIdx_iff_getElem?.1 hrow)
    have hwidth : column < row.length := by
      rw [t.rectangular row hmem]
      exact hcolumn
    simp [hwidth]

theorem toValue?_eq_some (t : Table) : t.toValue? = some t.toValue := by
  unfold toValue? toValue
  dsimp only
  rw [mapM_eq_some_map fun (column, i) => (column, t.columnValue i)]
  · rfl
  · rintro ⟨column, i⟩ hcolumn
    have hget : t.columns[i]? = some column := List.mem_zipIdx_iff_getElem?.1 hcolumn
    obtain ⟨hlt, -⟩ := List.getElem?_eq_some_iff.1 hget
    rw [t.columnValue?_eq_some hlt]
    rfl

theorem cell_ofComponents {components : List Component} {row column : Nat} {c : Component}
    {key : String} (hc : components[row]? = some c)
    (hkey : (columnsOf components)[column]? = some key) :
    ((ofComponents components).rows[row]?).bind (·[column]?)
      = some ((c.get? key).getD .null) := by
  simp [ofComponents, rowOf, hc, hkey]

/-- The table of any components has its columns in the order in which they come and its rows even.
-/
theorem ofComponents_tabulates (components : List Component) :
    Tabulates components (ofComponents components) where
  columns := isFirstSeen_columnsOf components
  gathered := columnsOf_eq_gather components
  grows earlier hearlier := by
    obtain ⟨more, rfl⟩ := hearlier
    exact columnsOf_prefix_append earlier more
  height := List.length_map _
  width row hrow := by
    obtain ⟨c, -, rfl⟩ := List.mem_map.1 hrow
    exact List.length_map _
  cell row column c key hc hkey := cell_ofComponents hc hkey
  indexed := toValue?_eq_some _
  written := delimited?_ofComponents components

end Table

end DegreeAudit
