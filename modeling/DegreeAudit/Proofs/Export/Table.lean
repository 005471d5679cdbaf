import DegreeAudit.Export.Format
import DegreeAudit.Proofs.Text.Delimited

/-!
# The table as tab-separated text

A table is written in even records: a header and one record for each component, each with its name
in front and one field for each column. So the writer refuses none, and since whatever stands in
fields is read back, so is the table: `recordsOf_render_csv`. What a cell reads as is said by
`cellText` of the component alone, without the table.
-/

namespace DegreeAudit

open Json

namespace Table

/-- What is read in the cell of a field: nothing if it is absent or null, a text as it is, any other
value as its compact text. -/
def cellText : Option Value → String
  | none | some .null => ""
  | some (.text s) => s
  | some value => value.compact

theorem ofList_cellChars (field : Option Value) :
    String.ofList (cellChars (field.getD .null)) = cellText field := by
  cases field with
  | none => rfl
  | some value =>
      cases value with
      | text s => exact String.ofList_toList
      | null | bool | number | array | object => rfl

/-- The header and the rows, from the components alone. -/
theorem records_ofComponents (components : List Component) :
    (ofComponents components).records =
      ([] :: (columnsOf components).map String.toList) ::
        components.zipIdx.map fun (c, row) =>
          decimalDigits row ::
            (columnsOf components).map fun key => cellChars ((c.get? key).getD .null) := by
  unfold records ofComponents
  rw [List.zipIdx_map, List.map_map]
  refine congrArg _ (List.map_congr_left fun ⟨c, row⟩ _ => ?_)
  simp only [Function.comp_apply, Prod.map_apply, id_eq, rowOf, List.map_map]
  rfl

theorem length_of_mem_records {components : List Component} {record : List (List Char)}
    (h : record ∈ (ofComponents components).records) :
    record.length = 1 + (columnsOf components).length := by
  rw [records_ofComponents] at h
  rcases List.mem_cons.1 h with rfl | h
  · rw [List.length_cons, List.length_map, Nat.add_comm]
  · obtain ⟨⟨c, row⟩, -, rfl⟩ := List.mem_map.1 h
    rw [List.length_cons, List.length_map, Nat.add_comm]

/-- The writer refuses no table. -/
theorem delimited?_ofComponents (components : List Component) :
    (ofComponents components).delimited? = .ok (ofComponents components).delimited := by
  rw [delimited?, Text.Delimited.writeEven_eq_ok fun _ h => length_of_mem_records h]
  rfl

def recordsOf (text : String) : List (List String) :=
  (Text.Delimited.readRecords text.toList).map (·.map String.ofList)

theorem map_ofList_header (columns : List String) :
    ([] :: columns.map String.toList).map String.ofList = "" :: columns := by
  have hkeys : (columns.map String.toList).map String.ofList = columns := by
    simp [Function.comp_def]
  rw [List.map_cons, hkeys]

theorem map_ofList_row (columns : List String) (c : Component) (row : Nat) :
    (decimalDigits row :: columns.map fun key => cellChars ((c.get? key).getD .null)).map
        String.ofList
      = toString row :: columns.map fun key => cellText (c.get? key) := by
  rw [List.map_cons, List.map_map]
  exact congrArg _ (List.map_congr_left fun key _ => ofList_cellChars (c.get? key))

/-- Every record is read as it was written. -/
theorem recordsOf_delimited_eq_map (components : List Component) :
    recordsOf (ofComponents components).delimited =
      (ofComponents components).records.map (·.map String.ofList) := by
  have hfields : ∀ record ∈ (ofComponents components).records, record ≠ [] := by
    intro record hrecord hempty
    have hlength := length_of_mem_records hrecord
    rw [hempty, List.length_nil] at hlength
    omega
  rw [recordsOf, delimited, String.toList_ofList, Text.Delimited.readRecords_writeRecords hfields]

theorem length_of_mem_recordsOf {components : List Component} {record : List String}
    (h : record ∈ recordsOf (ofComponents components).delimited) :
    record.length = 1 + (columnsOf components).length := by
  rw [recordsOf_delimited_eq_map] at h
  obtain ⟨written, hwritten, rfl⟩ := List.mem_map.1 h
  rw [List.length_map, length_of_mem_records hwritten]

theorem recordsOf_delimited (components : List Component) :
    recordsOf (ofComponents components).delimited =
      ("" :: columnsOf components) ::
        components.zipIdx.map fun (c, row) =>
          toString row :: (columnsOf components).map fun key => cellText (c.get? key) := by
  rw [recordsOf_delimited_eq_map, records_ofComponents, List.map_cons, map_ofList_header,
    List.map_map]
  exact congrArg _ (List.map_congr_left fun ⟨c, row⟩ _ => map_ofList_row _ c row)

theorem length_recordsOf_delimited (components : List Component) :
    (recordsOf (ofComponents components).delimited).length = components.length + 1 := by
  rw [recordsOf_delimited, List.length_cons, List.length_map, List.length_zipIdx]

end Table

/-- Tab-separated components are read back as a header of all columns and, for each component, a
record of its number and its cells, whatever these hold. -/
theorem recordsOf_render_csv (components : List Component) :
    let columns := (Table.ofComponents components).columns
    ∃ text, (Table.ofComponents components).delimited? = .ok text ∧
      ExportFormat.csv.render components = text ∧
      Table.recordsOf text =
        ("" :: columns) ::
          components.zipIdx.map (fun (c, row) =>
            toString row :: columns.map fun key => Table.cellText (c.get? key)) ∧
      (Table.recordsOf text).length = components.length + 1 ∧
      ∀ record ∈ Table.recordsOf text, record.length = 1 + columns.length := by
  intro columns
  exact ⟨_, Table.delimited?_ofComponents components, rfl, Table.recordsOf_delimited components,
    Table.length_recordsOf_delimited components, fun _ => Table.length_of_mem_recordsOf⟩

end DegreeAudit
