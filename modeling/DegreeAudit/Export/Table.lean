import DegreeAudit.Curriculum.Component
import DegreeAudit.Order.FirstSeen
import DegreeAudit.Text.Delimited

/-!
# Components as a table

One row for each component and one column for each key that some component has, in the order in
which the keys are first met. A component without a key has null in that column. The table is
written column by column as JSON, each column an object from row numbers to cells, or row by row as
tab-separated text with the row number in front.
-/

namespace DegreeAudit

open Json

/-- Columns without repetition and rows with one cell for each of them. -/
structure Table where
  columns : List String
  rows : List (List Value)
  distinct : columns.Nodup
  rectangular : ∀ row ∈ rows, row.length = columns.length

namespace Table

/-- The keys of the components, each where it is first met. -/
def columnsOf (components : List Component) : List String :=
  Order.firstSeen id (components.flatMap Component.keys)

/-- A component's cells: the values at the columns' keys, null for a key it lacks. -/
def rowOf (columns : List String) (c : Component) : List Value :=
  columns.map fun column => (c.get? column).getD .null

def ofComponents (components : List Component) : Table where
  columns := columnsOf components
  rows := components.map (rowOf (columnsOf components))
  distinct := by
    have := Order.nodup_map_firstSeen id (components.flatMap Component.keys)
    rwa [List.map_id] at this
  rectangular := by
    simp only [List.mem_map]
    rintro row ⟨c, -, rfl⟩
    simp [rowOf]

def size (t : Table) : Nat := t.rows.length

def isEmpty (t : Table) : Bool := t.rows.isEmpty

/-- The name of a row: its number, counted from zero. -/
def rowName (row : Nat) : String := String.ofList (decimalDigits row)

def columnValue (t : Table) (column : Nat) : Value :=
  .object (t.rows.zipIdx.map fun (row, i) => (rowName i, (row[column]?).getD .null))

/-- The table as an object from columns to objects from rows to cells. -/
def toValue (t : Table) : Value :=
  .object (t.columns.zipIdx.map fun (column, i) => (column, t.columnValue i))

/-- The text of a cell in tab-separated form: nothing for null, a text as it is, any other value as
its compact text. -/
def cellChars : Value → List Char
  | .null => []
  | .text s => s.toList
  | value => value.chars

/-- The header and the rows, each with its number in front. -/
def records (t : Table) : List (List (List Char)) :=
  ([] :: t.columns.map String.toList) ::
    t.rows.zipIdx.map fun (row, i) => decimalDigits i :: row.map cellChars

/-- The table as tab-separated text, written record by record and refused if these are uneven. -/
def delimited? (t : Table) : Except Text.Delimited.Uneven String :=
  (Text.Delimited.writeEven t.records).map String.ofList

def delimited (t : Table) : String := String.ofList (Text.Delimited.writeRecords t.records)

end Table

end DegreeAudit
