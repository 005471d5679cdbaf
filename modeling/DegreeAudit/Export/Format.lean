import DegreeAudit.Export.Table

/-!
# Export formats

The three forms in which components are written to a file, and the words by which they are chosen.
-/

namespace DegreeAudit

open Json

inductive ExportFormat where
  | table
  | records
  | csv
deriving DecidableEq, Repr

namespace ExportFormat

def default : ExportFormat := table

def name : ExportFormat → String
  | table => "table"
  | records => "records"
  | csv => "csv"

/-- The form that a word chooses; the letters' case matters. -/
def ofName? (text : String) : Option ExportFormat :=
  [table, records, csv].find? fun format => format.name == text

def render (format : ExportFormat) (components : List Component) : String :=
  match format with
  | table => (Table.ofComponents components).toValue.compact
  | records => (Value.array (components.map Component.toValue)).compact
  | csv => (Table.ofComponents components).delimited

end ExportFormat

end DegreeAudit
