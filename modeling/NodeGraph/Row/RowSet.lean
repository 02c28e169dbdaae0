import NodeGraph.Row.Cell

/-!
# Row sets

The answer of a data source: column labels and rows of cells.  Each row becomes a record
of JSON values; a row that is too short leaves null values, surplus cells are dropped, and
of columns with one label the last one counts.
-/

namespace NodeGraph

/-- What a resolver returns for one object: values under names. -/
abbrev Record := JsonObject

/-- Labelled rows. -/
structure RowSet where
  columns : List String := []
  rows : List (List Cell) := []
  deriving DecidableEq, Repr, Inhabited

namespace RowSet

def rowEntries : List String → List Cell → List (String × Json)
  | [], _ => []
  | label :: labels, [] => (label, .null) :: rowEntries labels []
  | label :: labels, cell :: cells => (label, cell.toJson) :: rowEntries labels cells

def rowRecord (labels : List String) (row : List Cell) : Record :=
  JsonObject.ofEntries (rowEntries labels row)

/-- One record for each row, in order. -/
def toRecords (rows : RowSet) : List Record := rows.rows.map (rowRecord rows.columns)

/-- The labels of the entries of a row are the column labels, whatever the row holds. -/
@[simp]
theorem rowEntries_labels (labels : List String) (row : List Cell) :
    (rowEntries labels row).map Prod.fst = labels := by
  induction labels generalizing row with
  | nil => simp [rowEntries]
  | cons label labels ih =>
      cases row with
      | nil => simp [rowEntries, ih]
      | cons cell cells => simp [rowEntries, ih]

@[simp]
theorem toRecords_length (rows : RowSet) : rows.toRecords.length = rows.rows.length := by
  simp [toRecords]

end RowSet

end NodeGraph
