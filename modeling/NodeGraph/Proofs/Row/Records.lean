import Mathlib.Data.List.Forall2
import NodeGraph.Proofs.Json.Entries
import NodeGraph.Row.RowSet

/-!
# Records of rows

A row becomes a record with the distinct column labels as keys.  Cells and labels correspond by
their positions, whatever the length of the row: a label holds the cell at its last position, and
null if the row ends before it.
-/

namespace NodeGraph

namespace RowSet

/-- The JSON value of the cell at a position; there is null behind the end of a row. -/
def valueAt (row : List Cell) (position : Nat) : Json :=
  (row[position]?.map Cell.toJson).getD .null

/-- The last position at which a list of labels carries a label. -/
structure LastAt (labels : List String) (label : String) (position : Nat) : Prop where
  carried : labels[position]? = some label
  last : ∀ later, position < later → labels[later]? ≠ some label

/-- What the record of a row holds under the labels of the columns. -/
structure IsRecordOf (labels : List String) (row : List Cell) (record : Record) : Prop where
  keys : record.keys = labels.eraseDups
  values : ∀ label position, LastAt labels label position →
    record.find? label = some (valueAt row position)

/-- A row with as many cells as there are columns: cut off at the end, or filled up with nulls. -/
def fitRow (width : Nat) (row : List Cell) : List Cell :=
  row.take width ++ List.replicate (width - row.length) .null

/-- The rows with a cell for each column. -/
def fitted (rows : RowSet) : RowSet :=
  { rows with rows := rows.rows.map (fitRow rows.columns.length) }

section Positions

@[simp]
theorem valueAt_nil (position : Nat) : valueAt [] position = .null :=
  rfl

@[simp]
theorem valueAt_cons_zero (cell : Cell) (cells : List Cell) :
    valueAt (cell :: cells) 0 = cell.toJson :=
  rfl

@[simp]
theorem valueAt_cons_succ (cell : Cell) (cells : List Cell) (position : Nat) :
    valueAt (cell :: cells) (position + 1) = valueAt cells position :=
  rfl

theorem valueAt_fitRow {width position : Nat} (row : List Cell) (inside : position < width) :
    valueAt (fitRow width row) position = valueAt row position := by
  unfold valueAt fitRow
  by_cases held : position < row.length
  · rw [List.getElem?_append_left (by simp; omega), List.getElem?_take_of_lt inside]
  · have padded : (List.replicate (width - row.length) Cell.null)[position - row.length]? =
        some .null := by
      rw [List.getElem?_replicate, if_pos (by omega)]
    rw [List.getElem?_append_right (by simp; omega), List.length_take,
      Nat.min_eq_right (by omega), padded, List.getElem?_eq_none (by omega)]
    rfl

/-- Labels and cells advance together. -/
theorem getElem?_rowEntries (labels : List String) (row : List Cell) (position : Nat) :
    (rowEntries labels row)[position]? =
      labels[position]?.map fun label => (label, valueAt row position) := by
  induction labels generalizing row position with
  | nil => simp [rowEntries]
  | cons label labels ih =>
      cases row with
      | nil => cases position <;> simp [rowEntries, ih]
      | cons cell cells => cases position <;> simp [rowEntries, ih]

/-- Every label has a last position. -/
theorem exists_lastAt {labels : List String} {label : String} (carried : label ∈ labels) :
    ∃ position, LastAt labels label position := by
  induction labels with
  | nil => cases carried
  | cons first rest ih =>
      by_cases later : label ∈ rest
      · obtain ⟨position, carries, last⟩ := ih later
        refine ⟨position + 1, carries, ?_⟩
        intro other beyond
        cases other with
        | zero => omega
        | succ other => exact last other (by omega)
      · have same : label = first := by simpa [later] using carried
        subst same
        refine ⟨0, rfl, ?_⟩
        intro other beyond found
        cases other with
        | zero => omega
        | succ other => exact later (List.mem_of_getElem? found)

end Positions

section Records

variable {labels : List String} {row : List Cell} {record : Record}

theorem rowRecord_isRecordOf (labels : List String) (row : List Cell) :
    IsRecordOf labels row (rowRecord labels row) := by
  refine ⟨?_, ?_⟩
  · rw [rowRecord, JsonObject.keys_ofEntries, rowEntries_labels]
  · intro label position lastAt
    have found : (rowEntries labels row)[position]? = some (label, valueAt row position) := by
      rw [getElem?_rowEntries, lastAt.carried, Option.map_some]
    obtain ⟨bound, entry⟩ := List.getElem?_eq_some_iff.mp found
    have split : rowEntries labels row = (rowEntries labels row).take position ++
        (label, valueAt row position) :: (rowEntries labels row).drop (position + 1) := by
      rw [← entry, List.getElem_cons_drop, List.take_append_drop]
    apply JsonObject.lastWins_ofEntries _ _ _ _ _ split
    -- An entry behind this one would carry the label once more.
    rw [List.map_drop, rowEntries_labels]
    intro again
    obtain ⟨offset, carried⟩ := List.getElem?_of_mem again
    rw [List.getElem?_drop] at carried
    exact lastAt.last _ (by omega) carried

/-- There is only one such record. -/
theorem IsRecordOf.eq_rowRecord (held : IsRecordOf labels row record) :
    record = rowRecord labels row := by
  have built := rowRecord_isRecordOf labels row
  symm
  apply JsonObject.eq_of_find?_eq (JsonObject.nodup_keys_ofEntries _)
  · exact built.keys.trans held.keys.symm
  · intro key member
    have carried : key ∈ labels := by
      have member : key ∈ (rowRecord labels row).keys := member
      rwa [built.keys, List.mem_eraseDups] at member
    obtain ⟨position, lastAt⟩ := exists_lastAt carried
    exact (built.values key position lastAt).trans (held.values key position lastAt).symm

/-- Cutting a row off behind the last column or filling it up changes nothing. -/
theorem rowRecord_fitRow (labels : List String) (row : List Cell) :
    rowRecord labels (fitRow labels.length row) = rowRecord labels row := by
  have built := rowRecord_isRecordOf labels (fitRow labels.length row)
  apply IsRecordOf.eq_rowRecord
  refine ⟨built.keys, ?_⟩
  intro label position lastAt
  have inside := (List.getElem?_eq_some_iff.mp lastAt.carried).1
  rw [built.values label position lastAt, valueAt_fitRow row inside]

theorem forall₂_isRecordOf_iff {rows : List (List Cell)} {records : List Record} :
    List.Forall₂ (IsRecordOf labels) rows records ↔ records = rows.map (rowRecord labels) := by
  induction rows generalizing records with
  | nil => rw [List.forall₂_nil_left_iff, List.map_nil]
  | cons row rest ih =>
      rw [List.forall₂_cons_left_iff, List.map_cons]
      constructor
      · rintro ⟨record, others, held, placed, rfl⟩
        rw [held.eq_rowRecord, ih.mp placed]
      · rintro rfl
        exact ⟨_, _, rowRecord_isRecordOf labels row, ih.mpr rfl, rfl⟩

end Records

/-- There is one record for each row in order, whose keys are the distinct labels where they first
appear and whose values are those at the last positions of the labels.  Cells behind the last column
are dropped, and missing ones count as nulls. -/
theorem rows_kept_as_records (rows : RowSet) :
    (∀ records, List.Forall₂ (IsRecordOf rows.columns) rows.rows records ↔
      records = rows.toRecords) ∧ rows.fitted.toRecords = rows.toRecords := by
  refine ⟨fun records => forall₂_isRecordOf_iff, ?_⟩
  have fit : ∀ row ∈ rows.rows, rowRecord rows.columns (fitRow rows.columns.length row) =
      rowRecord rows.columns row :=
    fun row _ => rowRecord_fitRow rows.columns row
  rw [toRecords, toRecords, fitted, List.map_map]
  exact List.map_congr_left fit

/-- The second cell stands under a label that is repeated where a short row has ended. -/
example :
    toRecords
        { columns := ["id", "name", "id"]
          rows := [[.integer 1, .text "ada"], [.integer 2, .null, .bool true, .text "bob"]] } =
      [[("id", .null), ("name", .string "ada")], [("id", .bool true), ("name", .null)]] :=
  rfl

end RowSet

end NodeGraph
