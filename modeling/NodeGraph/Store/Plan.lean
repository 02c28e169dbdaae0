import NodeGraph.Store.Fault
import NodeGraph.Store.Statement
import NodeGraph.Row.RowSet

/-!
# Plans of selections

A table binds the terms of a selection to the sources of their values.  The plan that
results filters the rows, orders them, cuts a window out of them and selects its columns.
-/

namespace NodeGraph

/-- A table with its rows in the order of their insertion. -/
structure StoredTable where
  name : String
  columns : List String
  rows : List (List StoredValue) := []
  deriving DecidableEq, Repr, Inhabited

/-- The greatest number of columns of a table or a selection and of sorts of an order. -/
def widthLimit : Nat := 2000

namespace StoredTable

open Statement

def column? (table : StoredTable) (name : String) : Option Nat :=
  table.columns.findIdx? (sameName name)

/-- Whether a path before the name of a column leads to a table that is known by `label`. -/
def leadsTo (label : String) : List String → Bool
  | [] => true
  | [table] => sameName table label
  | [schema, table] => sameName schema "main" && sameName table label
  | _ => false

/-- Labels with the sources that they stand for. -/
abbrev Labels := List (String × ValueSource)

def labelled? (labels : Labels) (name : String) : Option ValueSource :=
  (labels.find? fun entry => sameName entry.1 name).map Prod.snd

/-- What a name means that no column has: the number of the row, a labelled source, a text
in double quotes, or a truth value. -/
def unstored? (labels : Labels) (column : ColumnName) : Option ValueSource :=
  if namesRowNumber column.name then some .rowNumber
  else if !column.path.isEmpty then none
  else
    match labelled? labels column.name, column.form with
    | some source, _ => some source
    | none, .doubleQuoted => some (.constant (.text column.name))
    | none, .plain => (truthValue? column.name).map .constant
    | none, .otherwiseQuoted => none

/-- The source of a term in a table that is known by `known`; a column of the table comes
before everything else that the name could mean. -/
def source? (table : StoredTable) (known : String) (labels : Labels) :
    Term → Option ValueSource
  | .constant value _ => some (.constant value)
  | .column column =>
      if !leadsTo known column.path then none
      else
        match table.column? column.name with
        | some index => some (.stored index)
        | none => unstored? labels column

/-- The source of a sort: the item under a label or at a position, else the source of the
term. -/
def sortSource? (table : StoredTable) (known : String) (labels : Labels)
    (items : List ValueSource) : Term → Option ValueSource
  | .constant (.integer position) written =>
      if position ≤ 2147483647 then items[(position - 1).toNat]?.filter fun _ => 1 ≤ position
      else table.source? known labels (.constant (.integer position) written)
  | .constant value written => table.source? known labels (.constant value written)
  | .column column =>
      let named := if column.path.isEmpty then labelled? labels column.name else none
      named.or (table.source? known labels (.column column))

def everyColumn (table : StoredTable) : Labels :=
  table.columns.zipIdx.map fun column => (column.1, .stored column.2)

/-- The name of a selected term that has no label. -/
def unlabelledName (table : StoredTable) (term : Term) : ValueSource → String
  | .stored index => table.columns.getD index term.written
  | .rowNumber => "rowid"
  | .constant _ => term.written

def resolveItem (table : StoredTable) (known : String) : SelectItem → Option Labels
  | .everything none => some table.everyColumn
  | .everything (some name) => if sameName name known then some table.everyColumn else none
  | .term term label =>
      (table.source? known [] term).map fun source =>
        [(label.getD (table.unlabelledName term source), source)]

/-- The labels that an item brings into its statement.  All columns bring their names, and a
term without a label brings none. -/
def labelsOfItem (table : StoredTable) (known : String) (item : SelectItem) : Labels :=
  match item with
  | .term _ none => []
  | _ => (table.resolveItem known item).getD []

def labelsOf (table : StoredTable) (known : String) (items : List SelectItem) : Labels :=
  items.flatMap (table.labelsOfItem known)

end StoredTable

/-- A selection whose terms are bound to a table. -/
structure SelectPlan where
  columns : List (String × ValueSource)
  condition : Option (Condition ValueSource)
  sorts : List (ValueSource × Bool)
  window : Option (Nat × Nat)
  deriving Repr, Inhabited

namespace SelectPlan

open StoredTable

/-- The plan of a selection from a table; there is none if a name is unknown or if there
are too many columns or sorts. -/
def prepare? (table : StoredTable) (statement : SelectStatement) : Option SelectPlan := do
  let known := statement.table.label.getD table.name
  let columns ← statement.items.mapM (table.resolveItem known)
  let labels := table.labelsOf known statement.items
  let condition ← match statement.condition with
    | none => some none
    | some condition => (condition.resolve (table.source? known labels)).map some
  let sorts ← statement.ordering.mapM fun sort => do
    return (← table.sortSource? known labels (columns.flatten.map Prod.snd) sort.1, sort.2)
  if widthLimit < columns.flatten.length ∨ widthLimit < sorts.length then none
  else return { columns := columns.flatten, condition, sorts, window := statement.window }

def keeps (plan : SelectPlan) (row : NumberedRow) : Bool :=
  match plan.condition with
  | none => true
  | some condition => (condition.evaluate row).holds

/-- Whether a row stands before another one or beside it in an order. -/
def standsBefore (sorts : List (ValueSource × Bool)) (left right : NumberedRow) : Bool :=
  let order := sorts.foldr (fun sort rest =>
    let first := StoredValue.order (sort.1.value left) (sort.1.value right)
    (if sort.2 then first.swap else first).then rest) .eq
  order != .gt

/-- The rows of a table with their numbers, from one on. -/
def numberedRows (rows : List (List StoredValue)) : List NumberedRow :=
  (rows.zipIdx 1).map fun row => ⟨row.1, row.2⟩

/-- The rows that satisfy the condition, in order. -/
def orderedRows (plan : SelectPlan) (rows : List (List StoredValue)) : List NumberedRow :=
  let kept := (numberedRows rows).filter plan.keeps
  match plan.sorts with
  | [] => kept
  | sorts => kept.mergeSort (standsBefore sorts)

/-- The rows of a window.  A window of no rows asks nothing of its offset; otherwise both
numbers must be signed integers of 64 bits. -/
def windowRows (window : Option (Nat × Nat)) (rows : List NumberedRow) :
    Except SourceFault (List NumberedRow) :=
  match window with
  | none => .ok rows
  | some (offset, count) =>
      if count = 0 then .ok []
      else if greatestInt64 < offset ∨ greatestInt64 < count then .error .datatypeMismatch
      else .ok ((rows.drop offset).take count)

def run (plan : SelectPlan) (rows : List (List StoredValue)) :
    Except SourceFault RowSet := do
  let rows ← windowRows plan.window (plan.orderedRows rows)
  return { columns := plan.columns.map Prod.fst
           rows := rows.map fun row =>
             plan.columns.map fun column => (column.2.value row).toCell }

end SelectPlan

end NodeGraph
