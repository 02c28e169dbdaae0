import NodeGraph.Resolver

/-!
# Table adapters

A table adapter resolves a field from one table.  It selects the columns that the query
asks for, lets the arguments write their fragments, and conjoins a link to the parent
record last, so that a filter cannot replace it.
-/

namespace NodeGraph

/-- A column of a table, with the name under which it is selected. -/
structure Column where
  name : String
  label : String := name
  required : Bool := false
  deriving DecidableEq, Repr, Inhabited

namespace Column

def selectText (column : Column) : String :=
  if column.name = column.label then column.name
  else column.name ++ " AS " ++ column.label

end Column

/-- A column that must equal a value of the parent record. -/
structure ParentLink where
  column : String
  parentKey : String
  deriving DecidableEq, Repr, Inhabited

/-- A table with its columns and the source that holds it. -/
structure TableAdapter (World : Type) where
  table : String
  columns : List Column
  source : DataSource World
  link : Option ParentLink := none

namespace TableAdapter

variable {World : Type}

/-- A list with a column at its end, unless the column is already there. -/
def addColumn (selected : List Column) (column : Column) : List Column :=
  if column ∈ selected then selected else selected ++ [column]

/-- The columns under the requested names, each once, in the order of the requests; the
first column under a name counts. -/
def requestedColumns (columns : List Column) (selection : List String) : List Column :=
  (selection.filterMap fun name => columns.find? fun column => column.label == name).foldl
    addColumn []

/-- The columns of a statement: the requested ones and then the required ones, or all
columns if none is requested. -/
def selectedColumns (columns : List Column) (selection : List String) : List Column :=
  match requestedColumns columns selection with
  | [] => columns
  | requested => (columns.filter fun column => column.required).foldl addColumn requested

/-- A value of the parent record as an operand.  Null and composite values cannot be linked to,
and a number is compared by its text. -/
def linkOperand? : Json → Option Json
  | .string text => some (.string text)
  | .bool value => some (.bool value)
  | .number value => some (.string value.text)
  | _ => none

/-- The operand of a link for a parent record. -/
def linkKey? (link : ParentLink) (parent : Option Record) : Option Json := do
  let record ← parent
  let value ← JsonObject.find? record link.parentKey
  linkOperand? value

/-- The clauses of the statement without the link. -/
def unlinkedClauses (adapter : TableAdapter World) (params : ResolveParams) :
    SelectClauses :=
  let columns := (selectedColumns adapter.columns params.selection).map Column.selectText
  ValidatedArguments.combineInto params.arguments
    (SelectClauses.ofTable (",".intercalate columns) adapter.table)

/-- The clauses of the statement.  There are none if the adapter is linked and the parent
has no value to link to. -/
def buildClauses (adapter : TableAdapter World) (params : ResolveParams) :
    Except GraphError (Option SelectClauses) :=
  let clauses := adapter.unlinkedClauses params
  match adapter.link with
  | none => .ok (some clauses)
  | some link =>
      match linkKey? link params.parent with
      | none => .ok none
      | some key => do
          let predicate ← Predicate.ofOperand Operator.equal.tag link.column key
          return some (clauses.apply (.conjoin predicate.toSql))

/-- Resolve a field with at most one statement.  Without clauses there are no rows.  A request
that was cancelled before sends nothing, and one that is cancelled while the query waits does
not wait for its answer. -/
def resolve (adapter : TableAdapter World) : Resolver World := fun params state =>
  match adapter.buildClauses params with
  | .error fault => (.error fault, state)
  | .ok none => (.ok [], state)
  | .ok (some clauses) =>
      match clauses.toSql with
      | .error fault => (.error fault, state)
      | .ok statement =>
          match (adapter.source.query statement state).await with
          | (none, after) => (.error .cancelled, after)
          | (some (.error fault), after) => (.error (.execution params.field fault), after)
          | (some (.ok rows), after) => (.ok rows.toRecords, after)

end TableAdapter

end NodeGraph
