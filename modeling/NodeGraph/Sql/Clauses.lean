import NodeGraph.GraphError
import NodeGraph.Text.Blank

/-!
# Clauses of a statement

The fragments of one selecting statement, at most one of each category.  Writing a
fragment replaces the one before it, except that a condition can also be conjoined with
the one already there.  A statement is rendered from the fragments that are not empty.
-/

namespace NodeGraph

/-- The fragments of a selecting statement. -/
structure SelectClauses where
  columns : String := ""
  table : String := ""
  condition : String := ""
  grouping : String := ""
  ordering : String := ""
  limit : String := ""
  deriving DecidableEq, Repr, Inhabited

/-- One write to the fragments. -/
inductive ClauseWrite where
  | columns (text : String)
  | table (text : String)
  | condition (text : String)
  | conjoin (predicate : String)
  | grouping (text : String)
  | ordering (text : String)
  | limit (text : String)
  deriving DecidableEq, Repr, Inhabited

namespace SelectClauses

/-- The fragments of a statement over a table, without any condition. -/
def ofTable (columns table : String) : SelectClauses :=
  { columns := columns, table := table }

/-- A condition conjoined with a predicate.  A blank predicate changes nothing and a blank
condition is replaced. -/
def conjoin (condition predicate : String) : String :=
  if Text.isBlankText predicate then condition
  else if Text.isBlankText condition then predicate
  else condition ++ " AND " ++ predicate

def apply (clauses : SelectClauses) : ClauseWrite → SelectClauses
  | .columns text => { clauses with columns := text }
  | .table text => { clauses with table := text }
  | .condition text => { clauses with condition := text }
  | .conjoin predicate =>
      { clauses with condition := conjoin clauses.condition predicate }
  | .grouping text => { clauses with grouping := text }
  | .ordering text => { clauses with ordering := text }
  | .limit text => { clauses with limit := text }

def applyAll (clauses : SelectClauses) (writes : List ClauseWrite) : SelectClauses :=
  writes.foldl apply clauses

/-- A fragment after its keyword, or nothing for an empty fragment. -/
def fragment (keyword text : String) : String :=
  if text.isEmpty then "" else " " ++ keyword ++ " " ++ text

def toSql (clauses : SelectClauses) : Except GraphError String :=
  if clauses.columns.isEmpty || clauses.table.isEmpty then
    .error (.incompleteQuery .missingFragments)
  else
    .ok ("SELECT " ++ clauses.columns ++ " FROM " ++ clauses.table ++
      fragment "WHERE" clauses.condition ++
      fragment "GROUP BY" clauses.grouping ++
      fragment "ORDER BY" clauses.ordering ++
      fragment "LIMIT" clauses.limit)

end SelectClauses

end NodeGraph
