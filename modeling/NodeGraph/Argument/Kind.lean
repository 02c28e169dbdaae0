import NodeGraph.Argument.Filter
import NodeGraph.Argument.Limit
import NodeGraph.Argument.OrderBy
import NodeGraph.Sql.Clauses
import NodeGraph.Text.PascalCase

/-!
# Argument kinds

A kind of argument makes fresh arguments, which record what a client sends and then write
their fragment into the clauses of a statement.  Filters, limits and sort orders are built
in; other kinds are described by a `CustomKind`.
-/

namespace NodeGraph

/-- A kind of argument defined outside this library.  Its arguments remember a list of
texts, which starts empty and is kept also when a value is refused. -/
structure CustomKind where
  typeName : String
  scalarName : String := Text.pascalCase typeName
  record : List String → Json → Except GraphError Unit × List String
  toSql : List String → String
  combine : List String → SelectClauses → SelectClauses

/-- A kind of argument. -/
inductive ArgumentKind where
  | filter
  | limit
  | orderBy
  | custom (kind : CustomKind)

/-- An argument of some kind with what it has recorded. -/
inductive Argument where
  | filter (predicates : List Predicate)
  | limit (window : Limit)
  | orderBy (sorts : List SortKey)
  | custom (kind : CustomKind) (notes : List String)

namespace ArgumentKind

def fresh : ArgumentKind → Argument
  | .filter => .filter []
  | .limit => .limit {}
  | .orderBy => .orderBy []
  | .custom kind => .custom kind []

end ArgumentKind

namespace Argument

def typeName : Argument → String
  | .filter _ => filterName
  | .limit _ => limitName
  | .orderBy _ => orderByName
  | .custom kind _ => kind.typeName

/-- The name of the scalar type of the argument's values. -/
def scalarName : Argument → String
  | .custom kind _ => kind.scalarName
  | builtIn => Text.pascalCase builtIn.typeName

/-- Record a value; the argument that results is kept also when the value is refused. -/
def record (argument : Argument) (value : Json) : Except GraphError Unit × Argument :=
  match argument with
  | .filter predicates => (Filter.record predicates value).map id .filter
  | .limit window => (Limit.record window value).map id .limit
  | .orderBy sorts => (OrderBy.record sorts value).map id .orderBy
  | .custom kind notes => (kind.record notes value).map id (.custom kind)

def toSql : Argument → String
  | .filter predicates => Filter.toSql predicates
  | .limit window => window.toSql
  | .orderBy sorts => OrderBy.toSql sorts
  | .custom kind notes => kind.toSql notes

/-- Write the argument's fragment into the clauses of a statement. -/
def combine (argument : Argument) (clauses : SelectClauses) : SelectClauses :=
  match argument with
  | .filter _ => clauses.apply (.condition argument.toSql)
  | .limit _ => clauses.apply (.limit argument.toSql)
  | .orderBy _ => clauses.apply (.ordering argument.toSql)
  | .custom kind notes => kind.combine notes clauses

end Argument

end NodeGraph
