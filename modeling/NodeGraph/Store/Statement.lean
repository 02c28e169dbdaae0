import NodeGraph.Store.Condition

/-!
# Statements

The statements that the in-memory store knows: selections from one table with a condition,
an order and a window, and the changes that it refuses to run.  A term is a column, a
whole number or a word for a value, and conditions compare terms with literals.  Other forms are
not known, among them LIKE, BETWEEN, IS NULL, comparisons of two columns, terms in parentheses,
fractions and joins: a statement with one of them counts as one that cannot be prepared.  So does
a statement with a name that nothing has, even where an empty list decides the conjunction that
the name stands in.
-/

namespace NodeGraph

/-- What a selection lists: a term with the label it may be given, or all columns. -/
inductive SelectItem where
  | term (term : Term) (label : Option String)
  | everything (table : Option String)
  deriving DecidableEq, Repr, Inhabited

/-- A table of a statement: the name of its schema, its own name and a label. -/
structure TableName where
  schema : Option String := none
  name : String
  label : Option String := none
  deriving DecidableEq, Repr, Inhabited

/-- A selection. -/
structure SelectStatement where
  items : List SelectItem
  table : TableName
  condition : Option (Condition Term) := none
  ordering : List (Term × Bool) := []
  window : Option (Nat × Nat) := none
  deriving Repr, Inhabited

/-- A statement. -/
inductive Statement where
  | select (selection : SelectStatement)
  | delete (table : String) (condition : Option (Condition Term))
  | insert (table : String) (columns : Option (List String)) (width : Nat)
  | update (table : String) (columns : List String) (condition : Option (Condition Term))
  | create (table : String) (mayExist : Bool) (columns : List String)
  | drop (table : String) (mayBeMissing : Bool)
  deriving Repr, Inhabited

end NodeGraph
