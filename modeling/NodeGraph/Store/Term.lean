import NodeGraph.Store.Vocabulary

/-!
# Terms

A term of a statement is the name of a column, perhaps with the name of its table before
it, or a constant.  A name is bound to where its values come from: a column of the table,
the number of the row, or a constant that the name means for want of a column.
-/

namespace NodeGraph

/-- The name of a column as a statement writes it, with the names before it, outermost
first. -/
structure ColumnName where
  path : List String := []
  name : String
  form : NameForm := .plain
  deriving DecidableEq, Repr, Inhabited

/-- A term of a statement. -/
inductive Term where
  | column (column : ColumnName)
  | constant (value : StoredValue) (written : String)
  deriving DecidableEq, Repr, Inhabited

namespace Term

/-- The text of the term in its statement, which labels a constant. -/
def written : Term → String
  | .constant _ text => text
  | .column found =>
      if found.form == .doubleQuoted then
        let body := found.name.toList.flatMap fun c => if c = '"' then ['"', '"'] else [c]
        "\"" ++ String.ofList body ++ "\""
      else found.name

/-- How many levels the term takes in the tree of a condition. -/
def height : Term → Nat
  | .constant _ _ => 1
  | .column found => found.path.length + 1

end Term

/-- A literal that terms are compared with: a text in quotes, or the digits of a number. -/
inductive SqlLiteral where
  | text (value : String)
  | numeral (digits : String)
  deriving DecidableEq, Repr, Inhabited

/-- A row of a table with its number. -/
structure NumberedRow where
  values : List StoredValue
  number : Nat
  deriving DecidableEq, Repr, Inhabited

/-- Where the values of a term come from. -/
inductive ValueSource where
  | stored (index : Nat)
  | rowNumber
  | constant (value : StoredValue)
  deriving DecidableEq, Repr, Inhabited

namespace ValueSource

def value (row : NumberedRow) : ValueSource → StoredValue
  | .stored index => row.values.getD index .null
  | .rowNumber => .integer row.number
  | .constant value => value

/-- A literal that is compared with the values: columns prefer numbers, and constants are
compared with a text as it is. -/
def literal : ValueSource → SqlLiteral → StoredValue
  | .constant _, .text value => .text value
  | _, .text value => .ofText value
  | _, .numeral digits => .ofText digits

end ValueSource

end NodeGraph
