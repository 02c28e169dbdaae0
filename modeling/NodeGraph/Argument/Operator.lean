/-!
# Filter operators

The eight operators of a filter, the tags by which clients name them and the symbols that
stand for them in a statement.
-/

namespace NodeGraph

/-- An operator of a filter. -/
inductive Operator where
  | equal
  | notEqual
  | greaterThan
  | greaterOrEqual
  | lessThan
  | lessOrEqual
  | oneOf
  | noneOf
  deriving DecidableEq, Repr, Inhabited

namespace Operator

/-- The operators in the order of their declaration. -/
def all : List Operator :=
  [.equal, .notEqual, .greaterThan, .greaterOrEqual, .lessThan, .lessOrEqual, .oneOf, .noneOf]

def tag : Operator → String
  | .equal => "equal"
  | .notEqual => "not_equal"
  | .greaterThan => "greater_than"
  | .greaterOrEqual => "greater_or_equal"
  | .lessThan => "less_than"
  | .lessOrEqual => "less_or_equal"
  | .oneOf => "in"
  | .noneOf => "not_in"

def symbol : Operator → String
  | .equal => "="
  | .notEqual => "!="
  | .greaterThan => ">"
  | .greaterOrEqual => ">="
  | .lessThan => "<"
  | .lessOrEqual => "<="
  | .oneOf => "IN"
  | .noneOf => "NOT IN"

/-- Operators that compare with a list of values. -/
def isContainment : Operator → Bool
  | .oneOf => true
  | .noneOf => true
  | _ => false

def ofTag? (tag : String) : Option Operator :=
  all.find? fun operator => operator.tag == tag

@[simp]
theorem ofTag?_tag (operator : Operator) : ofTag? operator.tag = some operator := by
  cases operator <;> decide

theorem tag_of_ofTag? {tag : String} {operator : Operator}
    (found : ofTag? tag = some operator) : operator.tag = tag := by
  simpa using List.find?_some found

end Operator

end NodeGraph
