import NodeGraph.GraphError
import NodeGraph.Sql.Literal

/-!
# Predicates

A predicate compares one field with a text, or with a list of texts.  Operands are
brought to text when the predicate is made, so rendering cannot fail.
-/

namespace NodeGraph

/-- The name of the argument kind that predicates belong to. -/
def filterName : String := "filter"

/-- A predicate over one field. -/
inductive Predicate where
  | compare (field : String) (operator : Operator) (value : String)
  | contains (field : String) (operator : Operator) (values : List String)
  deriving DecidableEq, Repr, Inhabited

namespace Predicate

def boolText (value : Bool) : String := if value then "1" else "0"

/-- The text of an operand that is compared with a field. -/
def comparedText (operator : Operator) (field : String) : Json → Except GraphError String
  | .string text => .ok text
  | .bool value => .ok (boolText value)
  | other => .error (.invalidArgument filterName (.operandNotScalar operator field other.kind))

def itemText (operator : Operator) (field : String) : Json → Except GraphError String
  | .string text => .ok text
  | .number value => .ok value.text
  | .bool value => .ok (boolText value)
  | other => .error (.invalidArgument filterName (.itemNotScalar operator field other.kind))

/-- The predicate of an operator tag, a field and an operand. -/
def ofOperand (tag field : String) (operand : Json) : Except GraphError Predicate :=
  match Operator.ofTag? tag with
  | none => .error (.unsupportedOperation tag)
  | some operator =>
      if operator.isContainment then
        match operand with
        | .array items =>
            (items.mapM (itemText operator field)).map (.contains field operator)
        | other =>
            .error (.invalidArgument filterName (.operandNotList operator field other.kind))
      else (comparedText operator field operand).map (.compare field operator)

def field : Predicate → String
  | .compare field _ _ => field
  | .contains field _ _ => field

def operator : Predicate → Operator
  | .compare _ operator _ => operator
  | .contains _ operator _ => operator

/-- The operand texts in order. -/
def operands : Predicate → List String
  | .compare _ _ value => [value]
  | .contains _ _ values => values

/-- The predicate in a statement; a containment in no values is empty. -/
def toSql : Predicate → String
  | .compare field operator value =>
      " " ++ field ++ " " ++ operator.symbol ++ " " ++ Sql.literal value ++ " "
  | .contains _ _ [] => ""
  | .contains field operator (value :: rest) =>
      " " ++ field ++ " " ++ operator.symbol ++ " (" ++
        ",".intercalate ((value :: rest).map Sql.literal) ++ ") "

end Predicate

end NodeGraph
