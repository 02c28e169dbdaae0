import NodeGraph.Argument.Operator
import NodeGraph.Json.Value

/-!
# Faults in argument values

The ways in which a value sent for an argument can miss the shape that its kind expects.
Each fault keeps what its message tells and nothing more.
-/

namespace NodeGraph

/-- Why an argument kind refuses a value. -/
inductive ArgumentFault where
  | filterNotObject (got : JsonKind)
  | entryNotObject (field : String)
  | severalOperations (field : String)
  | noOperation (field : String)
  | operandNotScalar (operator : Operator) (field : String) (got : JsonKind)
  | operandNotList (operator : Operator) (field : String) (got : JsonKind)
  | itemNotScalar (operator : Operator) (field : String) (got : JsonKind)
  | limitNotObject (got : JsonKind)
  | countMissing
  | notNonNegative (key : String) (got : String)
  | sortsNotObjects (got : JsonKind)
  | sortItemNotObject (got : JsonKind)
  | directionNotString (field : String)
  | directionUnknown (field : String)
  | stated (text : String)
  deriving DecidableEq, Repr, Inhabited

namespace ArgumentFault

def message : ArgumentFault → String
  | .filterNotObject got => s!"filter argument must be an object, got {got.phrase}"
  | .entryNotObject field => s!"argument for field {field} must be an object"
  | .severalOperations field => s!"argument for field {field} must have only one operation"
  | .noOperation field => s!"argument for field {field} has no operation"
  | .operandNotScalar operator field got =>
      s!"operation {operator.tag} on field {field} expects a string or boolean, got {got.phrase}"
  | .operandNotList operator field got =>
      s!"operation {operator.tag} on field {field} expects a list, got {got.phrase}"
  | .itemNotScalar operator field got =>
      s!"operation {operator.tag} on field {field} only accepts scalar list items, " ++
        s!"got {got.phrase}"
  | .limitNotObject got =>
      s!"limit argument must be an object with count and offset, got {got.phrase}"
  | .countMissing => "count is required"
  | .notNonNegative key got => s!"{key} must be a non-negative integer, got {got}"
  | .sortsNotObjects got =>
      s!"order_by argument must be an object or a list of objects, got {got.phrase}"
  | .sortItemNotObject got => s!"order_by list items must be objects, got {got.phrase}"
  | .directionNotString field => s!"argument for field {field} must be a string"
  | .directionUnknown field =>
      "argument for field " ++ field ++ " must be \"asc\" or \"desc\""
  | .stated text => text

end ArgumentFault

end NodeGraph
