import NodeGraph.Document.Ast
import NodeGraph.GraphError

/-!
# Variables

The value of a declared variable is the one the request provides, else its default, else
null.  Literals become JSON values once every variable in them has a value; the names of
enumerations become strings.
-/

namespace NodeGraph

namespace Literal

mutual

def toJson (bindings : JsonObject) : Literal → Except GraphError Json
  | .variable name =>
      match JsonObject.find? bindings name with
      | some value => .ok value
      | none => .error (.query (.undefinedVariable name))
  | .int value => .ok (.number (.integer value))
  | .float value =>
      if value.isFinite then .ok (.number (.float value))
      else .error (.query (.invalidFloat value.plainText))
  | .string value => .ok (.string value)
  | .boolean value => .ok (.bool value)
  | .null => .ok .null
  | .enumeration name => .ok (.string name)
  | .list items => (toJsonItems bindings items).map .array
  | .object fields => (toJsonFields bindings fields).map .object

/-- The JSON values of literals in order. -/
def toJsonItems (bindings : JsonObject) : List Literal → Except GraphError (List Json)
  | [] => .ok []
  | item :: rest => do
      let value ← toJson bindings item
      let values ← toJsonItems bindings rest
      return value :: values

/-- The JSON values of named literals in order. -/
def toJsonFields (bindings : JsonObject) :
    List (String × Literal) → Except GraphError (List (String × Json))
  | [] => .ok []
  | (name, item) :: rest => do
      let value ← toJson bindings item
      let values ← toJsonFields bindings rest
      return (name, value) :: values

end

end Literal

namespace VariableDefinition

def value (definition : VariableDefinition) (provided : JsonObject) :
    Except GraphError Json :=
  match JsonObject.find? provided definition.name, definition.default with
  | some given, _ => .ok given
  | none, some literal => literal.toJson []
  | none, none => .ok .null

/-- The values of the declared variables.  A variable that is declared twice has the value
of its last declaration. -/
def bind (definitions : List VariableDefinition) (provided : JsonObject) :
    Except GraphError JsonObject := do
  let entries ← definitions.mapM fun definition => do
    return (definition.name, ← definition.value provided)
  return JsonObject.ofEntries entries

end VariableDefinition

end NodeGraph
