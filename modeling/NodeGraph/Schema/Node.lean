import NodeGraph.Argument.Registry
import NodeGraph.Schema.FieldType

/-!
# Nodes

A node declares one collection of a schema: its name and type tag, its fields, the kinds
of arguments it takes and how it is resolved.  Resolvers are left abstract; building a
schema only carries them along.
-/

namespace NodeGraph

/-- A declared field of a node.  A field with a resolver is resolved on its own, the
others are read from the record of the object. -/
structure Field (R : Type) where
  name : String
  fieldType : FieldType
  resolver : Option R := none
  description : Option String := none
  asList : Option Bool := none

/-- A declared node. -/
structure Node (R : Type) where
  name : String
  nodeType : String
  isList : Bool := true
  fields : List (Field R)
  arguments : List String := [filterName, limitName, orderByName]
  resolver : R

end NodeGraph
