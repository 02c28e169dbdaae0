import NodeGraph.Json.Value
import NodeGraph.Text.Utf8

/-!
# Cells

A cell is one value of a row that a data source returns.  It has a text and a JSON value.
-/

namespace NodeGraph

/-- A value of a row. -/
inductive Cell where
  | null
  | bool (value : Bool)
  | integer (value : Int)
  | float (value : Binary64)
  | text (value : String)
  | bytes (value : List UInt8)
  deriving DecidableEq, Repr, Inhabited

namespace Cell

/-- The cell as JSON.  Bytes are decoded, and numbers that JSON cannot write are null. -/
def toJson : Cell → Json
  | .null => .null
  | .bool value => .bool value
  | .integer value => .number (.integer value)
  | .float value => if value.isFinite then .number (.float value) else .null
  | .text value => .string value
  | .bytes value => .string (Text.decodeLossy value)

/-- The cell as text; the null cell has none. -/
def text? : Cell → Option String
  | .null => none
  | .bool value => some (if value then "1" else "0")
  | .integer value => some (toString value)
  | .float value => some value.plainText
  | .text value => some value
  | .bytes value => some (Text.decodeLossy value)

/-- Whether the cell is null. -/
def isNull : Cell → Bool
  | .null => true
  | _ => false

end Cell

end NodeGraph
