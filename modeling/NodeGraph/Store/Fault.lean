/-!
# Faults of a data source

The reasons for which a data source does not answer a statement.  Sources outside this
library state theirs as a text.
-/

namespace NodeGraph

/-- Why a data source does not answer. -/
inductive SourceFault where
  | stated (text : String)
  | cancelled
  | notPrepared (statement : String)
  | notReadOnly (statement : String)
  | emptyStatement
  | datatypeMismatch
  deriving DecidableEq, Repr, Inhabited

namespace SourceFault

def message : SourceFault → String
  | .stated text => text
  | .cancelled => "query cancelled"
  | .notPrepared statement => s!"Failed to prepare: {statement}"
  | .notReadOnly statement => s!"only read-only statements are accepted: {statement}"
  | .emptyStatement => "bad parameter or other API misuse"
  | .datatypeMismatch => "datatype mismatch"

end SourceFault

end NodeGraph
