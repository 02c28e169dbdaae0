import NodeGraph.GraphError

/-!
# Limits

A limit is a window of rows: how many to skip and how many to keep.
-/

namespace NodeGraph

/-- The name of the argument kind for windows of rows. -/
def limitName : String := "limit"

/-- A window of rows. -/
structure Limit where
  count : Nat := 0
  offset : Nat := 0
  deriving DecidableEq, Repr, Inhabited

namespace Limit

def readCount (key : String) (value : Json) : Except GraphError Nat :=
  let refuse (got : String) : Except GraphError Nat :=
    .error (.invalidArgument limitName (.notNonNegative key got))
  match value with
  | .number number =>
      match number.toNat64? with
      | some count => .ok count
      | none => refuse number.text
  | other => refuse other.kind.phrase

/-- The window of a value sent for the limit; without an offset it starts at the first
row. -/
def read : Json → Except GraphError Limit
  | .object fields => do
      let count ←
        match JsonObject.find? fields "count" with
        | none => .error (.invalidArgument limitName .countMissing)
        | some value => readCount "count" value
      let offset ←
        match JsonObject.find? fields "offset" with
        | none => .ok 0
        | some value => readCount "offset" value
      return ⟨count, offset⟩
  | other => .error (.invalidArgument limitName (.limitNotObject other.kind))

/-- Record a value sent for the limit; a faulty one leaves the window as it was. -/
def record (limit : Limit) (value : Json) : Except GraphError Unit × Limit :=
  match read value with
  | .ok next => (.ok (), next)
  | .error fault => (.error fault, limit)

def toSql (limit : Limit) : String := toString limit.offset ++ "," ++ toString limit.count

end Limit

end NodeGraph
