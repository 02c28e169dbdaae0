import NodeGraph.Argument.Predicate

/-!
# Filters

A filter is a conjunction with at most one predicate for each field.  A client's entries
are recorded one after another: a later entry for a field takes the place of an earlier
one and moves to the end, and entries before a faulty one stay recorded.
-/

namespace NodeGraph

namespace Filter

/-- The predicate of one entry: a field with an object of exactly one operation. -/
def readEntry (field : String) : Json → Except GraphError Predicate
  | .object [] => .error (.invalidArgument filterName (.noOperation field))
  | .object [(tag, operand)] => Predicate.ofOperand tag field operand
  | .object (_ :: _ :: _) => .error (.invalidArgument filterName (.severalOperations field))
  | _ => .error (.invalidArgument filterName (.entryNotObject field))

/-- The predicates after one more, which replaces those of its field. -/
def put (predicates : List Predicate) (predicate : Predicate) : List Predicate :=
  predicates.filter (fun other => other.field != predicate.field) ++ [predicate]

/-- Record entries up to the first faulty one. -/
def recordEntries (predicates : List Predicate) :
    List (String × Json) → Except GraphError Unit × List Predicate
  | [] => (.ok (), predicates)
  | (field, raw) :: rest =>
      match readEntry field raw with
      | .error fault => (.error fault, predicates)
      | .ok predicate => recordEntries (put predicates predicate) rest

def record (predicates : List Predicate) :
    Json → Except GraphError Unit × List Predicate
  | .object entries => recordEntries predicates entries
  | other => (.error (.invalidArgument filterName (.filterNotObject other.kind)), predicates)

/-- The conjunction of the predicates that are not empty. -/
def toSql (predicates : List Predicate) : String :=
  " AND ".intercalate ((predicates.map Predicate.toSql).filter fun text => !text.isEmpty)

end Filter

end NodeGraph
