import NodeGraph.GraphError

/-!
# Sort orders

A sort order is a list of fields with directions, each field at most once.  A client
sends one object or a list of objects; every later mention of a field replaces the
earlier one and moves to the end.
-/

namespace NodeGraph

/-- The name of the argument kind for sort orders. -/
def orderByName : String := "order_by"

/-- A direction of sorting. -/
inductive SortDirection where
  | ascending
  | descending
  deriving DecidableEq, Repr, Inhabited

namespace SortDirection

def keyword : SortDirection → String
  | .ascending => "ASC"
  | .descending => "DESC"

/-- The direction of a word in any ASCII case. -/
def ofText? (text : String) : Option SortDirection :=
  let word := text.toList.map Char.toLower
  if word = "asc".toList then some .ascending
  else if word = "desc".toList then some .descending
  else none

end SortDirection

/-- A field with the direction to sort it in. -/
structure SortKey where
  field : String
  direction : SortDirection
  deriving DecidableEq, Repr, Inhabited

namespace OrderBy

def readEntry (entry : String × Json) : Except GraphError SortKey :=
  match entry.2 with
  | .string word =>
      match SortDirection.ofText? word with
      | some direction => .ok ⟨entry.1, direction⟩
      | none => .error (.invalidArgument orderByName (.directionUnknown entry.1))
  | _ => .error (.invalidArgument orderByName (.directionNotString entry.1))

def itemEntries : Json → Except GraphError (List (String × Json))
  | .object entries => .ok entries
  | other => .error (.invalidArgument orderByName (.sortItemNotObject other.kind))

/-- The entries of a value in either form.  Every item of a list is looked at before any
entry. -/
def entries : Json → Except GraphError (List (String × Json))
  | .object entries => .ok entries
  | .array items => (items.mapM itemEntries).map List.flatten
  | other => .error (.invalidArgument orderByName (.sortsNotObjects other.kind))

def read (value : Json) : Except GraphError (List SortKey) := do
  (← entries value).mapM readEntry

/-- The sorts after one more, which replaces the one of its field. -/
def put (sorts : List SortKey) (sort : SortKey) : List SortKey :=
  sorts.filter (fun other => other.field != sort.field) ++ [sort]

/-- Record a value sent for the sort order; a faulty one leaves the sorts as they were. -/
def record (sorts : List SortKey) (value : Json) : Except GraphError Unit × List SortKey :=
  match read value with
  | .ok more => (.ok (), more.foldl put sorts)
  | .error fault => (.error fault, sorts)

def toSql (sorts : List SortKey) : String :=
  ",".intercalate (sorts.map fun sort => sort.field ++ " " ++ sort.direction.keyword)

end OrderBy

end NodeGraph
