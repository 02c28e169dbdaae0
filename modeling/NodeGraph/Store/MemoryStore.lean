import NodeGraph.Resolver
import NodeGraph.Store.Plan
import NodeGraph.Store.Statement.Reader

/-!
# The in-memory store

Tables of stored values that answer selecting statements.  Names match in any ASCII case.
The store remembers every statement it was sent, and it can be told to fail.
-/

namespace NodeGraph

/-- The tables, the statements sent so far, and the failure the store was told to
report. -/
structure MemoryStore where
  tables : List StoredTable := []
  executed : List String := []
  failure : Option String := none
  deriving DecidableEq, Repr, Inhabited

/-- Why a table cannot be created, filled or counted. -/
inductive StoreFault where
  | noColumns (table : String)
  | notCreated (table : String)
  | notInserted (table : String)
  | notCounted (table : String)
  deriving DecidableEq, Repr, Inhabited

def StoreFault.message : StoreFault → String
  | .noColumns table => s!"table {table} needs at least one column"
  | .notCreated table => s!"Failed to create table {table}"
  | .notInserted table => s!"Failed to insert into {table}"
  | .notCounted table => s!"Failed to count rows of {table}"

namespace MemoryStore

open Statement

def table? (store : MemoryStore) (name : String) : Option StoredTable :=
  store.tables.find? fun table => sameName table.name name

def hasNull (name : String) : Bool := name.toList.contains '\x00'

def isReserved (name : String) : Bool :=
  "SQLITE_".toList.isPrefixOf (upper name).toList

def repeatsColumn : List String → Bool
  | [] => false
  | column :: rest => rest.any (sameName column) || repeatsColumn rest

/-- Create an empty table in place of one with the same name.  The old table is gone even
if the new one is refused for its columns. -/
def createTable (store : MemoryStore) (name : String) (columns : List String) :
    Except StoreFault Unit × MemoryStore :=
  if columns.isEmpty then (.error (.noColumns name), store)
  else if hasNull name || isReserved name then (.error (.notCreated name), store)
  else
    let remaining := store.tables.filter fun table => !sameName table.name name
    if columns.any hasNull || repeatsColumn columns || widthLimit < columns.length then
      (.error (.notCreated name), { store with tables := remaining })
    else (.ok (), { store with tables := remaining ++ [{ name, columns }] })

/-- Append a row to a table.  It must have a value for every column. -/
def insertRow (store : MemoryStore) (name : String) (row : List Cell) :
    Except StoreFault Unit × MemoryStore :=
  match store.table? name with
  | none => (.error (.notInserted name), store)
  | some table =>
      if row.length = table.columns.length then
        let grown := { table with rows := table.rows ++ [row.map StoredValue.ofCell] }
        (.ok (), { store with
          tables := store.tables.map fun other =>
            if sameName other.name name then grown else other })
      else (.error (.notInserted name), store)

def tableLength (store : MemoryStore) (name : String) : Except StoreFault Nat :=
  match store.table? name with
  | none => .error (.notCounted name)
  | some table => .ok table.rows.length

def clearExecuted (store : MemoryStore) : MemoryStore := { store with executed := [] }

/-- Report a failure to every statement from now on. -/
def failWith (store : MemoryStore) (failure : String) : MemoryStore :=
  { store with failure := some failure }

def clearFailure (store : MemoryStore) : MemoryStore := { store with failure := none }

def isPrepared (store : MemoryStore) : Statement → Bool
  | .select _ => false
  | .delete name condition => (store.table? name).any fun table =>
      condition.all fun condition => (condition.resolve (table.source? name [])).isSome
  | .insert name columns width => (store.table? name).any fun table =>
      let targets := columns.getD table.columns
      targets.all (fun column =>
        (table.column? column).isSome || namesRowNumber column) && targets.length == width
  | .update name columns condition => (store.table? name).any fun table =>
      columns.all (fun column =>
        (table.column? column).isSome || namesRowNumber column) &&
        condition.all fun condition => (condition.resolve (table.source? name [])).isSome
  | .create name mayExist columns =>
      if (store.table? name).isSome then mayExist
      else !isReserved name && !repeatsColumn columns && columns.length ≤ widthLimit
  | .drop name mayBeMissing => mayBeMissing || (store.table? name).isSome

def tableOf? (store : MemoryStore) (table : TableName) : Option StoredTable :=
  if table.schema.all (sameName "main") then store.table? table.name else none

def select (store : MemoryStore) (text : String) : Except SourceFault RowSet :=
  match Statement.parse? text with
  | none => .error (.notPrepared text)
  | some none => .error .emptyStatement
  | some (some (.select statement)) =>
      match (store.tableOf? statement.table).bind fun table =>
          (SelectPlan.prepare? table statement).map fun plan => (table, plan) with
      | none => .error (.notPrepared text)
      | some (table, plan) => plan.run table.rows
  | some (some change) =>
      if store.isPrepared change then .error (.notReadOnly text)
      else .error (.notPrepared text)

/-- Answer a statement.  It is remembered first, whatever becomes of it. -/
def answer (store : MemoryStore) (cancelled : Bool) (text : String) :
    Except SourceFault RowSet × MemoryStore :=
  let result : Except SourceFault RowSet :=
    match store.failure with
    | some failure => .error (.stated failure)
    | none => if cancelled then .error .cancelled else store.select text
  (result, { store with executed := store.executed ++ [text] })

/-- The store as a data source of requests that share nothing else.  A query that is neither
failed nor cancelled waits for another thread to read the tables, while the request does
nothing. -/
def source : DataSource MemoryStore := fun text state =>
  let answered := state.world.answer state.cancelled text
  let after := { state with world := answered.2 }
  if state.world.failure.isSome || state.cancelled then .answered answered.1 after
  else .waiting after (.answered answered.1 after)

end MemoryStore

end NodeGraph
