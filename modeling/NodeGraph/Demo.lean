import NodeGraph.CommandLine.Runner
import NodeGraph.Store.MemoryStore
import NodeGraph.TableAdapter

/-!
# The demonstration catalog

Users and departments that refer to each other, kept in the in-memory store.
-/

namespace NodeGraph

namespace Demo

variable {World : Type}

def userColumns : List Column :=
  [{ name := "id", required := true }, { name := "name" }, { name := "email" },
    { name := "age" }, { name := "dept_id", required := true }]

def departmentColumns : List Column :=
  [{ name := "id", required := true }, { name := "dept_name", label := "name" }]

def userAdapter (source : DataSource World) (link : Option ParentLink) : TableAdapter World :=
  { table := "user", columns := userColumns, source, link }

def departmentAdapter (source : DataSource World) (link : Option ParentLink) :
    TableAdapter World :=
  { table := "department", columns := departmentColumns, source, link }

/-- The users, each with the department it belongs to. -/
def userNode (source : DataSource World) : Node (Resolver World) where
  name := "users"
  nodeType := "user"
  fields :=
    [{ name := "id", fieldType := .scalar .int },
      { name := "name", fieldType := .scalar .string },
      { name := "email", fieldType := .scalar .string },
      { name := "age", fieldType := .scalar .int },
      { name := "department"
        fieldType := .ofTag "department"
        resolver := some (departmentAdapter source (some ⟨"id", "dept_id"⟩)).resolve
        asList := some false
        description := some "Department the user belongs to" }]
  resolver := (userAdapter source none).resolve

/-- The departments, each with its members. -/
def departmentNode (source : DataSource World) : Node (Resolver World) where
  name := "departments"
  nodeType := "department"
  fields :=
    [{ name := "id", fieldType := .scalar .int },
      { name := "name", fieldType := .scalar .string },
      { name := "members"
        fieldType := .ofTag "user"
        resolver := some (userAdapter source (some ⟨"dept_id", "id"⟩)).resolve }]
  resolver := (departmentAdapter source none).resolve

def catalog (source : DataSource World) : Except GraphError (Catalog (Resolver World)) :=
  let (registered, catalog) :=
    (Catalog.sharing {}).1.registerAll [userNode source, departmentNode source]
  registered.map fun _ => catalog

def departmentRows : List (List Cell) :=
  [[.integer 1, .text "engineering"], [.integer 2, .text "marketing"]]

def userRows : List (List Cell) :=
  [[.integer 1, .text "ada", .text "ada@example.com", .integer 36, .integer 1],
    [.integer 2, .text "grace", .text "grace@example.com", .integer 45, .integer 1],
    [.integer 3, .text "linus", .text "linus@example.com", .integer 28, .integer 2],
    [.integer 4, .text "margaret", .text "margaret@example.com", .integer 33, .integer 1]]

def withTable (store : MemoryStore) (name : String) (columns : List String)
    (rows : List (List Cell)) : MemoryStore :=
  rows.foldl (fun store row => (store.insertRow name row).2) (store.createTable name columns).2

/-- A store with both tables in place of those it had. -/
def seed (store : MemoryStore) : MemoryStore :=
  let departments := withTable store "department" ["id", "dept_name"] departmentRows
  withTable departments "user" ["id", "name", "email", "age", "dept_id"] userRows

end Demo

end NodeGraph
