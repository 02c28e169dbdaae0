import NodeGraph.Store.StoredValue
import NodeGraph.Store.Token

/-!
# The vocabulary of statements

Which words can be names and in which places.  Quoting turns every word into a name.
-/

namespace NodeGraph

namespace Statement

/-- A text in ASCII upper case. -/
def upper (text : String) : String := String.ofList (text.toList.map Char.toUpper)

/-- Words that are no names anywhere. -/
def reservedWords : List String :=
  ["ADD", "ALL", "ALTER", "AND", "AS", "AUTOINCREMENT", "BETWEEN", "CASE", "CHECK", "COLLATE",
    "COMMIT", "CONSTRAINT", "CREATE", "DEFAULT", "DEFERRABLE", "DELETE", "DISTINCT", "DROP",
    "ELSE", "ESCAPE", "EXCEPT", "EXISTS", "FOREIGN", "FROM", "GROUP", "HAVING", "IN", "INDEX",
    "INSERT", "INTERSECT", "INTO", "IS", "ISNULL", "JOIN", "LIMIT", "NOT", "NOTHING", "NOTNULL",
    "NULL", "ON", "OR", "ORDER", "PRIMARY", "REFERENCES", "RETURNING", "SELECT", "SET", "TABLE",
    "THEN", "TO", "TRANSACTION", "UNION", "UNIQUE", "UPDATE", "USING", "VALUES", "WHEN", "WHERE"]

/-- Names that cannot stand for a column, because they begin another kind of term. -/
def openingWords : List String := ["CAST", "RAISE"]

/-- Names that cannot follow a table as its label, because they join it or go on with it. -/
def joiningWords : List String :=
  ["CROSS", "FULL", "INDEXED", "INNER", "LEFT", "NATURAL", "OUTER", "RIGHT"]

/-- Names that cannot follow a term as its label, because they compare it. -/
def matchingWords : List String := ["GLOB", "LIKE", "MATCH", "REGEXP"]

/-- What a word stands for that is a value wherever a term is read.  There is no clock, so
the words for the current time always name the same moment. -/
def wordValue? (word : String) : Option StoredValue :=
  match upper word with
  | "NULL" => some .null
  | "CURRENT_DATE" => some (.text "2000-01-01")
  | "CURRENT_TIME" => some (.text "00:00:00")
  | "CURRENT_TIMESTAMP" => some (.text "2000-01-01 00:00:00")
  | _ => none

/-- What a word stands for if no column has its name. -/
def truthValue? (word : String) : Option StoredValue :=
  match upper word with
  | "TRUE" => some (.integer 1)
  | "FALSE" => some (.integer 0)
  | _ => none

def isName (word : String) : Bool := !reservedWords.contains (upper word)

/-- Whether a word can be the name of a column in a term. -/
def isColumnName (word : String) : Bool := isName word && !openingWords.contains (upper word)

/-- Whether a word can label a table that it follows directly. -/
def isTableLabel (word : String) : Bool := isName word && !joiningWords.contains (upper word)

/-- Whether a word can label a term that it follows directly. -/
def isTermLabel (word : String) : Bool :=
  isTableLabel word && !matchingWords.contains (upper word)

/-- Whether two names are equal in any ASCII case. -/
def sameName (left right : String) : Bool := upper left == upper right

/-- The names of the number of a row, for tables that have no such column. -/
def namesRowNumber (name : String) : Bool :=
  ["ROWID", "OID", "_ROWID_"].contains (upper name)

end Statement

end NodeGraph
