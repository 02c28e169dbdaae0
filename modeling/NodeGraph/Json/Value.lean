import NodeGraph.Number.Decimal

/-!
# JSON values

Objects keep the order in which their keys were first written, because the order of a
client's keys decides the order of predicates, sorts and response fields.  They are
association lists with pairwise distinct keys; `JsonObject.insert` keeps the position of
a key that is already there and `JsonObject.ofEntries` builds an object from entries
that may repeat a key.
-/

namespace NodeGraph

/-- A JSON number: an integer of the 64 bit ranges, or a double. -/
inductive JsonNumber where
  | integer (value : Int)
  | float (value : Binary64)
  deriving DecidableEq, Repr, Inhabited

/-- The least integer of 64 bits. -/
def leastInt64 : Int := -9223372036854775808

/-- The greatest signed integer of 64 bits. -/
def greatestInt64 : Int := 9223372036854775807

/-- The greatest unsigned integer of 64 bits. -/
def greatestNat64 : Nat := 18446744073709551615

namespace JsonNumber

/-- Number text: integers plainly, doubles by their shortest digits. -/
def text : JsonNumber → String
  | .integer value => toString value
  | .float value => value.jsonText?.getD "null"

/-- The number as an unsigned integer of 64 bits; a float is never one. -/
def toNat64? : JsonNumber → Option Nat
  | .integer (.ofNat value) => if value ≤ greatestNat64 then some value else none
  | _ => none

end JsonNumber

/-- A JSON value. -/
inductive Json where
  | null
  | bool (value : Bool)
  | number (value : JsonNumber)
  | string (value : String)
  | array (items : List Json)
  | object (fields : List (String × Json))
  deriving Repr, Inhabited

/-- The kinds of JSON values that error messages tell apart. -/
inductive JsonKind where
  | null
  | boolean
  | number
  | string
  | list
  | object
  deriving DecidableEq, Repr, Inhabited

namespace JsonKind

/-- The kind in words, with its article. -/
def phrase : JsonKind → String
  | .null => "null"
  | .boolean => "a boolean"
  | .number => "a number"
  | .string => "a string"
  | .list => "a list"
  | .object => "an object"

end JsonKind

namespace Json

def kind : Json → JsonKind
  | .null => .null
  | .bool _ => .boolean
  | .number _ => .number
  | .string _ => .string
  | .array _ => .list
  | .object _ => .object

def ofInt (value : Int) : Json := .number (.integer value)

/-- The null value is absent wherever a value is optional. -/
def isNull : Json → Bool
  | .null => true
  | _ => false

end Json

/-- An object's entries in the order of their keys' first appearance. -/
abbrev JsonObject := List (String × Json)

namespace JsonObject

def find? (fields : JsonObject) (key : String) : Option Json :=
  List.lookup key fields

/-- Write a key: a new one goes to the end, a known one keeps its place. -/
def insert (key : String) (value : Json) : JsonObject → JsonObject
  | [] => [(key, value)]
  | (other, previous) :: rest =>
      if other = key then (key, value) :: rest
      else (other, previous) :: insert key value rest

/-- The object that results from writing the entries one after another. -/
def ofEntries (entries : List (String × Json)) : JsonObject :=
  entries.foldl (fun fields entry => insert entry.1 entry.2 fields) []

/-- The keys in order. -/
def keys (fields : JsonObject) : List String := fields.map Prod.fst

@[simp]
theorem find?_nil (key : String) : find? [] key = none :=
  rfl

@[simp]
theorem insert_nil (key : String) (value : Json) :
    insert key value [] = [(key, value)] :=
  rfl

/-- Writing a key makes its value the one that is found. -/
@[simp]
theorem find?_insert_self (fields : JsonObject) (key : String) (value : Json) :
    find? (insert key value fields) key = some value := by
  induction fields with
  | nil => simp [find?, insert]
  | cons entry rest ih =>
      obtain ⟨other, previous⟩ := entry
      by_cases same : other = key
      · simp [insert, same, find?]
      · have different : (key == other) = false := by
          simpa using fun equal : key = other => same equal.symm
        simp only [find?] at ih
        simp [insert, same, find?, List.lookup_cons, different, ih]

/-- Writing a key leaves every other key's value alone. -/
theorem find?_insert_of_ne (fields : JsonObject) {key other : String} (value : Json)
    (different : other ≠ key) :
    find? (insert key value fields) other = find? fields other := by
  have unequal : (other == key) = false := by simpa using different
  induction fields with
  | nil => simp [find?, insert, List.lookup_cons, unequal]
  | cons entry rest ih =>
      obtain ⟨name, previous⟩ := entry
      by_cases same : name = key
      · subst same
        simp [insert, find?, List.lookup_cons, unequal]
      · simp only [find?] at ih
        by_cases found : other = name
        · subst found
          simp [insert, same, find?]
        · have notFound : (other == name) = false := by simpa using found
          simp [insert, same, find?, List.lookup_cons, notFound, ih]

/-- The keys after a write: the old ones, and the new one at the end if it was not there. -/
theorem keys_insert (fields : JsonObject) (key : String) (value : Json) :
    keys (insert key value fields) =
      if key ∈ keys fields then keys fields else keys fields ++ [key] := by
  induction fields with
  | nil => simp [keys, insert]
  | cons entry rest ih =>
      obtain ⟨other, previous⟩ := entry
      by_cases same : other = key
      · simp [insert, same, keys]
      · simp only [keys] at ih
        have notSame : ¬ key = other := fun equal => same equal.symm
        by_cases inRest : key ∈ rest.map Prod.fst
        · simp [insert, same, keys, ih, inRest]
        · simp [insert, same, notSame, keys, ih, inRest]

end JsonObject

end NodeGraph
