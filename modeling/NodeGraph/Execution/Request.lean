import NodeGraph.Json.Printer
import NodeGraph.Json.Value
import NodeGraph.Text.Cluster
import NodeGraph.Text.PrintTable

/-!
# Requests

A request holds a query document, the name of the operation to run and values for its
variables.  Clients send it as a JSON object, or as a list of the three parts in order.
-/

namespace NodeGraph

/-- A query request. -/
structure QueryRequest where
  query : String
  operationName : Option String := none
  provided : JsonObject := []
  deriving Repr, Inhabited

/-- What a part of a request must be. -/
inductive RequestShape where
  | text
  | map
  | request
  deriving DecidableEq, Repr, Inhabited

def RequestShape.phrase : RequestShape → String
  | .text => "a string"
  | .map => "a map"
  | .request => "struct QueryRequest"

/-- Why a JSON value is no request. -/
inductive RequestFault where
  | missingQuery
  | wrongType (found : Json) (expected : RequestShape)
  | emptyList
  | longList (length : Nat)
  deriving Repr, Inhabited

namespace RequestFault

/-- Characters that extend the one before and still print by themselves: the modifiers of
pictographs and the halfwidth sound marks. -/
def printsAlone (c : Char) : Bool :=
  (0x1F3FB ≤ c.toNat && c.toNat ≤ 0x1F3FF) || c.toNat == 0xFF9E || c.toNat == 0xFF9F

def isShownByCode (c : Char) : Bool :=
  Text.inRanges Text.unprintableRanges c ||
    ((Text.clusterClass c).extends && !printsAlone c)

/-- A character of a text that is quoted in a message. -/
def quotedChar (c : Char) : List Char :=
  if c = '\x00' then ['\\', '0']
  else if c = '\t' then ['\\', 't']
  else if c = '\r' then ['\\', 'r']
  else if c = '\n' then ['\\', 'n']
  else if c = '"' then ['\\', '"']
  else if c = '\\' then ['\\', '\\']
  else if isShownByCode c then
    ['\\', 'u', '\x7b'] ++ Nat.toDigits 16 c.toNat ++ ['\x7d']
  else [c]

/-- A value in a message: simple values are shown, others are named. -/
def foundText : Json → String
  | .null => "null"
  | .bool value => "boolean \x60" ++ (if value then "true" else "false") ++ "\x60"
  | .number (.integer value) => "integer \x60" ++ toString value ++ "\x60"
  | .number (.float value) =>
      "floating point \x60" ++ (JsonNumber.float value).text ++ "\x60"
  | .string value =>
      "string \"" ++ String.ofList (value.toList.flatMap quotedChar) ++ "\""
  | .array _ => "sequence"
  | .object _ => "map"

def message : RequestFault → String
  | .missingQuery => "missing field \x60query\x60"
  | .wrongType found expected =>
      "invalid type: " ++ foundText found ++ ", expected " ++ expected.phrase
  | .emptyList => "invalid length 0, expected struct QueryRequest with 3 elements"
  | .longList length =>
      "invalid length " ++ toString length ++ ", expected fewer elements in array"

end RequestFault

namespace QueryRequest

def readQuery : Json → Except RequestFault String
  | .string text => .ok text
  | other => .error (.wrongType other .text)

/-- The operation name of a request; null stands for none. -/
def readOperationName : Json → Except RequestFault (Option String)
  | .null => .ok none
  | .string text => .ok (some text)
  | other => .error (.wrongType other .text)

def readVariables : Json → Except RequestFault JsonObject
  | .object fields => .ok fields
  | other => .error (.wrongType other .map)

/-- A request whose document may still be missing. -/
structure Draft where
  query : Option String := none
  operationName : Option String := none
  provided : JsonObject := []

/-- Take up one entry of an object; entries of other names are ignored. -/
def readEntry (draft : Draft) (entry : String × Json) : Except RequestFault Draft :=
  match entry.1 with
  | "query" => (readQuery entry.2).map fun text => { draft with query := some text }
  | "operationName" =>
      (readOperationName entry.2).map fun name => { draft with operationName := name }
  | "variables" =>
      (readVariables entry.2).map fun fields => { draft with provided := fields }
  | _ => .ok draft

/-- The request of a JSON value.  The first faulty entry decides the error, and a missing
document comes last. -/
def ofJson : Json → Except RequestFault QueryRequest
  | .object fields => do
      let draft ← fields.foldlM readEntry {}
      match draft.query with
      | some query => .ok ⟨query, draft.operationName, draft.provided⟩
      | none => .error .missingQuery
  | .array [] => .error .emptyList
  | .array [query] => do return ⟨← readQuery query, none, []⟩
  | .array [query, name] => do return ⟨← readQuery query, ← readOperationName name, []⟩
  | .array (query :: name :: fields :: rest) => do
      let request : QueryRequest :=
        ⟨← readQuery query, ← readOperationName name, ← readVariables fields⟩
      if rest.isEmpty then return request else .error (.longList (rest.length + 3))
  | other => .error (.wrongType other .request)

def toJson (request : QueryRequest) : Json :=
  .object [("query", .string request.query),
    ("operationName", (request.operationName.map Json.string).getD .null),
    ("variables", .object request.provided)]

end QueryRequest

end NodeGraph
