import NodeGraph.Schema.Types
import NodeGraph.Text.Blank
import NodeGraph.Text.Lines

/-!
# Schema documents

A schema is described by a document: the definition of the query root, the scalars of the
arguments, the object types and the query type.  The document is a value of its own, and
`SdlDocument.text` writes it in the schema definition language.
-/

namespace NodeGraph

/-- A type in a schema document. -/
inductive SdlType where
  | named (name : String)
  | list (item : SdlType)
  deriving DecidableEq, Repr, Inhabited

/-- A field in a schema document; arguments are names with the names of their types. -/
structure SdlField where
  name : String
  type : SdlType
  arguments : List (String × String) := []
  description : Option String := none
  deriving DecidableEq, Repr, Inhabited

/-- A definition of a schema document. -/
inductive SdlDefinition where
  | root (query : String)
  | scalar (name : String)
  | object (name : String) (fields : List SdlField)
  deriving DecidableEq, Repr, Inhabited

/-- The definitions of a schema in order. -/
abbrev SdlDocument := List SdlDefinition

def queryTypeName : String := "Query"

namespace Schema

variable {R : Type}

def sdlType (schema : Schema R) : OutputType → SdlType
  | .scalar scalar => .named scalar.name
  | .object id => .named (schema.object id).name
  | .list item => .list (schema.sdlType item)

def sdlArguments (arguments : List ArgumentDefinition) : List (String × String) :=
  arguments.map fun argument => (argument.name, argument.typeName)

def sdlField (schema : Schema R) (field : SchemaField R) : SdlField :=
  { name := field.name
    type := schema.sdlType field.output
    arguments := sdlArguments field.arguments
    description := field.description }

def sdlRoot (schema : Schema R) (root : RootField R) : SdlField :=
  { name := root.name
    type := schema.sdlType root.output
    arguments := sdlArguments root.arguments }

/-- The distinct type names of the arguments of all objects in ascending order. -/
def argumentScalars (schema : Schema R) : List String :=
  let names := schema.objects.flatMap fun object =>
    object.arguments.map fun argument => argument.typeName
  names.eraseDups.mergeSort fun left right => decide (left ≤ right)

def document (schema : Schema R) : SdlDocument :=
  .root queryTypeName ::
    schema.argumentScalars.map .scalar ++
    schema.objects.map (fun object =>
      .object object.name (object.fields.map schema.sdlField)) ++
    [.object queryTypeName (schema.roots.map schema.sdlRoot)]

end Schema

namespace SdlType

def text : SdlType → String
  | .named name => name
  | .list item => "[" ++ item.text ++ "]"

end SdlType

namespace SdlField

def indent : String := "  "

/-- A character that a description can hold without an escape. -/
def isPlain (c : Char) : Bool := 0x20 ≤ c.toNat && c.toNat ≤ 0xFFFF

/-- A decimal code of at least four digits. -/
def paddedCode (code : Nat) : List Char :=
  let digits := (toString code).toList
  List.replicate (4 - digits.length) '0' ++ digits

def escapeChar (c : Char) : List Char :=
  if c = '\r' then ['\\', 'r']
  else if c = '\n' then ['\\', 'n']
  else if c = '\t' then ['\\', 't']
  else if c = '"' then ['\\', '"']
  else if c = '\\' then ['\\', '\\']
  else if isPlain c then [c]
  else '\\' :: 'u' :: paddedCode c.toNat

def escapeTripleQuotes : List Char → List Char
  | '"' :: '"' :: '"' :: rest => '\\' :: '"' :: '"' :: '"' :: escapeTripleQuotes rest
  | c :: rest => c :: escapeTripleQuotes rest
  | [] => []

def blockLine (line : List Char) : String :=
  if line.all Text.isBlank then "\n"
  else indent ++ indent ++ String.ofList (escapeTripleQuotes line) ++ "\n"

/-- A description with its indentation and line end.  One with line feeds and only
printable characters is a block, any other stands on one line. -/
def descriptionText (description : String) : String :=
  let characters := description.toList
  let printable := characters.all fun c => isPlain c || c = '\n' || c = '\r' || c = '\t'
  if characters.contains '\n' && printable then
    indent ++ "\"\"\"\n" ++ String.join ((Text.lines characters).map blockLine) ++
      indent ++ "\"\"\"\n"
  else indent ++ "\"" ++ String.ofList (characters.flatMap escapeChar) ++ "\"\n"

/-- The arguments of a field in parentheses, or nothing without arguments. -/
def argumentsText : List (String × String) → String
  | [] => ""
  | arguments =>
      "(" ++ ", ".intercalate (arguments.map fun argument =>
        argument.1 ++ ": " ++ argument.2) ++ ")"

def text (field : SdlField) : String :=
  (field.description.map descriptionText).getD "" ++
    indent ++ field.name ++ argumentsText field.arguments ++ ": " ++ field.type.text ++ "\n"

end SdlField

namespace SdlDefinition

def text : SdlDefinition → String
  | .root query =>
      "schema \x7b\n" ++ SdlField.indent ++ "query: " ++ query ++ "\n\x7d\n"
  | .scalar name => "scalar " ++ name ++ "\n"
  | .object name [] => "type " ++ name ++ "\n"
  | .object name fields =>
      "type " ++ name ++ " \x7b\n" ++ String.join (fields.map SdlField.text) ++ "\x7d\n"

end SdlDefinition

namespace SdlDocument

/-- The text of a document: its definitions with an empty line between them. -/
def text (document : SdlDocument) : String :=
  "\n".intercalate (document.map SdlDefinition.text)

end SdlDocument

namespace Schema

/-- The schema in the schema definition language. -/
def toSdl {R : Type} (schema : Schema R) : String := SdlDocument.text schema.document

end Schema

end NodeGraph
