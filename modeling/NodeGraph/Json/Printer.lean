import NodeGraph.Json.Value

/-!
# JSON text

A value has a compact text without spaces and an indented text with two spaces for each
level.  Strings escape the quote, the backslash and the characters below the space; all
other characters are written as they are.
-/

namespace NodeGraph

namespace Json

def hexDigit (value : Nat) : Char :=
  if value < 10 then Char.ofNat ('0'.toNat + value)
  else Char.ofNat ('a'.toNat + (value - 10))

/-- A character of a string as it is written between the quotes. -/
def escapeChar (c : Char) : List Char :=
  if c = '"' then ['\\', '"']
  else if c = '\\' then ['\\', '\\']
  else if c = '\x08' then ['\\', 'b']
  else if c = '\x0c' then ['\\', 'f']
  else if c = '\n' then ['\\', 'n']
  else if c = '\r' then ['\\', 'r']
  else if c = '\t' then ['\\', 't']
  else if c.toNat < 32 then
    ['\\', 'u', '0', '0', hexDigit (c.toNat / 16), hexDigit (c.toNat % 16)]
  else [c]

def quote (text : String) : String :=
  "\"" ++ String.ofList (text.toList.flatMap escapeChar) ++ "\""

mutual

def compact : Json → String
  | .null => "null"
  | .bool true => "true"
  | .bool false => "false"
  | .number value => value.text
  | .string value => quote value
  | .array items => "[" ++ compactItems items ++ "]"
  | .object fields => "\x7b" ++ compactFields fields ++ "\x7d"

def compactItems : List Json → String
  | [] => ""
  | [item] => compact item
  | item :: next :: rest => compact item ++ "," ++ compactItems (next :: rest)

def compactFields : List (String × Json) → String
  | [] => ""
  | [(key, value)] => quote key ++ ":" ++ compact value
  | (key, value) :: next :: rest =>
      quote key ++ ":" ++ compact value ++ "," ++ compactFields (next :: rest)

end

def newline (level : Nat) : String :=
  "\n" ++ String.ofList (List.replicate (2 * level) ' ')

mutual

/-- The indented text of a value that stands at a level; empty lists and objects stay on
one line. -/
def indented (level : Nat) : Json → String
  | .array [] => "[]"
  | .object [] => "\x7b\x7d"
  | .array (item :: rest) =>
      "[" ++ indentedItems (level + 1) (item :: rest) ++ newline level ++ "]"
  | .object (field :: rest) =>
      "\x7b" ++ indentedFields (level + 1) (field :: rest) ++ newline level ++ "\x7d"
  | .null => "null"
  | .bool true => "true"
  | .bool false => "false"
  | .number value => value.text
  | .string value => quote value

def indentedItems (level : Nat) : List Json → String
  | [] => ""
  | [item] => newline level ++ indented level item
  | item :: next :: rest =>
      newline level ++ indented level item ++ "," ++ indentedItems level (next :: rest)

def indentedFields (level : Nat) : List (String × Json) → String
  | [] => ""
  | [(key, value)] => newline level ++ quote key ++ ": " ++ indented level value
  | (key, value) :: next :: rest =>
      newline level ++ quote key ++ ": " ++ indented level value ++ "," ++
        indentedFields level (next :: rest)

end

def pretty (value : Json) : String := indented 0 value

end Json

end NodeGraph
