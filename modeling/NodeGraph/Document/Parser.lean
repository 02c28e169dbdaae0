import NodeGraph.Document.Ast
import NodeGraph.Document.Token

/-!
# Reading query documents

A descent over the tokens of a document.  Every reader returns what it has read with the
tokens that are left, and takes a number of steps that bounds its nested calls; each of
them takes a token, so twice as many steps as tokens are enough.
-/

namespace NodeGraph

namespace QueryDocument

/-- What a reader returns: a value and the tokens that are left. -/
abbrev Reading (α : Type) := Option (α × List Token)

/-- Enter a key into fields in ascending order; a key that is there takes the new value. -/
def enterField (key : String) (value : Literal) :
    List (String × Literal) → List (String × Literal)
  | [] => [(key, value)]
  | (other, previous) :: rest =>
      if key = other then (key, value) :: rest
      else if key < other then (key, value) :: (other, previous) :: rest
      else (other, previous) :: enterField key value rest

mutual

/-- Read a value.  Variables stand only where `mayVary` allows them. -/
def readValue (mayVary : Bool) (steps : Nat) (tokens : List Token) : Reading Literal :=
  match steps with
  | 0 => none
  | steps + 1 =>
      match tokens with
      | .name "true" :: rest => some (.boolean true, rest)
      | .name "false" :: rest => some (.boolean false, rest)
      | .name "null" :: rest => some (.null, rest)
      | .name text :: rest => some (.enumeration text, rest)
      | .int value :: rest => some (.int value, rest)
      | .float value :: rest => some (.float value, rest)
      | .string value :: rest => some (.string value, rest)
      | .punctuator '$' :: .name text :: rest =>
          if mayVary then some (.variable text, rest) else none
      | .punctuator '[' :: rest => readItems mayVary steps [] rest
      | .punctuator '\x7b' :: rest => readFields mayVary steps [] rest
      | _ => none

/-- Read the items of a list up to its bracket; `done` holds those read, in reverse. -/
def readItems (mayVary : Bool) (steps : Nat) (done : List Literal)
    (tokens : List Token) : Reading Literal :=
  match steps with
  | 0 => none
  | steps + 1 =>
      match tokens with
      | .punctuator ']' :: rest => some (.list done.reverse, rest)
      | other =>
          match readValue mayVary steps other with
          | some (item, rest) => readItems mayVary steps (item :: done) rest
          | none => none

/-- Read the fields of an object up to its bracket. -/
def readFields (mayVary : Bool) (steps : Nat) (done : List (String × Literal))
    (tokens : List Token) : Reading Literal :=
  match steps with
  | 0 => none
  | steps + 1 =>
      match tokens with
      | .punctuator '\x7d' :: rest => some (.object done, rest)
      | .name key :: .punctuator ':' :: rest =>
          match readValue mayVary steps rest with
          | some (value, rest) =>
              readFields mayVary steps (enterField key value done) rest
          | none => none
      | _ => none

end

def readNamedValues : Nat → List (String × Literal) → List Token →
    Reading (List (String × Literal))
  | 0, _, _ => none
  | steps + 1, done, tokens =>
      match tokens with
      | .punctuator ')' :: rest =>
          if done.isEmpty then none else some (done.reverse, rest)
      | .name key :: .punctuator ':' :: rest =>
          match readValue true steps rest with
          | some (value, rest) => readNamedValues steps ((key, value) :: done) rest
          | none => none
      | _ => none

/-- Read arguments in parentheses, if there are any.  Parentheses hold at least one. -/
def readArguments (steps : Nat) (tokens : List Token) : Reading (List (String × Literal)) :=
  match tokens with
  | .punctuator '(' :: rest => readNamedValues steps [] rest
  | other => some ([], other)

/-- Read directives and drop them. -/
def skipDirectives : Nat → List Token → Option (List Token)
  | 0, _ => none
  | steps + 1, tokens =>
      match tokens with
      | .punctuator '@' :: .name _ :: rest =>
          match readArguments steps rest with
          | some (_, rest) => skipDirectives steps rest
          | none => none
      | .punctuator '@' :: _ => none
      | other => some other

mutual

def readSelection (steps : Nat) (tokens : List Token) : Reading Selection :=
  match steps with
  | 0 => none
  | steps + 1 =>
      match tokens with
      | .spread :: .name "on" :: .name condition :: rest =>
          match skipDirectives steps rest with
          | some (.punctuator '\x7b' :: rest) =>
              (readSelections steps [] rest).map fun found =>
                (.inlineFragment (some condition) found.1, found.2)
          | _ => none
      | .spread :: .name "on" :: _ => none
      | .spread :: .name name :: rest =>
          (skipDirectives steps rest).map fun rest => (.fragmentSpread name, rest)
      | .spread :: rest =>
          match skipDirectives steps rest with
          | some (.punctuator '\x7b' :: rest) =>
              (readSelections steps [] rest).map fun found =>
                (.inlineFragment none found.1, found.2)
          | _ => none
      | .name renamed :: .punctuator ':' :: .name name :: rest =>
          readField steps (some renamed) name rest
      | .name _ :: .punctuator ':' :: _ => none
      | .name name :: rest => readField steps none name rest
      | _ => none

/-- Read a field after its name. -/
def readField (steps : Nat) (renamed : Option String) (name : String)
    (tokens : List Token) : Reading Selection :=
  match steps with
  | 0 => none
  | steps + 1 =>
      match readArguments steps tokens with
      | none => none
      | some (arguments, rest) =>
          match skipDirectives steps rest with
          | none => none
          | some (.punctuator '\x7b' :: rest) =>
              (readSelections steps [] rest).map fun found =>
                (.field renamed name arguments found.1, found.2)
          | some rest => some (.field renamed name arguments [], rest)

/-- Read the selections of a set up to its bracket; `done` holds those read, in reverse.
A set holds at least one. -/
def readSelections (steps : Nat) (done : List Selection) (tokens : List Token) :
    Reading (List Selection) :=
  match steps with
  | 0 => none
  | steps + 1 =>
      match tokens with
      | .punctuator '\x7d' :: rest =>
          if done.isEmpty then none else some (done.reverse, rest)
      | other =>
          match readSelection steps other with
          | some (selection, rest) => readSelections steps (selection :: done) rest
          | none => none

end

def readSelectionSet (steps : Nat) (tokens : List Token) : Reading (List Selection) :=
  match tokens with
  | .punctuator '\x7b' :: rest => readSelections steps [] rest
  | _ => none

/-- Drop the mark of a type that is never null. -/
def skipNonNull : List Token → List Token
  | .punctuator '!' :: rest => rest
  | other => other

/-- Read a type and drop it. -/
def skipType : Nat → List Token → Option (List Token)
  | 0, _ => none
  | steps + 1, tokens =>
      match tokens with
      | .name _ :: rest => some (skipNonNull rest)
      | .punctuator '[' :: rest =>
          match skipType steps rest with
          | some (.punctuator ']' :: rest) => some (skipNonNull rest)
          | _ => none
      | _ => none

/-- Read the variables of an operation up to the parenthesis; there is at least one. -/
def readVariables : Nat → List VariableDefinition → List Token →
    Reading (List VariableDefinition)
  | 0, _, _ => none
  | steps + 1, done, tokens =>
      match tokens with
      | .punctuator ')' :: rest =>
          if done.isEmpty then none else some (done.reverse, rest)
      | .punctuator '$' :: .name name :: .punctuator ':' :: rest =>
          match skipType steps rest with
          | none => none
          | some (.punctuator '=' :: rest) =>
              match readValue false steps rest with
              | some (value, rest) => readVariables steps (⟨name, some value⟩ :: done) rest
              | none => none
          | some rest => readVariables steps (⟨name, none⟩ :: done) rest
      | _ => none

/-- Read an operation after its keyword. -/
def readOperation (steps : Nat) (kind : OperationKind) (tokens : List Token) :
    Option (Definition × List Token) := do
  let (name, rest) :=
    match tokens with
    | .name text :: rest => (some text, rest)
    | other => (none, other)
  let (declared, rest) ← show Option (List VariableDefinition × List Token) from
    match rest with
    | .punctuator '(' :: rest => readVariables steps [] rest
    | other => some ([], other)
  let rest ← skipDirectives steps rest
  let (selections, rest) ← readSelectionSet steps rest
  return (.operation kind name declared selections, rest)

def readDefinition (steps : Nat) (tokens : List Token) :
    Option (Definition × List Token) :=
  match tokens with
  | .name "query" :: rest => readOperation steps .query rest
  | .name "mutation" :: rest => readOperation steps .mutation rest
  | .name "subscription" :: rest => readOperation steps .subscription rest
  | .name "fragment" :: .name name :: .name "on" :: .name condition :: rest => do
      let rest ← skipDirectives steps rest
      let (selections, rest) ← readSelectionSet steps rest
      return (.fragment name condition selections, rest)
  | other =>
      (readSelectionSet steps other).map fun found => (.selectionSet found.1, found.2)

/-- Read definitions up to the end; there is at least one. -/
def readDefinitions (inner : Nat) : Nat → List Definition → List Token →
    Option QueryDocument
  | 0, _, _ => none
  | steps + 1, done, tokens =>
      match tokens with
      | [] => if done.isEmpty then none else some done.reverse
      | other =>
          match readDefinition inner other with
          | some (definition, rest) => readDefinitions inner steps (definition :: done) rest
          | none => none

def parse? (text : String) : Option QueryDocument :=
  match Token.tokenize? text with
  | some tokens =>
      readDefinitions (2 * tokens.length + 4) (tokens.length + 1) [] tokens
  | none => none

end QueryDocument

end NodeGraph
