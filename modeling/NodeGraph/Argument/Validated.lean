import NodeGraph.Argument.Registry

/-!
# Validated arguments

The arguments of one field of a query, after every value has been recorded by a fresh
argument of its kind.  A value that is null counts as not given.
-/

namespace NodeGraph

/-- Arguments in the order in which a client gave them. -/
abbrev ValidatedArguments := List Argument

namespace ValidatedArguments

/-- Validate one entry: the argument it gives, or none for a null value. -/
def validateEntry (registry : ArgumentRegistry) (field : String)
    (accepted : List ArgumentDefinition) (entry : String × Json) :
    Except GraphError (Option Argument) :=
  if !accepted.any (fun definition => definition.name == entry.1) then
    .error (.unsupportedArgument field entry.1)
  else if entry.2.isNull then .ok none
  else
    match registry.fresh? entry.1 with
    | none => .error (.unknownArgument entry.1)
    | some fresh =>
        match fresh.record entry.2 with
        | (.error fault, _) => .error fault
        | (.ok _, argument) => .ok (some argument)

/-- Validate the raw arguments of a field against the arguments it accepts; the first
offending entry decides the error. -/
def validate (registry : ArgumentRegistry) (field : String)
    (accepted : List ArgumentDefinition) :
    List (String × Json) → Except GraphError ValidatedArguments
  | [] => .ok []
  | entry :: rest => do
      let given ← validateEntry registry field accepted entry
      let others ← validate registry field accepted rest
      return given.toList ++ others

/-- The first argument of the kind with a name. -/
def get? (arguments : ValidatedArguments) (name : String) : Option Argument :=
  arguments.find? fun argument => argument.typeName == name

def filter? (arguments : ValidatedArguments) : Option (List Predicate) :=
  match get? arguments filterName with
  | some (.filter predicates) => some predicates
  | _ => none

def limit? (arguments : ValidatedArguments) : Option Limit :=
  match get? arguments limitName with
  | some (.limit window) => some window
  | _ => none

/-- The sorts of the sort order. -/
def orderBy? (arguments : ValidatedArguments) : Option (List SortKey) :=
  match get? arguments orderByName with
  | some (.orderBy sorts) => some sorts
  | _ => none

/-- The kinds' names in order. -/
def names (arguments : ValidatedArguments) : List String := arguments.map Argument.typeName

/-- Write every argument's fragment, in order. -/
def combineInto (arguments : ValidatedArguments) (clauses : SelectClauses) : SelectClauses :=
  arguments.foldl (fun clauses argument => argument.combine clauses) clauses

end ValidatedArguments

end NodeGraph
