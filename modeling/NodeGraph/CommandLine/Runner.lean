import NodeGraph.CommandLine.Options
import NodeGraph.Execution.Completion
import NodeGraph.Schema.Catalog

/-!
# The runner

A run builds the schema of a catalog, prints it if asked to, and executes the request of
the options.  What it prints is collected in order.
-/

namespace NodeGraph

/-- Why a run fails. -/
inductive RunFault where
  | notBuilt (cause : GraphError)
  | input (fault : InputFault)
  | notExecuted (cause : GraphError)
  deriving Repr, Inhabited

namespace RunFault

/-- The fault in words, without its cause. -/
def message : RunFault → String
  | .notBuilt _ => "Failed to build schema"
  | .input fault => fault.message
  | .notExecuted _ => "Query failed"

def cause? : RunFault → Option GraphError
  | .notBuilt cause => some cause
  | .input _ => none
  | .notExecuted cause => some cause

def fullMessage (fault : RunFault) : String :=
  match fault.cause? with
  | some cause => fault.message ++ ": " ++ cause.message
  | none => fault.message

end RunFault

/-- What a run leaves: its data if it ran a request, the lines it printed, and the shared
state. -/
structure RunOutcome (World : Type) where
  result : Except RunFault (Option Json)
  printed : List String
  state : RequestState World

namespace Options

variable {World : Type}

def run (options : Options) (readFile : String → Option String)
    (catalog : Catalog (Resolver World)) (world : World) : RunOutcome World :=
  match catalog.schema.1 with
  | .error cause => ⟨.error (.notBuilt cause), [], ⟨world, false⟩⟩
  | .ok schema =>
      let printed := if options.printSchema then [schema.toSdl] else []
      match options.request readFile with
      | .error fault => ⟨.error (.input fault), printed, ⟨world, false⟩⟩
      | .ok none => ⟨.ok none, printed, ⟨world, false⟩⟩
      | .ok (some request) =>
          match schema.execute request { state := ⟨world, false⟩ } with
          | (.error cause, progress) =>
              ⟨.error (.notExecuted cause), printed, progress.state⟩
          | (.ok data, progress) =>
              ⟨.ok (some data),
                printed ++ [Json.pretty (.object [("data", data)])], progress.state⟩

end Options

end NodeGraph
