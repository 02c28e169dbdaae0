import NodeGraph.Demo

/-!
# The command line program

Runs the demonstration catalog with the options of the command line.
-/

namespace NodeGraph

def usageText : String :=
  "Build a node schema and run GraphQL queries against it\n\n" ++
  "Usage: nodegraph [OPTIONS]\n\n" ++
  "Options:\n" ++
  "  -q, --query <QUERY>                    Query document to execute\n" ++
  "      --query-file <QUERY_FILE>          Read the query document from a file\n" ++
  "      --variables <VARIABLES>            Query variables as a JSON object\n" ++
  "      --operation-name <OPERATION_NAME>  Operation to run when the document holds several\n" ++
  "      --print-schema                     Print the schema as GraphQL SDL\n" ++
  "  -d, --debug                            Enable debug/verbose logging\n" ++
  "  -h, --help                             Print help"

def UsageFault.text : UsageFault → String
  | .helpRequested => usageText
  | .conflict => "error: options are repeated or exclude each other"
  | .missingValue => "error: an option lacks its value"
  | .surplusValue => "error: a value was given to a flag"
  | .unknown => "error: unexpected argument"

/-- The text of a file, if it can be read. -/
def readTextFile (path : String) : IO (Option String) := do
  try
    return some (← IO.FS.readFile path)
  catch _ =>
    return none

def runOptions (options : Options) : IO UInt32 := do
  let contents ←
    match options.queryFile with
    | some path => readTextFile path
    | none => pure none
  match Demo.catalog MemoryStore.source with
  | .error fault =>
      IO.eprintln fault.message
      return 1
  | .ok catalog =>
      let outcome := options.run (fun _ => contents) catalog (Demo.seed {})
      for line in outcome.printed do
        IO.println line
      match outcome.result with
      | .ok _ => return 0
      | .error fault =>
          IO.eprintln s!"Runner failed: {fault.fullMessage}"
          return 1

end NodeGraph

def main (arguments : List String) : IO UInt32 := do
  match NodeGraph.Options.parse arguments with
  | .ok options => NodeGraph.runOptions options
  | .error .helpRequested =>
      IO.println (NodeGraph.UsageFault.text .helpRequested)
      return 0
  | .error fault =>
      IO.eprintln (NodeGraph.UsageFault.text fault)
      return 2
