import NodeGraph.Execution.Request
import NodeGraph.Json.Parser

/-!
# Command line options

The options of the runner and how they are read from words.  The value of an option is
the next word or is attached to the option itself; it takes effect when the next option
comes or the words end, so a missing or repeated value is noticed only then.
-/

namespace NodeGraph

/-- The options of the runner. -/
structure Options where
  query : Option String := none
  queryFile : Option String := none
  variableText : Option String := none
  operationName : Option String := none
  printSchema : Bool := false
  debug : Bool := false
  deriving DecidableEq, Repr, Inhabited

/-- Why words are no options. -/
inductive UsageFault where
  | helpRequested
  | conflict
  | missingValue
  | surplusValue
  | unknown
  deriving DecidableEq, Repr, Inhabited

/-- An option that takes a value. -/
inductive ValueOption where
  | query
  | queryFile
  | variableText
  | operationName
  deriving DecidableEq, Repr, Inhabited

/-- An option that takes none. -/
inductive FlagOption where
  | printSchema
  | debug
  | help
  deriving DecidableEq, Repr, Inhabited

/-- An option of either sort. -/
inductive AnyOption where
  | value (option : ValueOption)
  | flag (option : FlagOption)
  deriving DecidableEq, Repr, Inhabited

namespace AnyOption

def ofLongName? (name : String) : Option AnyOption :=
  [("query", AnyOption.value .query), ("query-file", .value .queryFile),
    ("variables", .value .variableText), ("operation-name", .value .operationName),
    ("print-schema", .flag .printSchema), ("debug", .flag .debug),
    ("help", .flag .help)].lookup name

def ofLetter? (letter : Char) : Option AnyOption :=
  [('q', AnyOption.value .query), ('d', .flag .debug), ('h', .flag .help)].lookup letter

end AnyOption

namespace Options

/-- Options read so far, and an option that has not taken effect, with its value. -/
structure Progress where
  options : Options := {}
  pending : Option (ValueOption × Option String) := none
  deriving DecidableEq, Repr, Inhabited

def value? (options : Options) : ValueOption → Option String
  | .query => options.query
  | .queryFile => options.queryFile
  | .variableText => options.variableText
  | .operationName => options.operationName

def withValue (options : Options) (value : String) : ValueOption → Options
  | .query => { options with query := some value }
  | .queryFile => { options with queryFile := some value }
  | .variableText => { options with variableText := some value }
  | .operationName => { options with operationName := some value }

/-- Give an option its value, once.  The empty text is no path of a file. -/
def assign (options : Options) (option : ValueOption) (value : String) :
    Except UsageFault Options :=
  if (options.value? option).isSome then .error .conflict
  else if option = .queryFile ∧ value = "" then .error .missingValue
  else .ok (options.withValue value option)

def settle (progress : Progress) : Except UsageFault Options :=
  match progress.pending with
  | none => .ok progress.options
  | some (_, none) => .error .missingValue
  | some (option, some value) => progress.options.assign option value

/-- Set a flag, once. -/
def raise (options : Options) : FlagOption → Except UsageFault Options
  | .help => .error .helpRequested
  | .debug => if options.debug then .error .conflict else .ok { options with debug := true }
  | .printSchema =>
      if options.printSchema then .error .conflict
      else .ok { options with printSchema := true }

/-- Meet an option, perhaps with a value attached. -/
def meet (progress : Progress) (option : ValueOption) (attached : Option String) :
    Except UsageFault Progress := do
  let options ← settle progress
  match attached with
  | none => return { options, pending := some (option, none) }
  | some value => return { options := ← options.assign option value }

/-- Read the letters of a word after its hyphen.  What follows the letter of an option with
a value is that value. -/
def readLetters (progress : Progress) : List Char → Except UsageFault Progress
  | [] => .ok progress
  | letter :: rest =>
      match AnyOption.ofLetter? letter with
      | none => .error .unknown
      | some (.flag option) => do
          let options ← settle progress
          readLetters { options := ← options.raise option } rest
      | some (.value option) =>
          match rest with
          | [] => meet progress option none
          | '=' :: value => meet progress option (some (String.ofList value))
          | value => meet progress option (some (String.ofList value))

/-- Read a word after its two hyphens: a name, perhaps with a value attached by an equals
sign. -/
def readLong (progress : Progress) (text : List Char) : Except UsageFault Progress :=
  let name := String.ofList (text.takeWhile fun c => c != '=')
  let attached : Option String :=
    match text.dropWhile fun c => c != '=' with
    | [] => none
    | _ :: value => some (String.ofList value)
  match AnyOption.ofLongName? name, attached with
  | none, _ => .error .unknown
  | some (.flag _), some _ => .error .surplusValue
  | some (.flag option), none => do
      let options ← settle progress
      return { options := ← options.raise option }
  | some (.value option), attached => meet progress option attached

/-- Read a word that is no option: the value of the pending option, if it lacks one. -/
def readPlain (progress : Progress) (word : String) : Except UsageFault Progress :=
  match progress.pending with
  | some (option, none) => .ok { progress with pending := some (option, some word) }
  | _ => .error .unknown

/-- Read words in order.  After two hyphens alone nothing is an option or its value. -/
def readWords (progress : Progress) : List String → Except UsageFault Progress
  | [] => .ok progress
  | word :: rest =>
      match word.toList with
      | ['-', '-'] => if rest.isEmpty then .ok progress else .error .unknown
      | '-' :: '-' :: text => do readWords (← readLong progress text) rest
      | '-' :: letter :: text => do readWords (← readLetters progress (letter :: text)) rest
      | _ => do readWords (← readPlain progress word) rest

/-- The options of some words.  A query and a query file exclude each other. -/
def parse (words : List String) : Except UsageFault Options := do
  let options ← settle (← readWords {} words)
  if options.query.isSome && options.queryFile.isSome then .error .conflict
  else return options

end Options

/-- Why options do not give a request. -/
inductive InputFault where
  | unreadableFile (path : String)
  | malformedVariables
  | variablesNotObject (found : Json)
  deriving Repr, Inhabited

def InputFault.message : InputFault → String
  | .unreadableFile path => s!"Failed to read query file: {path}"
  | .malformedVariables => "Failed to parse --variables as JSON"
  | .variablesNotObject found => s!"--variables must be a JSON object, got {found.compact}"

namespace Options

/-- The document to run, read from a file if the options name one. -/
def document (options : Options) (readFile : String → Option String) :
    Except InputFault (Option String) :=
  match options.query, options.queryFile with
  | some query, _ => .ok (some query)
  | none, some path =>
      match readFile path with
      | some text => .ok (some text)
      | none => .error (.unreadableFile path)
  | none, none => .ok none

/-- The variables of the options; null stands for none. -/
def readVariables (text : String) : Except InputFault JsonObject :=
  match Json.parse? text with
  | none => .error .malformedVariables
  | some (.object fields) => .ok fields
  | some .null => .ok []
  | some other => .error (.variablesNotObject other)

/-- The request of the options, if they name a document. -/
def request (options : Options) (readFile : String → Option String) :
    Except InputFault (Option QueryRequest) := do
  match ← options.document readFile with
  | none => return none
  | some query =>
      let provided ←
        match options.variableText with
        | none => pure []
        | some text => readVariables text
      return some { query, operationName := options.operationName, provided }

end Options

end NodeGraph
