import NodeGraph.Argument.Validated
import NodeGraph.Row.RowSet

/-!
# Resolvers

A resolver returns the records of one field.  It may read and change the state of the
request: the world that data sources and resolvers share, and whether the request has been
cancelled.  A data source need not answer at once.  While its query waits, others may change
the state, and the request may be cancelled.  Every query has its answer in the end; one that
waits forever is left out.
-/

namespace NodeGraph

/-- What resolvers and data sources share while one request runs. -/
structure RequestState (World : Type) where
  world : World
  cancelled : Bool := false

/-- What a resolver is told: the name of the field, the validated arguments, the names of
the selected sub-fields, and the record of the parent object. -/
structure ResolveParams where
  field : String
  arguments : ValidatedArguments := []
  selection : List String := []
  parent : Option Record := none

/-- A resolver of one field. -/
abbrev Resolver (World : Type) :=
  ResolveParams → RequestState World → Except GraphError (List Record) × RequestState World

/-- A query on its way.  It has its answer, or it waits; the request goes on with it in the
state that is found then, which the query and others have made meanwhile. -/
inductive SourceQuery (World : Type) where
  | answered (answer : Except SourceFault RowSet) (after : RequestState World)
  | waiting (found : RequestState World) (rest : SourceQuery World)

/-- Wait until a query has its answer or the request is cancelled.  Whether it is cancelled is
looked at first, each time before the query is asked to go on. -/
def SourceQuery.await {World : Type} :
    SourceQuery World → Option (Except SourceFault RowSet) × RequestState World
  | .answered answer after => (some answer, after)
  | .waiting found rest => if found.cancelled then (none, found) else rest.await

/-- A source of rows.  It makes of a statement, and of the state that it finds, a query. -/
abbrev DataSource (World : Type) := String → RequestState World → SourceQuery World

/-- The query of a statement before its source has been asked to begin. -/
def DataSource.query {World : Type} (source : DataSource World) (statement : String)
    (state : RequestState World) : SourceQuery World :=
  .waiting state (source statement state)

end NodeGraph
