import NodeGraph.Main
import NodeGraph.Proofs.Catalog.Exactness
import NodeGraph.Proofs.Catalog.Refusal
import NodeGraph.Proofs.Execution.Conformance
import NodeGraph.Proofs.Schema.Validity
import NodeGraph.Proofs.Sql.Binding
import NodeGraph.Proofs.Catalog.History
import NodeGraph.Proofs.Sql.Linking
import NodeGraph.Proofs.Execution.Calls
import NodeGraph.Proofs.Execution.Faults
import NodeGraph.Proofs.Execution.Rejection
import NodeGraph.Proofs.Schema.Renaming
import NodeGraph.Proofs.Catalog.RegistrationOrder
import NodeGraph.Proofs.Execution.Shapes
import NodeGraph.Proofs.Store.Tokens
import NodeGraph.Proofs.Store.Writing
import NodeGraph.Proofs.Store.Reading
import NodeGraph.Proofs.Store.Planning
import NodeGraph.Proofs.Store.Returning
import NodeGraph.Proofs.Store.Meaning
import NodeGraph.Proofs.Store.Selections
import NodeGraph.Proofs.Store.Precedence
import NodeGraph.Proofs.Store.Joining
import NodeGraph.Proofs.Execution.Documents
import NodeGraph.Proofs.Execution.Substitution
import NodeGraph.Proofs.Execution.Aliases
import NodeGraph.Proofs.Argument.Refusals
import NodeGraph.Proofs.Execution.Cancellation
import NodeGraph.Proofs.Text.ByteOrder
import NodeGraph.Proofs.Schema.Documents
import NodeGraph.Proofs.Catalog.Definitions
import NodeGraph.Proofs.Argument.FilterLanguage
import NodeGraph.Proofs.Execution.Phases
import NodeGraph.Proofs.Argument.AfterRefusal
import NodeGraph.Proofs.Argument.Reordering
import NodeGraph.Proofs.Schema.Lawful
import NodeGraph.Proofs.Sql.Histories
import NodeGraph.Proofs.Sql.SelectLists
import NodeGraph.Proofs.Sql.Sending
import NodeGraph.Proofs.Row.Records
import NodeGraph.Proofs.Execution.Operations
import NodeGraph.Proofs.Store.TableWrites
import NodeGraph.Proofs.Catalog.References
import NodeGraph.Proofs.Catalog.BuildOrder
