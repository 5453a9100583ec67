import Entity.Definition.Derivation
import Entity.Lifecycle.Binding
import Entity.Lifecycle.Handlers
import Entity.Lifecycle.Replay
import Entity.Lifecycle.Timetable
import Entity.Main
import Entity.Query.Session
import Entity.Proofs.Lifecycle.Conduct
import Entity.Proofs.Lifecycle.Scripted
import Entity.Proofs.Lifecycle.History
import Entity.Proofs.Entries
import Entity.Proofs.Lifecycle.Holdings
import Entity.Proofs.Lifecycle.Refinement
import Entity.Proofs.Number.Numeral
import Entity.Proofs.Cascade.Filters
import Entity.Proofs.Cascade.Grammar
import Entity.Proofs.Field.Formed
import Entity.Proofs.Definition.Reading
import Entity.Proofs.Serialized.Entry
import Entity.Proofs.Serialized.Raw
import Entity.Proofs.Serialized.Marked
import Entity.Proofs.Serialized.Survival
import Entity.Proofs.Serialized.Classification
import Entity.Proofs.Field.Payload
import Entity.Proofs.Lifecycle.FailedBind
import Entity.Proofs.Cascade.Overlong
import Entity.Proofs.Field.Refusal
import Entity.Proofs.Module.Tables
import Entity.Proofs.Module.Rebuilt
import Entity.Proofs.Schedule.Window
import Entity.Proofs.Serialized.Restored
import Entity.Proofs.Value.CallableFree
import Entity.Proofs.Serialized.Inert
import Entity.Proofs.Lifecycle.Passive
import Entity.Proofs.Serialized.Regained
import Entity.Proofs.Serialized.Alike
import Entity.Proofs.Serialized.Settled
import Entity.Proofs.Serialized.Stable
import Entity.Proofs.Formula.Quotes
import Entity.Proofs.Module.Header
import Entity.Proofs.Module.Blocks
import Entity.Proofs.Formula.Spelling
import Entity.Proofs.Module.Callable
import Entity.Proofs.Formula.Literals
import Entity.Proofs.Formula.Texts
import Entity.Proofs.Formula.Levels
import Entity.Proofs.Formula.Phrases
import Entity.Proofs.Formula.Displays
import Entity.Proofs.Formula.Operations
import Entity.Proofs.Formula.Calls
import Entity.Proofs.Formula.Functions
import Entity.Proofs.Formula.Writing
import Entity.Proofs.Definition.Context
import Entity.Proofs.Lifecycle.Events
import Entity.Proofs.Lifecycle.Filling
import Entity.Proofs.Query.History
import Entity.Proofs.Query.Identities
import Entity.Proofs.Query.References
import Entity.Proofs.Lifecycle.Firing
import Entity.Proofs.Lifecycle.Ticking
import Entity.Proofs.Lifecycle.Atomic
import Entity.Proofs.Lifecycle.Enriching
import Entity.Proofs.Cascade.Operators
import Entity.Proofs.Cascade.Clauses
import Entity.Proofs.Text.Rendering
import Entity.Proofs.Schedule.Items
import Entity.Proofs.Schedule.Expressions
import Entity.Proofs.Query.Lookup
import Entity.Proofs.Query.Laziness
import Entity.Proofs.Formula.Extraction
import Entity.Proofs.Number.Rounding
import Entity.Proofs.Field.Coercion
import Entity.Proofs.Field.Enumeration
import Entity.Proofs.Query.Matching
import Entity.Proofs.Field.Fault
import Entity.Proofs.Definition.Unreadable
import Entity.Proofs.Serialized.Broken
import Entity.Proofs.Command.Loading
