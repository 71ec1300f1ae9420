import Stencil.Main
import Stencil.Parameter.Typed
import Stencil.Proofs.Path.Parse
import Stencil.Proofs.Path.Replay
import Stencil.Proofs.Path.Faults
import Stencil.Proofs.Path.Grammar
import Stencil.Proofs.Path.Lexing
import Stencil.Proofs.Path.Places
import Stencil.Proofs.Path.Bracket
import Stencil.Proofs.Path.Language
import Stencil.Proofs.Path.Acceptance
import Stencil.Proofs.Path.Embedding
import Stencil.Proofs.Path.Delivering
import Stencil.Proofs.Path.Prefixes
import Stencil.Proofs.Template.Output
import Stencil.Proofs.Template.Streaming
import Stencil.Proofs.Template.Calls
import Stencil.Proofs.Template.Documents
import Stencil.Proofs.Template.Chains
import Stencil.Proofs.Template.Settling
import Stencil.Proofs.Template.Ending
import Stencil.Proofs.Path.Positions
import Stencil.Proofs.Slot.Grammar
import Stencil.Proofs.Slot.HtmlPath
import Stencil.Proofs.Slot.Words
import Stencil.Proofs.Slot.Lexing
import Stencil.Proofs.Slot.Readings
import Stencil.Proofs.Slot.Meaning
import Stencil.Proofs.Slot.Interpretation
import Stencil.Proofs.Slot.Escaping
import Stencil.Proofs.Slot.References
import Stencil.Proofs.Slot.Fields
import Stencil.Proofs.Template.Literal
import Stencil.Proofs.Template.Script
import Stencil.Proofs.Template.Scoping
import Stencil.Proofs.Template.Observing
import Stencil.Proofs.Template.Mirroring
import Stencil.Proofs.Template.Handling
import Stencil.Proofs.Parameter.Leaves
import Stencil.Proofs.Path.Subtrees
import Stencil.Proofs.Path.Indexing
import Stencil.Proofs.Request.UrlValues
import Stencil.Proofs.Path.Composing
import Stencil.Proofs.Path.Attempts
import Stencil.Proofs.Path.Definite
import Stencil.Proofs.Path.DeepScan
import Stencil.Proofs.Path.Projection
import Stencil.Proofs.Path.Filtering
import Stencil.Proofs.Positions
import Stencil.Proofs.Text.Stripping
import Stencil.Proofs.Slot.Ranges
import Stencil.Proofs.Json.Equality
import Stencil.Proofs.Number.Value
import Stencil.Proofs.Number.Rounding
import Stencil.Proofs.Number.Reading
import Stencil.Proofs.Number.Exponents
import Stencil.Proofs.Number.Shortest
import Stencil.Proofs.Number.Printing
import Stencil.Proofs.Path.Comparing
import Stencil.Proofs.Path.Ordering
import Stencil.Proofs.Request.Saving
import Stencil.Proofs.Parameter.Exporting
import Stencil.Proofs.Slot.Currency
import Stencil.Proofs.Slot.Integers
import Stencil.Proofs.Path.Completion
import Stencil.Proofs.Slot.Tracking
import Stencil.Proofs.Slot.Grouping
import Stencil.Proofs.Regex.Agreement
import Stencil.Proofs.Path.Bounds
