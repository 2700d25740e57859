import Wiring.Expression.Arithmetic
import Wiring.Expression.Comparison
import Wiring.Expression.Timespan
import Wiring.Config.Environment
import Wiring.Config.TomlSource
import Wiring.Document.Decode
import Wiring.Document.View
import Wiring.Toml.Document
import Wiring.Files
import Wiring.Text.Numerals
import Wiring.Logging.Filter
import Wiring.Context.Build
import Wiring.Session.Registries
import Wiring.Main
import Wiring.Proofs.Heap.Cells
import Wiring.Proofs.Heap.Sound
import Wiring.Proofs.Heap.Collapse
import Wiring.Proofs.Heap.Anchored
import Wiring.Proofs.Heap.Handles
import Wiring.Proofs.Host.Journal
import Wiring.Proofs.Host.Deeds
import Wiring.Proofs.Host.Presence
import Wiring.Proofs.Registry.Additions
import Wiring.Proofs.Registry.WriteOnce
import Wiring.Proofs.Host.Registered
import Wiring.Proofs.Host.Loaded
import Wiring.Proofs.Host.Confined
import Wiring.Proofs.Host.Injected
import Wiring.Proofs.Host.Actions
import Wiring.Proofs.Teardown.Sweep
import Wiring.Proofs.Teardown.Forced
import Wiring.Proofs.Teardown.Phases
import Wiring.Proofs.Teardown.Lifetime
import Wiring.Proofs.Context.Passes
import Wiring.Proofs.Context.Held
import Wiring.Proofs.Creation.Depth
import Wiring.Proofs.Context.Consistent
import Wiring.Proofs.Creation.Runs
import Wiring.Proofs.Creation.Determined
import Wiring.Proofs.Creation.Past
import Wiring.Proofs.Creation.Growth
import Wiring.Proofs.Creation.Handing
import Wiring.Proofs.Creation.Furnished
import Wiring.Proofs.Creation.Additions
import Wiring.Proofs.Creation.Failure
import Wiring.Proofs.Context.Operations
import Wiring.Proofs.Context.Custody
import Wiring.Proofs.Context.Reached
import Wiring.Proofs.Creation.Singleton
import Wiring.Proofs.Creation.Closes
import Wiring.Proofs.Creation.Closure
import Wiring.Proofs.Creation.Reach
import Wiring.Proofs.Teardown.Survivors
import Wiring.Proofs.Context.Start
import Wiring.Proofs.Context.Rollback
import Wiring.Proofs.Creation.Trace
import Wiring.Proofs.Context.Life
import Wiring.Proofs.Context.Concerns
import Wiring.Proofs.Creation.Moments
import Wiring.Proofs.Creation.Answered
import Wiring.Proofs.Creation.Ready
import Wiring.Proofs.Context.Smooth
import Wiring.Proofs.Context.Built
import Wiring.Proofs.Decimal.Exact
import Wiring.Proofs.Decimal.Rounding
import Wiring.Proofs.Decimal.Integral
import Wiring.Proofs.Component.Integer
import Wiring.Proofs.Text.Digits
import Wiring.Proofs.Expression.Literals
import Wiring.Proofs.Expression.Chains
import Wiring.Proofs.Expression.Numerals
import Wiring.Proofs.Context.Numbers
import Wiring.Proofs.Config.Interpolation
import Wiring.Proofs.Config.Expansion
import Wiring.Proofs.Config.Priority
import Wiring.Proofs.Config.Flattening
import Wiring.Proofs.Config.Variables
import Wiring.Proofs.Expression.Grammar
import Wiring.Proofs.Expression.Comparisons
import Wiring.Proofs.Context.Constants
import Wiring.Proofs.Context.Timespans
import Wiring.Proofs.Context.Lists
import Wiring.Proofs.Context.Maps
import Wiring.Proofs.Context.Interpolated
import Wiring.Proofs.Creation.Walks
import Wiring.Proofs.Creation.Early
import Wiring.Proofs.Context.Merged
import Wiring.Proofs.Context.Finding
import Wiring.Proofs.Context.Aliases
import Wiring.Proofs.Context.Detached
import Wiring.Proofs.Gateway.Validated
