import Instrumentation.Scenario.Run
import Instrumentation.Scenario.Startup
import Instrumentation.Config.Writer
import Instrumentation.Proofs.Collector.Undisturbed
import Instrumentation.Proofs.Interception.Transparency
import Instrumentation.Proofs.Collector.Underway
import Instrumentation.Proofs.Collector.Assembly
import Instrumentation.Proofs.Binding.Race
import Instrumentation.Proofs.Binding.Governed
import Instrumentation.Proofs.Binding.OneShot
import Instrumentation.Proofs.Binding.Endings
import Instrumentation.Proofs.Binding.Programs
import Instrumentation.Proofs.Registry.Orderly
import Instrumentation.Proofs.Registry.Start
import Instrumentation.Proofs.Registry.Conduct
import Instrumentation.Proofs.Registry.Success
import Instrumentation.Proofs.Interception.Unnoticed
import Instrumentation.Proofs.Binding.Tried
import Instrumentation.Proofs.Registry.Visits
import Instrumentation.Proofs.Registry.Attended
import Instrumentation.Proofs.Registry.Programs
import Instrumentation.Proofs.Collector.Threads
import Instrumentation.Proofs.Collector.Nesting
import Instrumentation.Proofs.Collector.Mirror
import Instrumentation.Proofs.Collector.Programs
import Instrumentation.Proofs.Collector.Isolation
import Instrumentation.Proofs.Collector.Intervals
import Instrumentation.Proofs.Collector.Timings
import Instrumentation.Proofs.Collector.Spacing
import Instrumentation.Proofs.Collector.Sampling
import Instrumentation.Proofs.Collector.Scripts
import Instrumentation.Proofs.Services.Paths
import Instrumentation.Proofs.Metrics.Accounts
import Instrumentation.Proofs.Metrics.Accounting
import Instrumentation.Proofs.Collector.Numbering
import Instrumentation.Proofs.Collector.Retention
import Instrumentation.Proofs.Registry.Callers
import Instrumentation.Proofs.Registry.Instances
import Instrumentation.Proofs.Registry.Stacks
import Instrumentation.Proofs.Registry.Reentry
import Instrumentation.Proofs.Registry.Hearing
import Instrumentation.Proofs.Registry.Sequence
import Instrumentation.Proofs.Metrics.Summaries
import Instrumentation.Proofs.Config.Serving
import Instrumentation.Proofs.Recorder.RootDetail
import Instrumentation.Proofs.Registry.Causes
import Instrumentation.Proofs.Metrics.Counters
import Instrumentation.Proofs.Recorder.Traversals
import Instrumentation.Proofs.Json.Grammar
import Instrumentation.Proofs.Json.Scanning
import Instrumentation.Proofs.Json.Skipping
import Instrumentation.Proofs.Json.Objects
import Instrumentation.Proofs.Config.Fields
import Instrumentation.Proofs.Config.Given
import Instrumentation.Proofs.Config.Serialization
import Instrumentation.Proofs.Text.Cores
import Instrumentation.Proofs.Metrics.Aggregates
import Instrumentation.Proofs.Metrics.Lookups
import Instrumentation.Proofs.Metrics.Scopes
