import Instrumentation.Stats
import Instrumentation.Table

namespace Instrumentation

/-! Handles on aggregates. A standalone handle feeds an aggregate of its own; a
handle of an engine feeds the one that the engine keeps for its name. -/

structure Metric where
  name : String
  engineOwned : Bool
  stats : Key MetricStats
  clock : Key Clock
  deriving Repr

namespace Metric

def sameAs (left right : Metric) : Bool :=
  left.engineOwned == right.engineOwned && decide (left.stats = right.stats)

end Metric

structure MetricTimer where
  metric : Metric
  start : UInt64
  stopped : Bool := false
  deriving Repr

end Instrumentation
