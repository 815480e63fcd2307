import Instrumentation.Engine.Interception

namespace Instrumentation

/-! What an engine can be asked to do. -/

structure EngineMethods (Host : Type) where
  createMetric : String → Program Host Metric
  isEnabled : Program Host Bool
  stringProperty : String → Program Host (Except Error (Option String))
  booleanProperty : String → Program Host (Except Error Bool)
  doubleProperty : String → Program Host (Except Error (Option Binary64))
  executeRootSpan : Metric → Detail → Interception Host
  executeSpan : Metric → Detail → Interception Host
  recordMetricData : Metric → Interception Host
  putTraceAttribute : String → String → Program Host (Except Error Unit)
  rootSpanDetail : Program Host (Except Error (Option Detail))

end Instrumentation
