import Instrumentation.Collector.View
import Instrumentation.Engine.Probe
import Instrumentation.Engine.Recorder

namespace Instrumentation

class HostEngines (Host : Type) where
  methods : Key HostEngine → EngineMethods Host

def Engine.methods {Host : Type} [HostEngines Host] : Engine → EngineMethods Host
  | .view collector plugin => CollectorView.methods ⟨collector, plugin⟩
  | .recorder key => Recorder.methods key
  | .host key => HostEngines.methods key

namespace Probe

def engineKey (probe : Key Probe) : Key HostEngine :=
  ⟨probe.index⟩

@[reducible] def hostEngines (Host : Type) : HostEngines Host where
  methods key := methods ⟨key.index⟩

instance : HostEngines Unit := hostEngines Unit

end Probe

end Instrumentation
