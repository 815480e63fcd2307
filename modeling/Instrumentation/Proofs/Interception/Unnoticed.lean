import Instrumentation.Proofs.Collector.Assembly
import Instrumentation.Proofs.Registry.Orderly

namespace Instrumentation

/-! Instrumentation goes unnoticed. A program whose calls go through services, and that
asks no engine anything, does the same whether the services are bound or not, whatever
they are bound to and whenever they come to be bound: it does what it would do if there
were no services at all. -/

variable {Effect Reply State Fault Value : Type}

/-! ## Callers -/

/-- What the library never sees: the state that a program has for itself, and its effects
so far. -/
structure Caller (Effect State : Type) where
  state : State
  effects : List Effect := []

abbrev Responder (Effect Reply State : Type) := Effect → State → Reply × State

def Caller.after (caller : Caller Effect State) (effect : Effect) (state : State) :
    Caller Effect State where
  state
  effects := caller.effects ++ [effect]

/-- A program sees the answers to its effects and how each of its calls ended; it may go
on with the result, pass a panic on or catch it. -/
inductive CallerTree (Effect Reply Fault Value : Type) where
  | ends (ending : Except Payload (Except Fault Value))
  | acts (effect : Effect) (rest : Reply → CallerTree Effect Reply Fault Value)
  | calls (services : Key PluginServices) (call : Call)
      (work : CallerTree Effect Reply Fault Value)
      (rest : Except Payload (Except Fault Value) → CallerTree Effect Reply Fault Value)

/-- What the program does where nothing is instrumented: each call is its work. -/
def CallerTree.alone (respond : Responder Effect Reply State) :
    CallerTree Effect Reply Fault Value → Caller Effect State →
      Except Payload (Except Fault Value) × Caller Effect State
  | ends ending, caller => (ending, caller)
  | acts effect rest, caller =>
      let (reply, state) := respond effect caller.state
      (rest reply).alone respond (caller.after effect state)
  | calls _ _ work rest, caller =>
      let (ending, caller) := work.alone respond caller
      (rest ending).alone respond caller

namespace CallerTree

variable (respond : Responder Effect Reply State) (caller : Caller Effect State)

theorem alone_acts (effect : Effect) (rest : Reply → CallerTree Effect Reply Fault Value) :
    (acts effect rest).alone respond caller =
      (rest (respond effect caller.state).1).alone respond
        (caller.after effect (respond effect caller.state).2) := rfl

theorem alone_calls (services : Key PluginServices) (call : Call)
    (work : CallerTree Effect Reply Fault Value)
    (rest : Except Payload (Except Fault Value) → CallerTree Effect Reply Fault Value) :
    (calls services call work rest).alone respond caller =
      (rest (work.alone respond caller).1).alone respond (work.alone respond caller).2 := rfl

end CallerTree

/-! ## What else goes on -/

section Background

variable {Host : Type}

def World.KnowsEngines (world : World Host) : Prop :=
  ∀ (key : Key PluginServices) (engine : Engine),
    (world.services.get key).engine = some engine → engine.IsKnown

structure Unnoticed (before after : World Host) : Prop where
  host : after.host = before.host
  known : before.KnowsEngines → after.KnowsEngines

namespace Unnoticed

variable {before between after : World Host}

theorem refl (world : World Host) : Unnoticed world world :=
  ⟨rfl, id⟩

theorem trans (first : Unnoticed before between) (second : Unnoticed between after) :
    Unnoticed before after :=
  ⟨second.host.trans first.host, fun known => second.known (first.known known)⟩

instance : IsPreorder (World Host) Unnoticed where
  refl := refl
  trans _ _ _ := trans

theorem of_undisturbed {collector : Key Collector}
    (kept : Undisturbed collector before after) : Unnoticed before after where
  host := congrArg Surroundings.host kept.surroundings
  known known key engine bound := by
    rw [kept.services] at bound
    exact known key engine bound

theorem of_setServices {key : Key PluginServices} {services : PluginServices}
    (known : before.KnowsEngines → ∀ engine, services.engine = some engine → engine.IsKnown) :
    Unnoticed before (before.setServices key services) where
  host := rfl
  known all other engine bound := by
    by_cases same : other = key
    · subst other
      rw [World.get_setServices] at bound
      exact known all engine bound
    · have unchanged : (before.setServices key services).services.get other =
          before.services.get other := Table.get_put_other _ _ same
      rw [unchanged] at bound
      exact all other engine bound

end Unnoticed

/-- Something else in the process, on whatever thread. It need not return. -/
structure Background (Host : Type) where
  program : Program Host Unit
  unnoticed : Leads Unnoticed (fun _ => True) program

namespace Background

def nothing : Background Host where
  program := pure ()
  unnoticed := .pure trivial

def happens (background : Background Host) : Program Host Unit := do
  let _ ← attempt background.program

variable {create : Creation Host}

theorem unnoticed_bind
    (creates : ∀ plugin, Leads Unnoticed (Makes Engine.IsKnown) (create plugin))
    (key : Key PluginServices) :
    Leads Unnoticed (fun _ => True) (PluginServices.bind key create) := by
  intro world
  refine ⟨trivial, ?_⟩
  cases claims : (world.services.get key).claim with
  | none =>
      rw [PluginServices.bind_of_refused claims]
      exact ⟨rfl, id⟩
  | some claimed =>
      rw [PluginServices.bind_of_claimed claims rfl]
      have taken : Unnoticed world (world.setServices key claimed) := by
        rcases PluginServices.claim_eq_some claims with ⟨_, rfl⟩
        exact .of_setServices fun known engine bound => known key engine bound
      have ⟨makes, led⟩ := creates claimed.plugin (world.setServices key claimed)
      have made := taken.trans led
      rcases creation : create claimed.plugin (world.setServices key claimed)
        with ⟨payload | cause | engine, left⟩ <;> rw [creation] at makes made
      · exact made.trans (.of_setServices fun known engine bound => known key engine bound)
      · have released : Unnoticed left (left.setServices key (left.services.get key).release) :=
          .of_setServices fun known engine bound => known key engine bound
        exact made.trans (released.trans ⟨rfl, id⟩)
      · simp only [PluginServices.afterCreation]
        cases publishes : (left.services.get key).publish engine with
        | none =>
            exact made.trans (.of_setServices fun known engine bound => known key engine bound)
        | some published =>
            rcases PluginServices.publish_eq_some publishes with ⟨_, rfl⟩
            have stored : Unnoticed left
                (left.setServices key { left.services.get key with engine := some engine }) := by
              apply Unnoticed.of_setServices
              intro _ other bound
              cases bound
              exact makes engine rfl
            exact made.trans (stored.trans ⟨rfl, id⟩)

def binds (key : Key PluginServices) (create : Creation Host)
    (creates : ∀ plugin, Leads Unnoticed (Makes Engine.IsKnown) (create plugin)) :
    Background Host where
  program := do
    let _ ← PluginServices.bind key create
  unnoticed := (unnoticed_bind creates key).andThen (fun _ _ => .pure trivial) fun _ _ => trivial

end Background

end Background

/-! ## Runs -/

inductive Turn where
  | inside
  | behind

/-- What one run does not share with another one: for each place of the program, the
handle that a call there is given and what else goes on before it. -/
abbrev Setting (Host : Type) := List Turn → Metric × Background Host

namespace Setting

variable {Host : Type}

def handle (setting : Setting Host) : Metric :=
  (setting []).1

def passes (setting : Setting Host) : Program Host Unit :=
  (setting []).2.happens

def within (setting : Setting Host) (turn : Turn) : Setting Host :=
  fun turns => setting (turn :: turns)

theorem passes_apply (setting : Setting Host) (world : World Host) :
    setting.passes world = (.ok (), ((setting []).2.program world).2) := rfl

theorem unnoticed (setting : Setting Host) (world : World Host) :
    Unnoticed world ((setting []).2.program world).2 :=
  ((setting []).2.unnoticed world).2

end Setting

namespace CallerTree

variable [HostEngines (Caller Effect State)] (respond : Responder Effect Reply State)
  (describe : Fault → String)

def perform (effect : Effect) : Program (Caller Effect State) Reply := do
  let caller := (← get).host
  let (reply, state) := respond effect caller.state
  modify fun world => { world with host := caller.after effect state }
  return reply

def run : CallerTree Effect Reply Fault Value → Setting (Caller Effect State) →
    Program (Caller Effect State) (Except Fault Value)
  | ends ending, setting => do
      setting.passes
      finish ending
  | acts effect rest, setting => do
      setting.passes
      let reply ← perform respond effect
      (rest reply).run (setting.within .behind)
  | calls services call work rest, setting => do
      setting.passes
      let ending ← attempt
        (call.onServices services setting.handle describe (work.run (setting.within .inside)))
      (rest ending).run (setting.within .behind)

structure Alike (alone : Except Payload (Except Fault Value) × Caller Effect State)
    (run : Except Payload (Except Fault Value) × World (Caller Effect State)) : Prop where
  ending : run.1 = alone.1
  caller : run.2.host = alone.2
  known : run.2.KnowsEngines

variable {respond describe} {world : World (Caller Effect State)}

omit [HostEngines (Caller Effect State)] in
theorem perform_apply (effect : Effect) :
    perform respond effect world =
      (.ok (respond effect world.host.state).1,
        { world with host := world.host.after effect (respond effect world.host.state).2 }) :=
  rfl

/-- A call through services comes to what its work comes to. -/
theorem onServices_alike (known : world.KnowsEngines) (services : Key PluginServices)
    (call : Call) (metric : Metric)
    (work : Program (Caller Effect State) (Except Fault Value))
    {alone : Except Payload (Except Fault Value) × Caller Effect State}
    (worked : ∀ entered : World (Caller Effect State), entered.host = world.host →
      entered.KnowsEngines → Alike alone (work entered)) :
    Alike alone (call.onServices services metric describe work world) := by
  rw [Call.onServices_apply]
  cases bound : (world.services.get services).engine with
  | none => exact worked world rfl known
  | some engine =>
      -- Any collector will do that is not the one of the engine itself.
      let other : Key Collector :=
        match engine with
        | .view collector _ => ⟨collector.index + 1⟩
        | .recorder _ | .host _ => ⟨0⟩
      have apart : ∀ plugin, engine = .view other plugin → call.detail? = none := by
        rintro plugin same
        cases engine with
        | view collector _ =>
            have index : collector.index = collector.index + 1 :=
              congrArg Key.index (Engine.view.inj same).1
            omega
        | recorder => cases same
        | host => cases same
      have passes : (call.onEngine (engine.methods : EngineMethods (Caller Effect State))
          metric).PassesBy other :=
        Call.onEngine_passesBy (known services engine bound) apart
      rcases runIntercepted_of_passesBy passes (call.classify describe) work world
        with ⟨entered, later, before, behind, same⟩
      have entering := Unnoticed.of_undisturbed before
      have leaving := Unnoticed.of_undisturbed behind
      have inner := worked entered entering.host (entering.known known)
      simp only [same]
      exact ⟨inner.ending, leaving.host.trans inner.caller, leaving.known inner.known⟩

theorem run_alike (tree : CallerTree Effect Reply Fault Value)
    (setting : Setting (Caller Effect State)) {caller : Caller Effect State}
    (starts : world.host = caller) (known : world.KnowsEngines) :
    Alike (tree.alone respond caller) (tree.run respond describe setting world) := by
  induction tree generalizing setting world caller with
  | ends ending =>
      have passed := setting.unnoticed world
      exact ⟨rfl, passed.host.trans starts, passed.known known⟩
  | acts effect rest induction =>
      have passed := setting.unnoticed world
      rw [run, Program.bind_of_ok (setting.passes_apply world),
        Program.bind_of_ok (perform_apply effect), alone_acts, passed.host, starts]
      exact induction _ (setting.within .behind) rfl (passed.known known)
  | calls services call work rest workInduction restInduction =>
      have passed := setting.unnoticed world
      have called : Alike (work.alone respond caller)
          (call.onServices services setting.handle describe
            (work.run respond describe (setting.within .inside))
            ((setting []).2.program world).2) := by
        apply onServices_alike (passed.known known)
        intro entered same knows
        exact workInduction (setting.within .inside) (same.trans (passed.host.trans starts)) knows
      rw [run, Program.bind_of_ok (setting.passes_apply world),
        Program.bind_of_ok (Program.attempt_apply _ _), alone_calls, called.ending]
      exact restInduction _ (setting.within .behind) called.caller called.known

end CallerTree

/-! ## Main statement -/

/-- Two runs of a program that start from the same state of its own end in the same way,
with the same effects, and leave it in the same state: that of the program alone. -/
theorem instrumentation_goes_unnoticed [HostEngines (Caller Effect State)]
    (respond : Responder Effect Reply State) (describe : Fault → String)
    (tree : CallerTree Effect Reply Fault Value)
    (setting otherSetting : Setting (Caller Effect State))
    {world other : World (Caller Effect State)} (sameCaller : world.host = other.host)
    (known : world.KnowsEngines) (otherKnown : other.KnowsEngines) :
    let run := tree.run respond describe setting world
    let otherRun := tree.run respond describe otherSetting other
    run.1 = otherRun.1 ∧ run.2.host.effects = otherRun.2.host.effects ∧
      run.2.host.state = otherRun.2.host.state ∧
      (run.1, run.2.host) = tree.alone respond world.host := by
  intro run otherRun
  have one : CallerTree.Alike _ run := tree.run_alike setting rfl known
  have two : CallerTree.Alike _ otherRun :=
    tree.run_alike otherSetting sameCaller.symm otherKnown
  refine ⟨one.ending.trans two.ending.symm, ?_, ?_, ?_⟩
  · rw [one.caller, two.caller]
  · rw [one.caller, two.caller]
  · rw [one.ending, one.caller]

instance : HostEngines (Caller String Nat) :=
  Probe.hostEngines (Caller String Nat)

def shopping : CallerTree String Nat String Nat :=
  .calls ⟨0⟩ (.rootSpan { description := "page" })
    (.acts "open" fun _ =>
      .calls ⟨1⟩ (.span { description := "rows" })
        (.acts "query" fun _ => .ends (.error (.text "lost")))
        fun | .ok result => .ends (.ok result) | .error _ => .ends (.ok (.error "no rows")))
    fun ending => .acts "close" fun _ => .ends ending

def shoppingWorld (view skipping : Option Engine) : World (Caller String Nat) :=
  let services (engine : Option Engine) : PluginServices :=
    { plugin := default, clock := ⟨0⟩, binding := engine.isSome, engine }
  { clocks := ⟨[⟨5⟩]⟩, collectors := ⟨[default]⟩
    recorders := ⟨[{ clock := ⟨0⟩, skipsProceed := true }]⟩
    services := ⟨[services view, services skipping]⟩, host := ⟨7, []⟩ }

def bindingWithin : Setting (Caller String Nat)
  | [.inside] =>
      (⟨"request", false, ⟨0⟩, ⟨0⟩⟩, .binds ⟨1⟩ (fun _ => pure (.ok (.recorder ⟨0⟩)))
        fun _ => .pure fun _ made => by cases made; trivial)
  | _ => (⟨"request", false, ⟨0⟩, ⟨0⟩⟩, .nothing)

theorem knowsEngines_shoppingWorld {view skipping : Option Engine}
    (views : ∀ engine ∈ view, engine.IsKnown) (skips : ∀ engine ∈ skipping, engine.IsKnown) :
    (shoppingWorld view skipping).KnowsEngines := by
  intro key engine bound
  rcases key with ⟨_ | _ | index⟩
  · exact views engine bound
  · exact skips engine bound
  · cases bound

/-- A panic that the program catches, traced and skipped by the engines of one run, and
in another run without an engine at first. -/
theorem shopping_goes_unnoticed :
    let traced := shopping.run (fun _ count => (count, count + 1)) id
      (fun _ => (⟨"request", false, ⟨0⟩, ⟨0⟩⟩, .nothing))
      (shoppingWorld (some (.view ⟨0⟩ default)) (some (.recorder ⟨0⟩)))
    let untraced := shopping.run (fun _ count => (count, count + 1)) id bindingWithin
      (shoppingWorld none none)
    traced.1 = untraced.1 ∧ untraced.1 = .ok (.error "no rows") ∧
      traced.2.host.effects = ["open", "query", "close"] ∧
      untraced.2.host.effects = ["open", "query", "close"] := by
  have tracing : (shoppingWorld (some (.view ⟨0⟩ default)) (some (.recorder ⟨0⟩))).KnowsEngines :=
    knowsEngines_shoppingWorld (by simp [Engine.IsKnown]) (by simp [Engine.IsKnown])
  have unbound : (shoppingWorld none none).KnowsEngines :=
    knowsEngines_shoppingWorld (by simp) (by simp)
  have ⟨sameEnd, sameEffects, _, alone⟩ := instrumentation_goes_unnoticed
    (fun _ count => (count, count + 1)) id shopping
    (fun _ => (⟨"request", false, ⟨0⟩, ⟨0⟩⟩, .nothing)) bindingWithin
    (by rfl) tracing unbound
  have ⟨ended, effects⟩ := Prod.mk.inj alone
  have effects := congrArg Caller.effects effects
  exact ⟨sameEnd, sameEnd.symm.trans ended, effects, sameEffects.symm.trans effects⟩

end Instrumentation
