import Instrumentation.Scenario.Commands

namespace Instrumentation.Scenario

/-! Running scenarios. Pieces of work nest steps in steps, and factories of a
scenario run steps of their own when they are called. -/

variable {Value : Type}

/-! ### Steps that may call a factory -/

def countsOf (calls : Dict Nat) (plugin : PluginId) : Nat :=
  (calls.find? plugin.text).getD 0

def raceResult : Except Error Unit → String
  | .ok () => "ok"
  | .error error => error.kind.name

/-- Binds on several threads. One of them wins, whichever order they take. -/
def raceBind (factories : Factories (Session Value)) (services : Key PluginServices)
    (factory : Key Factory) : Nat → Play Value (List String)
  | 0 => return []
  | threads + 1 => do
      let result ← onNewThread (PluginServices.bind services (factories factory))
      let results ← raceBind factories services factory threads
      return raceResult result :: results

def performFactoryCommand (factories : Factories (Session Value)) :
    FactoryCommand → Play Value (Answer Value)
  | .create name factory plugin => withNamed Session.factories factory fun factory => do
      match PluginId.ofText plugin with
      | .error error => return .done (.error error)
      | .ok plugin =>
          match ← factories factory plugin with
          | .error error => return .done (.error error)
          | .ok engine =>
              nameEngine name engine
              return .done (.ok ())
  | .bind services factory =>
      withNamed Session.services services fun services =>
        withNamed Session.factories factory fun factory => do
          return .done (← PluginServices.bind services (factories factory))
  | .get registry id handle => withNamed Session.registries registry fun registry => do
      match ← Registry.getServices factories registry id with
      | .error error => return .services (.error error)
      | .ok services =>
          let report := reportServices (← get) services
          if let some handle := handle then nameServices handle services
          return .services (.ok report)
  | .start registry factory =>
      withNamed Session.registries registry fun registry =>
        withNamed Session.factories factory fun factory => do
          return .done (← Registry.start factories registry factory)
  | .raceBind services factory threads =>
      withNamed Session.services services fun services =>
        withNamed Session.factories factory fun factory => do
          let results ← raceBind factories services factory threads
          return .attempts (results.mergeSort fun left right => left ≤ right)

/-! ### Pieces of work -/

def WorkEnd.perform : WorkEnd Value → Play Value (Except String Value)
  | returns value => return .ok value
  | fails message => return .error message
  | panics payload => throw payload

def counted (work : Play Value (Except String Value)) :
    Play Value (Key Nat × Play Value (Except String Value)) := do
  let key := (← get).host.runs.nextKey
  updateSession fun session => { session with runs := session.runs.add 0 }
  return (key, do
    updateSession fun session => { session with runs := session.runs.modify key (· + 1) }
    work)

def runsOf (key : Key Nat) : Play Value Nat :=
  return (← get).host.runs.get key

/-- A call and how often its work ran. Nothing falls back on an engine that is called
directly: if it does not hand back a value, there is none. -/
def performCall (call : Call) (target : Target) (metric : Metric)
    (work : Play Value (Except String Value)) : Play Value (Answer Value) := do
  let (key, work) ← counted work
  match target with
  | .services services =>
      let result ← call.onServices services metric id work
      return .called (some result) (← runsOf key)
  | .engine engine =>
      let interception := call.onEngine engine.methods metric
      let slots ← interception.drive (Outcome.ofResult id) work
      return .called slots.value (← runsOf key)

def timed (metric : Metric) (stops : Bool) (work : Play Value (Except String Value)) :
    Play Value (Answer Value) := do
  let timer ← metric.start
  match ← attempt work with
  | .error payload =>
      timer.drop
      throw payload
  | .ok result =>
      if stops then
        let (elapsed, stopped) ← timer.stop
        stopped.drop
        return .timed result (some elapsed)
      else
        timer.drop
        return .timed result none

def Frame.perform (frame : Frame) (work : Play Value (Except String Value)) :
    Play Value (Answer Value) :=
  match frame with
  | call kind target metric =>
      withTarget target fun target =>
        withNamed Session.metrics metric fun metric => performCall kind target metric work
  | timed metric stops =>
      withNamed Session.metrics metric fun metric => Scenario.timed metric stops work
  | catching => do
      match ← attempt work with
      | .ok result => return .worked result
      | .error payload => return .caught payload
  | onThread => return .worked (← onNewThread work)

/-! ### Steps -/

def failureOf (propagates : Bool) (answer : Answer Value) : Option String :=
  if propagates then answer.failure? else none

mutual

def Step.run (factories : Factories (Session Value)) (path : String) :
    Step Value → Play Value (Option String)
  | .command label propagates command =>
      failureOf propagates <$> noted path label (performCommand command)
  | .factoryCommand label propagates command =>
      failureOf propagates <$> noted path label (performFactoryCommand factories command)
  | .work label propagates frame steps ending =>
      failureOf propagates <$> noted path label (frame.perform do
        match ← runSteps factories path 0 steps with
        | some failure => return .error failure
        | none => ending.perform)
  | .scriptedFactory label name rules =>
      failureOf false <$> noted path label do
        nameFactory name (.scripted path name (.ofList rules) .empty)
        return .nothing

def runSteps (factories : Factories (Session Value)) (path : String) (index : Nat) :
    List (Step Value) → Play Value (Option String)
  | [] => return none
  | step :: rest => do
      match ← step.run factories (path ++ "." ++ toString index) with
      | some failure => return some failure
      | none => runSteps factories path (index + 1) rest

end

/-! ### Factories -/

def noRule : Payload :=
  .fixed "no rule for this plugin"

def nestedTooDeeply : Payload :=
  .fixed "factories nested too deeply"

def RuleEnd.perform (factories : Factories (Session Value)) (plugin : PluginId) :
    RuleEnd → Play Value (Except Error Engine)
  | panics payload => throw payload
  | fails error => return .error error
  | delegates factory => do
      match (← get).host.factories.find? factory with
      | some factory => factories factory plugin
      | none => throw noRule
  | hands engine => do
      match (← get).host.engines.find? engine with
      | some engine => return .ok engine
      | none => throw noRule

/-- The rule for the next call for a plugin: the last one serves all calls after it.
Plugins that have no rules of their own share those of the star. -/
def nextRule (rules : Dict (List (Rule Value))) (plugin : PluginId) (call : Nat) :
    Option (Rule Value) :=
  let own := (rules.find? plugin.text).or (rules.find? "*")
  own.bind fun rules => rules[min call (rules.length - 1)]?

def createWith (factories : Factories (Session Value)) : Factories (Session Value) :=
  fun factory plugin => do
    match ← makerOf factory with
    | .counting counting =>
        let (result, counted) := counting.create plugin
        setMaker factory (.counting counted)
        return result
    | .collecting collector => return .ok (.view collector plugin)
    | .scripted path name rules calls =>
        let call := countsOf calls plugin
        match nextRule rules plugin call with
        | none => throw noRule
        | some (steps, ending) =>
            setMaker factory
              (.scripted path name rules (calls.insert plugin.text (call + 1)))
            let path :=
              path ++ "/" ++ name ++ ":" ++ plugin.text ++ "#" ++ toString (call + 1)
            let _ ← runSteps factories path 0 steps
            ending.perform factories plugin

def createAt : Nat → Factories (Session Value)
  | 0 => fun _ _ => throw nestedTooDeeply
  | depth + 1 => createWith (createAt depth)

/-! ### Scenarios -/

mutual

def Step.size : Step Value → Nat
  | .command .. | .factoryCommand .. => 1
  | .work _ _ _ steps _ => sizeOfSteps steps + 1
  | .scriptedFactory _ _ rules => sizeOfRules rules + 1

def sizeOfSteps : List (Step Value) → Nat
  | [] => 0
  | step :: rest => step.size + sizeOfSteps rest

def sizeOfRuleList : List (List (Step Value) × RuleEnd) → Nat
  | [] => 0
  | (steps, _) :: rest => sizeOfSteps steps + sizeOfRuleList rest + 1

def sizeOfRules : List (String × List (List (Step Value) × RuleEnd)) → Nat
  | [] => 0
  | (_, rules) :: rest => sizeOfRuleList rules + sizeOfRules rest

end

/-- Performs the steps of a scenario. A panic ends only the step that it unwinds
through, and a failure that ends the list of steps ends the scenario. -/
def runTopLevel (factories : Factories (Session Value)) (index : Nat) :
    List (Step Value) → Play Value Unit
  | [] => return
  | step :: rest => do
      match ← attempt (step.run factories (toString index)) with
      | .ok (some _) => return
      | _ => runTopLevel factories (index + 1) rest

structure Transcript (Value : Type) where
  entries : List (Entry Value)
  events : List Event
  final : FinalReport

/-- Calls of factories nest less deeply than there are pairs of rules and steps, unless
they never end. -/
def depthFor (steps : List (Step Value)) : Nat :=
  64 + sizeOfSteps steps * sizeOfSteps steps

def run (steps : List (Step Value)) : Transcript Value :=
  let world : World (Session Value) := { host := {} }
  let (_, world) := runTopLevel (createAt (depthFor steps)) 0 steps world
  { entries := world.host.log, events := world.events, final := reportFinal world }

def interleave (events : List Event) : Nat → List (Entry Value) → List (Event ⊕ Entry Value)
  | _, [] => events.map .inl
  | told, entry :: rest =>
      let before := events.take (entry.events - told)
      let after := events.drop (entry.events - told)
      before.map .inl ++ .inr entry :: interleave after entry.events rest

def Transcript.interleaved (transcript : Transcript Value) : List (Event ⊕ Entry Value) :=
  interleave transcript.events 0 transcript.entries

end Instrumentation.Scenario
