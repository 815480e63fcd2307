import Instrumentation.Proofs.Collector.Numbering
import Mathlib.Data.List.DropRight
import Mathlib.Data.List.Nodup

namespace Instrumentation.Workers

/-! Which finished traces a collector has. From one drain to the next these are the last
ones that were completed, as many as there is room for; a drain takes them all and begins
anew. So each finished trace is in the collector or was taken by one drain, unless as many
were completed after it, before the next drain, as there is room for. -/

variable {Fault Value : Type}

/-! ## What is done about finished traces -/

inductive Deed where
  | completed (trace : CompletedTrace)
  | drained (traces : List CompletedTrace)

namespace Deed

def trace? : Deed → Option CompletedTrace
  | completed trace => some trace
  | drained _ => none

def taken? : Deed → Option (List CompletedTrace)
  | completed _ => none
  | drained traces => some traces

end Deed

def completions (history : List Deed) : List CompletedTrace :=
  history.filterMap Deed.trace?

def drains (history : List Deed) : List (List CompletedTrace) :=
  history.filterMap Deed.taken?

/-- The traces completed from each drain to the next, and those since the last one. -/
structure Periods where
  past : List (List CompletedTrace) := []
  current : List CompletedTrace := []

namespace Periods

def after (periods : Periods) : Deed → Periods
  | .completed trace => { periods with current := periods.current ++ [trace] }
  | .drained _ => { past := periods.past ++ [periods.current] }

def of (history : List Deed) : Periods :=
  history.foldl after {}

def all (periods : Periods) : List (List CompletedTrace) :=
  periods.past ++ [periods.current]

theorem of_append (history : List Deed) (deed : Deed) :
    of (history ++ [deed]) = (of history).after deed := by
  rw [of, List.foldl_append]
  rfl

theorem flatten_of (history : List Deed) : (of history).all.flatten = completions history := by
  induction history using List.reverseRecOn with
  | nil => rfl
  | append_singleton history deed induction =>
      rw [of_append, completions, List.filterMap_append, ← completions, ← induction]
      cases deed <;> simp [after, all, Deed.trace?]

end Periods

namespace Scene

variable (describe : Fault → String) (readings : Readings) (scene : Scene Fault Value)

def deed? (scene : Scene Fault Value) : Turn → Option Deed
  | .drain => some (.drained scene.collector.drain.1)
  | .of thread => (scene.completes (.of thread)).map .completed

def history (describe : Fault → String) (readings : Readings) :
    Scene Fault Value → List Turn → List Deed
  | _, [] => []
  | scene, turn :: turns =>
      (scene.deed? turn).toList ++ (scene.step describe readings turn).history describe readings turns

theorem history_append (turns : List Turn) (turn : Turn) :
    scene.history describe readings (turns ++ [turn]) =
      scene.history describe readings turns ++
        ((scene.after describe readings turns).deed? turn).toList := by
  induction turns generalizing scene with
  | nil => simp [history, after]
  | cons first turns induction =>
      rw [List.cons_append, history, induction, history, List.append_assoc]
      rfl

end Scene

/-! ## What a push keeps -/

theorem evict_eq_rtake (capacity : Nat) (completed : List CompletedTrace) :
    Collector.evict capacity completed = completed.rtake (capacity - 1) := by
  induction completed with
  | nil => rw [List.rtake_nil]; rfl
  | cons oldest rest induction =>
      rw [Collector.evict]
      split
      · next full =>
          rw [induction, List.rtake, List.rtake]
          have dropped : (oldest :: rest).length - (capacity - 1) =
              (rest.length - (capacity - 1)) + 1 := by
            rw [List.length_cons] at full ⊢
            omega
          rw [dropped, List.drop_succ_cons]
      · next room =>
          have kept : (oldest :: rest).length - (capacity - 1) = 0 := by omega
          rw [List.rtake, kept, List.drop_zero]

theorem rtake_rtake {Item : Type} (items : List Item) {fewer more : Nat} (le : fewer ≤ more) :
    (items.rtake more).rtake fewer = items.rtake fewer := by
  simp only [List.rtake, List.length_drop, List.drop_drop]
  congr 1
  omega

/-- A collector with the last traces of a period has, after a push, the last ones of the
period with that trace. -/
theorem push_completed {collector : Collector} {period : List CompletedTrace}
    (room : collector.config.maxCompletedTraces.toNat ≠ 0)
    (last : collector.completed = period.rtake collector.config.maxCompletedTraces.toNat)
    (trace : CompletedTrace) :
    (collector.push trace).completed =
      (period ++ [trace]).rtake collector.config.maxCompletedTraces.toNat := by
  rcases Nat.exists_eq_succ_of_ne_zero room with ⟨others, capacity⟩
  have evicted : Collector.evict collector.config.maxCompletedTraces.toNat collector.completed =
      period.rtake others := by
    rw [evict_eq_rtake, last, capacity, Nat.succ_sub_one, rtake_rtake _ (Nat.le_succ others)]
  rw [Collector.push, evicted, capacity, List.rtake_concat_succ]

/-! ## Turns -/

section Steps

variable {describe : Fault → String} {thread : ThreadId} (clock : Nat → UInt64)
  (shared : Shared) (worker : Worker Fault Value)

theorem completed_of_touched {collector later : Collector}
    (touched : Touched thread collector later) : later.completed = collector.completed := by
  rcases touched with rfl | ⟨trace, rfl⟩ <;> rfl

theorem completed_leave (frame : Frame Fault Value) (frames : List (Frame Fault Value))
    (ending : Ending Fault Value) (sample : Option Sample) :
    (worker.leave describe clock thread shared frame frames ending sample).1.collector.completed =
      shared.collector.completed := by
  rw [Worker.leave]
  rcases frame.entry with _ | ⟨_ | slot⟩ | _
  · rfl
  · rfl
  · exact completed_of_touched (.leaveSpan _ _ _ _)
  · rfl

theorem completed_enterRoot (plugin : PluginId) (metric : Metric) (detail : Detail)
    (work : Script Fault Value) (rest : Ending Fault Value → Script Fault Value) :
    (worker.enterRoot clock thread shared plugin metric detail work rest).1.collector.completed =
      shared.collector.completed := by
  rw [Worker.enterRoot]
  split
  · rfl
  · next opens => rw [(Collector.openTrace_eq_some opens).2]; rfl

theorem completed_step (goesOn : ∀ kept rest, worker.control ≠ .keeps kept rest) :
    (worker.step describe clock thread shared).1.collector.completed =
      shared.collector.completed := by
  rw [Worker.step]
  cases doing : worker.control with
  | keeps kept rest => exact absurd doing (goesOn kept rest)
  | nests => exact completed_of_touched (.enterSpan _ _ _ _)
  | leaves ending sample =>
      cases worker.frames with
      | nil => rfl
      | cons frame frames => exact completed_leave clock shared worker frame frames ending sample
  | runs script =>
      cases script with
      | waits | asks => rfl
      | puts => exact completed_of_touched (.putAttribute _ _ _)
      | ends ending =>
          cases worker.frames with
          | nil => rfl
          | cons frame frames => cases ending <;> rfl
      | calls plugin metric call work rest =>
          cases call with
          | rootSpan detail =>
              exact completed_enterRoot clock shared worker plugin metric detail work rest
          | span => exact completed_of_touched (.enterSpan _ _ _ _)
          | tryRecord | record => rfl

end Steps

namespace Scene

variable (describe : Fault → String) (readings : Readings) {scene : Scene Fault Value}

theorem completed_step_of (mover : ThreadId) :
    (scene.step describe readings (.of mover)).collector.completed =
      match scene.completes (.of mover) with
      | none => scene.collector.completed
      | some trace => (scene.collector.push trace).completed := by
  have stepped : (scene.step describe readings (.of mover)).collector =
      ((scene.workers mover).step describe (readings mover) mover scene.shared).1.collector := rfl
  rw [stepped, completes]
  cases doing : (scene.workers mover).control with
  | keeps kept rest => rw [Worker.step, doing]; rfl
  | runs | nests | leaves =>
      exact completed_step (readings mover) scene.shared (scene.workers mover) (by simp [doing])

theorem config_step (turn : Turn) :
    (scene.step describe readings turn).collector.config = scene.collector.config :=
  scene.config_after describe readings [turn]

structure Retains (scene : Scene Fault Value) (capacity : Nat) (history : List Deed) : Prop where
  room : scene.collector.config.maxCompletedTraces.toNat = capacity
  completed : scene.collector.completed = (Periods.of history).current.rtake capacity
  drained : drains history = (Periods.of history).past.map (·.rtake capacity)

namespace Retains

variable {capacity : Nat} {history : List Deed}

theorem unchanged (retains : scene.Retains capacity history) {later : Scene Fault Value}
    (config : later.collector.config = scene.collector.config)
    (completed : later.collector.completed = scene.collector.completed) :
    later.Retains capacity history where
  room := config ▸ retains.room
  completed := completed.trans retains.completed
  drained := retains.drained

theorem step (retains : scene.Retains capacity history) (positive : capacity ≠ 0) (turn : Turn) :
    (scene.step describe readings turn).Retains capacity
      (history ++ (scene.deed? turn).toList) := by
  have config := scene.config_step describe readings turn
  cases turn with
  | drain =>
      rw [deed?, Option.toList_some]
      refine ⟨config ▸ retains.room, ?_, ?_⟩
      · rw [Periods.of_append, Periods.after, List.rtake_nil]
        rfl
      · -- What is drained are the last traces of the period that ends.
        rw [Periods.of_append, Periods.after, drains, List.filterMap_append, ← drains,
          retains.drained, List.map_append, List.map_singleton, ← retains.completed]
        rfl
  | of mover =>
      have completed := scene.completed_step_of describe readings mover
      cases completes : scene.completes (.of mover) with
      | none =>
          rw [completes] at completed
          rw [deed?, completes, Option.map_none, Option.toList_none, List.append_nil]
          exact retains.unchanged config completed
      | some trace =>
          rw [completes] at completed
          rw [deed?, completes, Option.map_some, Option.toList_some]
          refine ⟨config ▸ retains.room, ?_, ?_⟩
          · have last := retains.completed
            rw [← retains.room] at positive last ⊢
            rw [Periods.of_append]
            exact completed.trans (push_completed positive last trace)
          · rw [Periods.of_append, drains, List.filterMap_append, ← drains, retains.drained]
            exact List.append_nil _

theorem after (retains : scene.Retains capacity []) (positive : capacity ≠ 0)
    (turns : List Turn) :
    (scene.after describe readings turns).Retains capacity
      (scene.history describe readings turns) := by
  induction turns using List.reverseRecOn with
  | nil => exact retains
  | append_singleton turns turn induction =>
      rw [after_append, history_append]
      exact induction.step describe readings positive turn

/-- What the drains returned, and what is left, are the last traces of each period. -/
theorem kept (retains : scene.Retains capacity history) :
    drains history ++ [scene.collector.completed] =
      (Periods.of history).all.map (·.rtake capacity) := by
  rw [retains.drained, retains.completed, Periods.all, List.map_append, List.map_singleton]

end Retains

theorem retains_opening (config : EngineConfig) (clock : Key Clock) (stats : Table MetricStats)
    (traces : Nat) (scripts : ThreadId → Script Fault Value) :
    (opening { collector := { config, clock }, stats, traces } scripts).Retains
      config.maxCompletedTraces.toNat [] where
  room := rfl
  completed := (List.rtake_nil _).symm
  drained := rfl

theorem numbered_after {shared : Shared} (scripts : ThreadId → Script Fault Value)
    (untraced : ∀ thread, shared.collector.activeOn thread = none) (turns : List Turn) :
    ((opening shared scripts).after describe readings turns).Numbered
      (completions ((opening shared scripts).history describe readings turns)) := by
  induction turns using List.reverseRecOn with
  | nil => exact numbered_opening scripts untraced
  | append_singleton turns turn induction =>
      rw [after_append, history_append, completions, List.filterMap_append, ← completions]
      have stepped := Numbered.step describe readings induction turn
      cases turn with
      | drain => exact stepped
      | of mover =>
          rw [deed?]
          cases completes : ((opening shared scripts).after describe readings turns).completes
              (.of mover) with
          | none => rw [completes] at stepped; exact stepped
          | some trace => rw [completes] at stepped; exact stepped

end Scene

theorem new_eq_ok {config : EngineConfig} {clock : Key Clock} {collector : Collector}
    (accepted : Collector.new config clock = .ok collector) :
    config.maxCompletedTraces.toNat ≠ 0 ∧ collector = { config, clock } := by
  rw [Collector.new, EngineConfig.validate] at accepted
  split at accepted
  · cases accepted
  · next positive =>
      split at accepted
      · cases accepted
      · cases accepted
        exact ⟨fun none => positive (UInt64.toNat.inj none), rfl⟩

/-! ## What becomes of each trace -/

theorem mem_rtake_iff {Item : Type} {before later : List Item} {item : Item} (capacity : Nat)
    (last : item ∉ later) :
    item ∈ (before ++ item :: later).rtake capacity ↔ later.length < capacity := by
  rw [List.rtake, List.length_append, List.length_cons]
  constructor
  · intro member
    by_contra full
    have dropped : before.length + (later.length + 1) - capacity =
        before.length + ((later.length - capacity) + 1) := by omega
    rw [dropped, List.drop_length_add_append, List.drop_succ_cons] at member
    exact last (List.mem_of_mem_drop member)
  · intro room
    rw [List.drop_append_of_le_length (by omega)]
    exact List.mem_append_right _ List.mem_cons_self

theorem place_unique {Item : Type} {lists : List (List Item)} (distinct : lists.flatten.Nodup)
    {place other : Nat} {here there : List Item} {item : Item}
    (isHere : lists[place]? = some here) (isThere : lists[other]? = some there)
    (inHere : item ∈ here) (inThere : item ∈ there) : other = place := by
  have apart := List.pairwise_iff_getElem.1 (List.nodup_flatten.1 distinct).2
  have ⟨hereLt, hereAt⟩ := List.getElem?_eq_some_iff.1 isHere
  have ⟨thereLt, thereAt⟩ := List.getElem?_eq_some_iff.1 isThere
  rcases Nat.lt_trichotomy other place with before | same | behind
  · exact absurd (hereAt ▸ inHere) (apart other place thereLt hereLt before (thereAt ▸ inThere))
  · exact same
  · exact absurd (thereAt ▸ inThere) (apart place other hereLt thereLt behind (hereAt ▸ inHere))

/-- Where the last ones of each of some lists were kept, an item was kept in its own list
only, and there just if it was one of the last ones. -/
theorem mem_kept_iff {Item : Type} {lists : List (List Item)} (distinct : lists.flatten.Nodup)
    (capacity : Nat) {place other : Nat} {before later kept : List Item} {item : Item}
    (isHere : lists[place]? = some (before ++ item :: later))
    (isKept : (lists.map (·.rtake capacity))[other]? = some kept) :
    item ∈ kept ↔ other = place ∧ later.length < capacity := by
  rw [List.getElem?_map, Option.map_eq_some_iff] at isKept
  rcases isKept with ⟨there, isThere, rfl⟩
  have apart : (before ++ item :: later).Nodup :=
    (List.nodup_flatten.1 distinct).1 _ (List.mem_of_getElem? isHere)
  have last : item ∉ later := (List.nodup_cons.1 (List.nodup_append.1 apart).2.1).1
  constructor
  · intro member
    obtain rfl : other = place :=
      place_unique distinct isHere isThere (by simp) (List.mem_of_mem_drop member)
    rw [isHere] at isThere
    cases isThere
    exact ⟨rfl, (mem_rtake_iff capacity last).1 member⟩
  · rintro ⟨rfl, room⟩
    rw [isHere] at isThere
    cases isThere
    exact (mem_rtake_iff capacity last).2 room

/-- A collector has the last traces that were completed since the last drain, as many as
there is room for, and each drain takes what it has. A trace is in no two of what the
drains took and what is left, and it is in none just if as many were completed after it,
before the next drain, as there is room for. -/
theorem completed_traces_are_last_of_period {config : EngineConfig} {clock : Key Clock}
    {collector : Collector} (accepted : Collector.new config clock = .ok collector)
    (describe : Fault → String) (readings : Readings) (stats : Table MetricStats) (traces : Nat)
    (scripts : ThreadId → Script Fault Value) (turns : List Turn) :
    let opening := Scene.opening { collector, stats, traces } scripts
    let history := opening.history describe readings turns
    let periods := Periods.of history
    let now := (opening.after describe readings turns).collector
    let kept := drains history ++ [now.completed]
    let capacity := config.maxCompletedTraces.toNat
    now.completed = periods.current.rtake capacity ∧
      now.drain = (now.completed, { now with completed := [] }) ∧
      kept = periods.all.map (·.rtake capacity) ∧
      periods.all.flatten = completions history ∧
      ((completions history).map CompletedTrace.number).Nodup ∧
      (∀ traces ∈ kept, traces.length ≤ capacity) ∧
      ∀ (place : Nat) before trace later,
        periods.all[place]? = some (before ++ trace :: later) →
        ∀ (other : Nat) traces, kept[other]? = some traces →
          (trace ∈ traces ↔ other = place ∧ later.length < capacity) := by
  intro opening history periods now kept capacity
  have ⟨positive, new⟩ := new_eq_ok accepted
  subst new
  have retains : (opening.after describe readings turns).Retains capacity history :=
    (Scene.retains_opening config clock stats traces scripts).after describe readings positive turns
  have keeps : kept = periods.all.map (·.rtake capacity) := retains.kept
  have distinct : ((completions history).map CompletedTrace.number).Nodup :=
    (Scene.numbered_after describe readings scripts (fun _ => rfl) turns).distinct
  refine ⟨retains.completed, rfl, keeps, Periods.flatten_of history, distinct, ?_, ?_⟩
  · intro traces member
    rw [keeps, List.mem_map] at member
    rcases member with ⟨period, -, rfl⟩
    rw [List.rtake, List.length_drop]
    omega
  · intro place before trace later isHere other traces isKept
    have apart : periods.all.flatten.Nodup := by
      rw [Periods.flatten_of]
      exact distinct.of_map
    exact mem_kept_iff apart capacity isHere (keeps ▸ isKept)

def roomForOne : EngineConfig := { maxCompletedTraces := 1 }

def drainedVisits : List Turn :=
  List.replicate 6 (.of ⟨0⟩) ++ [.of ⟨1⟩, .drain] ++ List.replicate 5 (.of ⟨1⟩) ++
    List.replicate 6 (.of ⟨2⟩)

def numberedVisit (number : Nat) (user : String) : CompletedTrace :=
  { visitOf user with number }

/-- Where there is room for one trace, what was open at a drain is kept until the next
trace is completed, and nobody has it then. -/
theorem next_visit_evicts_visit :
    let opening := Scene.opening { collector := { config := roomForOne, clock := ⟨0⟩ } } visits
    let history := opening.history (fun _ => "") ticking drainedVisits
    let now := (opening.after (fun _ => "") ticking drainedVisits).collector
    drains history = [[numberedVisit 0 "first"]] ∧
      now.completed = [numberedVisit 2 "second"] ∧
      ∀ (other : Nat) traces, (drains history ++ [now.completed])[other]? = some traces →
        numberedVisit 1 "second" ∉ traces := by
  intro opening history now
  have ⟨_, _, _, _, _, _, found⟩ := completed_traces_are_last_of_period
    (show Collector.new roomForOne ⟨0⟩ = .ok { config := roomForOne, clock := ⟨0⟩ } from rfl)
    (fun _ => "") ticking {} 0 visits drainedVisits
  have periods : (Periods.of history).all =
      [[numberedVisit 0 "first"], [numberedVisit 1 "second", numberedVisit 2 "second"]] := by
    decide +kernel
  refine ⟨by decide +kernel, by decide +kernel, fun other traces isKept member => ?_⟩
  have inPeriod := found 1 [] (numberedVisit 1 "second") [numberedVisit 2 "second"]
    (by rw [periods]; rfl) other traces isKept
  exact absurd (inPeriod.1 member).2 (Nat.lt_irrefl 1)

end Instrumentation.Workers
