import Instrumentation.Proofs.Metrics.Timers

namespace Instrumentation.Timers

/-! What comes of timers. A timer takes one sample, whoever finishes it: its flag keeps the
destructor of a timer that was stopped from taking another. The sample is the time from its
start to the moment at which it is finished. And so an aggregate comes to the samples that were
taken without a timer and those of the timers that are finished. -/

open Counters

/-! ## One timer -/

theorem Stage.length_underway (stage : Stage) : stage.underway.length ≤ 1 := by
  cases stage with
  | delivering => exact Nat.le_refl 1
  | running | finishing | leaving | gone => exact Nat.zero_le 1

theorem Finisher.underway_leaves (finisher : Finisher) : finisher.leaves.underway = [] := by
  cases finisher <;> rfl

namespace Life

variable {clocks : Table Clock} {life next : Life}

structure IsOpen (life : Life) : Prop where
  stopped : life.timer.stopped = false
  taken : life.taken = []
  answer : life.answer = none

structure IsClosed (life : Life) (sample : Nat) : Prop where
  stopped : life.timer.stopped = true
  taken : life.taken = [sample]
  answer : ∀ answer ∈ life.answer, answer = sample

def Sound (life : Life) : Prop :=
  match life.stage with
  | .running | .finishing _ => life.IsOpen
  | .delivering _ intake => life.IsOpen ∧ intake.steps ≤ 4
  | .leaving => life.IsOpen ∨ ∃ sample, life.IsClosed sample
  | .gone => ∃ sample, life.IsClosed sample

theorem IsOpen.atStage (isOpen : life.IsOpen) (stage : Stage) :
    { life with stage : Life }.IsOpen :=
  ⟨isOpen.stopped, isOpen.taken, isOpen.answer⟩

theorem IsClosed.atStage {sample : Nat} (closed : life.IsClosed sample) (stage : Stage) :
    { life with stage : Life }.IsClosed sample :=
  ⟨closed.stopped, closed.taken, closed.answer⟩

theorem IsOpen.eq (isOpen : life.IsOpen) :
    life =
      { timer := { metric := life.timer.metric, start := life.timer.start }
        stage := life.stage } :=
  match life, isOpen with
  | ⟨⟨_, _, _⟩, _, _, _⟩, ⟨rfl, rfl, rfl⟩ => rfl

theorem sound_started (metric : Metric) (clocks : Table Clock) : (started metric clocks).Sound :=
  ⟨rfl, rfl, rfl⟩

theorem IsOpen.closes (isOpen : life.IsOpen) (finisher : Finisher) (sample : Nat) :
    IsClosed
      { timer := { life.timer with stopped := true }
        stage := finisher.leaves
        taken := life.taken ++ [sample]
        answer := finisher.answer sample } sample where
  stopped := rfl
  taken := congrArg (· ++ [sample]) isOpen.taken
  answer answer told := by
    cases finisher with
    | caller => exact (Option.some.inj told).symm
    | destructor => cases told

theorem Step.sound (step : life.Step clocks next) (sound : life.Sound) : next.Sound := by
  rw [Sound] at sound
  cases step with
  | stops running =>
      rw [running] at sound
      exact sound.atStage _
  | leaves running =>
      rw [running] at sound
      exact .inl (sound.atStage _)
  -- Out of scope it may be open or closed, and the flag says which.
  | finishes leaving unstopped =>
      rw [leaving] at sound
      rcases sound with isOpen | ⟨_, closed⟩
      · exact isOpen.atStage _
      · exact absurd (unstopped.symm.trans closed.stopped) Bool.false_ne_true
  | passes leaving stopped =>
      rw [leaving] at sound
      rcases sound with isOpen | ⟨sample, closed⟩
      · exact absurd (isOpen.stopped.symm.trans stopped) Bool.false_ne_true
      · exact ⟨sample, closed.atStage _⟩
  | reads finisher finishing =>
      rw [finishing] at sound
      exact ⟨sound.atStage _, Nat.zero_le _⟩
  | marks finisher sample delivered =>
      rw [delivered] at sound
      have closed := sound.1.closes finisher sample
      cases finisher with
      | caller => exact .inr ⟨sample, closed⟩
      | destructor => exact ⟨sample, closed⟩

inductive Goes (clocks : Table Clock) (life : Life) : Life → Prop
  | rests : Goes clocks life life
  | steps (next : Life) (step : life.Step clocks next) : Goes clocks life next
  | takesUp (finisher : Finisher) (intake : Intake)
      (delivering : life.stage = .delivering finisher intake) (goesOn : intake.steps < 4) :
      Goes clocks life { life with stage := .delivering finisher intake.advanced }

theorem Goes.sound (goes : life.Goes clocks next) (sound : life.Sound) : next.Sound := by
  cases goes with
  | rests => exact sound
  | steps _ step => exact step.sound sound
  | takesUp finisher intake delivering goesOn =>
      rw [Sound, delivering] at sound
      exact ⟨sound.1.atStage _, goesOn⟩

theorem Step.metric (step : life.Step clocks next) :
    next.timer.metric = life.timer.metric := by
  cases step <;> rfl

theorem Goes.metric (goes : life.Goes clocks next) :
    next.timer.metric = life.timer.metric := by
  cases goes with
  | rests | takesUp => rfl
  | steps _ step => exact step.metric

theorem Goes.start (goes : life.Goes clocks next) : next.timer.start = life.timer.start := by
  cases goes with
  | rests | takesUp => rfl
  | steps _ step => cases step <;> rfl

/-- Only who finishes a timer takes a sample of it. -/
theorem Step.intakes (step : life.Step clocks next) :
    next.intakes = life.intakes ∨
      (∃ finisher, life.stage = .finishing finisher) ∧
        next.intakes = life.intakes ++ [{ sample := life.timer.elapsed clocks }] := by
  rw [Life.intakes, Life.intakes]
  cases step with
  | stops stage | leaves stage | finishes stage | passes stage =>
      rw [stage]
      exact .inl rfl
  | reads finisher finishing =>
      rw [finishing]
      exact .inr ⟨⟨finisher, rfl⟩, congrArg (· ++ [_]) (List.append_nil _).symm⟩
  | marks finisher sample delivered =>
      rw [delivered, finisher.underway_leaves, List.map_append, List.append_nil]
      exact .inl rfl

theorem Goes.samples (goes : life.Goes clocks next) :
    next.samples = life.samples ∨
      (∃ finisher, life.stage = .finishing finisher) ∧
        next.samples = life.samples ++ [life.timer.elapsed clocks] := by
  rw [Life.samples, Life.samples]
  cases goes with
  | rests => exact .inl rfl
  | steps _ step =>
      rcases step.intakes with same | ⟨finishing, taken⟩
      · rw [same]
        exact .inl rfl
      · rw [taken, List.map_append]
        exact .inr ⟨finishing, rfl⟩
  | takesUp finisher intake delivering =>
      rw [Life.intakes, Life.intakes, delivering, List.map_append, List.map_append]
      exact .inl rfl

/-- A timer takes nothing as long as it runs, and never more than one sample. By the time that
it is gone this one has been taken up, and no other is ever told. -/
structure TakesOnce (life : Life) : Prop where
  running : life.stage = .running → life.intakes = []
  once : life.intakes.length ≤ 1
  gone : life.stage = .gone → ∃ sample, life.intakes = [⟨sample, 4⟩]
  told : ∀ answer ∈ life.answer, life.intakes = [⟨answer, 4⟩]

theorem IsOpen.intakes (isOpen : life.IsOpen) : life.intakes = life.stage.underway := by
  rw [Life.intakes, isOpen.taken]
  rfl

theorem IsClosed.intakes {sample : Nat} (closed : life.IsClosed sample)
    (none : life.stage.underway = []) : life.intakes = [⟨sample, 4⟩] := by
  rw [Life.intakes, closed.taken, none]
  rfl

theorem Sound.openOrClosed (sound : life.Sound) :
    life.IsOpen ∧ life.stage ≠ .gone ∨
      life.stage ≠ .running ∧ ∃ sample, life.IsClosed sample ∧ life.intakes = [⟨sample, 4⟩] := by
  rw [Sound] at sound
  cases stage : life.stage with
  | running | finishing =>
      rw [stage] at sound
      exact .inl ⟨sound, nofun⟩
  | delivering finisher intake =>
      rw [stage] at sound
      exact .inl ⟨sound.1, nofun⟩
  | leaving =>
      rw [stage] at sound
      rcases sound with isOpen | ⟨sample, closed⟩
      · exact .inl ⟨isOpen, nofun⟩
      · exact .inr ⟨nofun, sample, closed, closed.intakes (congrArg Stage.underway stage)⟩
  | gone =>
      rw [stage] at sound
      rcases sound with ⟨sample, closed⟩
      exact .inr ⟨nofun, sample, closed, closed.intakes (congrArg Stage.underway stage)⟩

theorem Sound.takesOnce (sound : life.Sound) : life.TakesOnce := by
  rcases sound.openOrClosed with ⟨isOpen, stays⟩ | ⟨ended, sample, closed, intakes⟩
  · constructor
    · intro running
      rw [isOpen.intakes, running]
      rfl
    · rw [isOpen.intakes]
      exact life.stage.length_underway
    · exact fun gone => absurd gone stays
    · rw [isOpen.answer]
      exact nofun
  · constructor
    · exact fun running => absurd running ended
    · rw [intakes]
      exact Nat.le_refl 1
    · exact fun _ => ⟨sample, intakes⟩
    · intro answer told
      rw [intakes, closed.answer answer told]

end Life

/-! ## All timers -/

namespace Scene

variable {opening scene next later : Scene} {index : Nat} {life : Life}

theorem getElem?_moved (there : scene.lives[index]? = some life) (next : Life)
    (stats : Table MetricStats) (other : Nat) :
    (scene.moved index next stats).lives[other]? =
      if index = other then some next else scene.lives[other]? := by
  have within := (List.getElem?_eq_some_iff.1 there).1
  rw [moved, List.getElem?_set]
  by_cases here : index = other
  · rw [if_pos here, if_pos here, if_pos within]
  · rw [if_neg here, if_neg here]

theorem Step.came (step : scene.Step next) (there : next.lives[index]? = some life) :
    (scene.lives.length = index ∧ ∃ metric, next = scene.starting metric ∧
        life = .started metric scene.clocks) ∨
      ∃ earlier, scene.lives[index]? = some earlier ∧ earlier.Goes scene.clocks life := by
  -- Either this is the timer that moves, or it stays as it is.
  have moves {place : Nat} {before after : Life} {stats : Table MetricStats}
      (was : scene.lives[place]? = some before) (goes : before.Goes scene.clocks after)
      (now : (scene.moved place after stats).lives[index]? = some life) :
      ∃ earlier, scene.lives[index]? = some earlier ∧ earlier.Goes scene.clocks life := by
    rw [getElem?_moved was] at now
    split at now
    · next here =>
        cases now
        exact ⟨before, here ▸ was, goes⟩
    · exact ⟨life, now, .rests⟩
  cases step with
  | starts metric =>
      rcases Nat.lt_or_ge index scene.lives.length with old | new
      · rw [starting, List.getElem?_append_left old] at there
        exact .inr ⟨life, there, .rests⟩
      · rw [starting, List.getElem?_append_right new, List.getElem?_singleton] at there
        split at there
        · next first =>
            cases there
            exact .inl ⟨by omega, metric, rfl, rfl⟩
        · cases there
  | steps place before after was step => exact .inr (moves was (.steps after step) there)
  | takesUp place before finisher intake was delivering goesOn =>
      exact .inr (moves was (.takesUp finisher intake delivering goesOn) there)
  | records | recordTakesUp | movesOn | elsewhere => exact .inr ⟨life, there, .rests⟩

def Sound (scene : Scene) : Prop :=
  ∀ (index : Nat) (life : Life), scene.lives[index]? = some life → life.Sound

theorem Step.sound (step : scene.Step next) (sound : scene.Sound) : next.Sound := by
  intro index life there
  rcases step.came there with ⟨_, metric, _, rfl⟩ | ⟨earlier, before, goes⟩
  · exact Life.sound_started metric scene.clocks
  · exact goes.sound (sound index earlier before)

theorem IsOpening.sound (opens : opening.IsOpening) : opening.Sound := by
  intro index life there
  rw [opens.lives] at there
  cases there

theorem Becomes.sound (becomes : scene.Becomes later) (sound : scene.Sound) : later.Sound := by
  induction becomes with
  | refl => exact sound
  | tail _ step induction => exact step.sound induction

/-! ## Where samples come from -/

def Finishes (scene : Scene) (index : Nat) (metric : Metric) (start : UInt64) : Prop :=
  ∃ finisher,
    scene.lives[index]? = some { timer := { metric, start }, stage := .finishing finisher }

end Scene

/-- How a timer and its samples came about: it was started in this scene and took its samples
in later ones. -/
structure Life.Arose (life : Life) (index : Nat) (begun scene : Scene) : Prop where
  place : begun.lives.length = index
  follows : (begun.starting life.timer.metric).Becomes scene
  start : life.timer.start = (begun.clocks.get life.timer.metric.clock).reading
  samples : ∀ sample ∈ life.samples, ∃ ended : Scene,
    (begun.starting life.timer.metric).Becomes ended ∧ ended.Becomes scene ∧
    ended.Finishes index life.timer.metric life.timer.start ∧
    sample = (ended.clocks.get life.timer.metric.clock).reading.toNat - life.timer.start.toNat

section History

variable {opening begun scene next : Scene} {index : Nat} {life after : Life}

theorem Scene.arose_started (scene : Scene) (metric : Metric) :
    (Life.started metric scene.clocks).Arose scene.lives.length scene (scene.starting metric) where
  place := rfl
  follows := .refl
  start := rfl
  samples := nofun

theorem Life.Sound.finishes (sound : life.Sound) (there : scene.lives[index]? = some life)
    {finisher : Finisher} (finishing : life.stage = .finishing finisher) :
    scene.Finishes index life.timer.metric life.timer.start := by
  rw [Life.Sound, finishing] at sound
  rw [sound.eq, finishing] at there
  exact ⟨finisher, there⟩

theorem Life.Arose.goes (arose : life.Arose index begun scene) (sound : life.Sound)
    (there : scene.lives[index]? = some life) (step : scene.Step next)
    (goes : life.Goes scene.clocks after) : after.Arose index begun next := by
  have ⟨place, follows, start, samples⟩ := arose
  have still : ∀ sample ∈ life.samples, ∃ ended : Scene,
      (begun.starting life.timer.metric).Becomes ended ∧ ended.Becomes next ∧
      ended.Finishes index life.timer.metric life.timer.start ∧
      sample =
        (ended.clocks.get life.timer.metric.clock).reading.toNat - life.timer.start.toNat := by
    intro sample taken
    rcases samples sample taken with ⟨ended, since, until_, finishes⟩
    exact ⟨ended, since, until_.tail step, finishes⟩
  constructor
  · exact place
  · rw [goes.metric]
    exact follows.tail step
  · rw [goes.metric, goes.start]
    exact start
  · rw [goes.metric, goes.start]
    rcases goes.samples with same | ⟨⟨finisher, finishing⟩, taken⟩
    · rwa [same]
    · intro sample member
      rw [taken] at member
      rcases List.mem_append.1 member with earlier | last
      · exact still sample earlier
      · exact ⟨scene, follows, .single step, sound.finishes there finishing,
          List.mem_singleton.1 last⟩

/-- Every timer was started some time, and took its samples since. -/
theorem Scene.Becomes.arose (reached : opening.Becomes scene) (opens : opening.IsOpening)
    (there : scene.lives[index]? = some life) :
    ∃ begun, opening.Becomes begun ∧ life.Arose index begun scene := by
  -- By induction on the run: a timer is started by its last step, or was there before, and then
  -- the step adds to its samples at most what the clock shows now.
  induction reached generalizing life with
  | refl =>
      rw [opens.lives] at there
      cases there
  | @tail scene next earlier step induction =>
      rcases step.came there with ⟨place, metric, rfl, rfl⟩ | ⟨before, was, goes⟩
      · exact ⟨scene, earlier, place ▸ scene.arose_started metric⟩
      · rcases induction was with ⟨begun, reached, arose⟩
        have sound := Scene.Becomes.sound earlier opens.sound index before was
        exact ⟨begun, reached, arose.goes sound was step goes⟩

end History

/-! ## Accounts -/

namespace Life

variable {clocks : Table Clock} {life next : Life}

theorem Step.deliveries (step : life.Step clocks next) :
    next.deliveries = life.deliveries ∨
      next.deliveries =
        life.deliveries ++ [.begun life.timer.metric.stats (life.timer.elapsed clocks)] := by
  rw [Life.deliveries, Life.deliveries, step.metric]
  rcases step.intakes with same | ⟨_, taken⟩
  · rw [same]
    exact .inl rfl
  · rw [taken, List.map_append]
    exact .inr rfl

theorem deliveries_delivering (life : Life) (finisher : Finisher) (intake : Intake) :
    { life with stage := .delivering finisher intake : Life }.deliveries =
      life.taken.map
          (fun sample => { stats := life.timer.metric.stats, intake := ⟨sample, 4⟩ }) ++
        [{ stats := life.timer.metric.stats, intake }] := by
  rw [deliveries, intakes, List.map_append, List.map_map]
  rfl

theorem filterMap_deliveries (life : Life) (stats : Key MetricStats) :
    life.deliveries.filterMap (·.intakeFor? stats) =
      if life.timer.metric.stats = stats then life.intakes else [] := by
  rw [deliveries, List.filterMap_map]
  split
  · next own =>
      refine (List.filterMap_congr fun intake _ => ?_).trans List.filterMap_some
      exact if_pos own
  · next apart => exact List.filterMap_eq_nil_iff.2 fun intake _ => if_neg apart

end Life

namespace Scene

variable {opening scene next : Scene} {index : Nat} {life : Life}

def recorded (scene : Scene) (stats : Key MetricStats) : List Nat :=
  (scene.records.filterMap (·.intakeFor? stats)).flatMap (·.past 4)

def timed (scene : Scene) (stats : Key MetricStats) : List Nat :=
  scene.lives.flatMap fun life => if life.timer.metric.stats = stats then life.finished else []

theorem finished_account (scene : Scene) (stats : Key MetricStats) :
    (scene.traffic.account stats).finished = scene.recorded stats ++ scene.timed stats := by
  rw [Counters.Scene.finished, Counters.Scene.past, Traffic.account, traffic, deliveries,
    List.filterMap_append, List.flatMap_append, recorded, timed, List.filterMap_flatMap,
    List.flatMap_assoc]
  refine congrArg _ (List.flatMap_congr fun life _ => ?_)
  rw [life.filterMap_deliveries, Life.finished]
  split <;> rfl

theorem exists_deliveries_eq (there : scene.lives[index]? = some life) :
    ∃ before behind : List Delivery, scene.deliveries = before ++ life.deliveries ++ behind ∧
      ∀ next stats,
        (scene.moved index next stats).deliveries = before ++ next.deliveries ++ behind := by
  have ⟨within, same⟩ := List.getElem?_eq_some_iff.1 there
  have around (next : Life) (stats : Table MetricStats) :
      (scene.moved index next stats).deliveries =
        scene.records ++ (scene.lives.take index).flatMap Life.deliveries ++ next.deliveries ++
          (scene.lives.drop (index + 1)).flatMap Life.deliveries := by
    rw [deliveries, moved, List.set_eq_take_append_cons_drop, if_pos within,
      List.flatMap_append, List.flatMap_cons]
    simp only [List.append_assoc]
  refine ⟨_, _, ?_, around⟩
  rw [← around life scene.stats, moved, ← same, List.set_getElem_self]

theorem traffic_starting (scene : Scene) (metric : Metric) :
    (scene.starting metric).traffic = scene.traffic := by
  rw [traffic, traffic, deliveries, deliveries, starting, List.flatMap_append,
    List.flatMap_singleton]
  exact congrArg (Traffic.mk _ <| _ ++ ·) (List.append_nil _)

theorem moves_steps {clocks : Table Clock} (there : scene.lives[index]? = some life)
    {after : Life} (step : life.Step clocks after) :
    scene.traffic.Moves (scene.moved index after scene.stats).traffic := by
  rcases exists_deliveries_eq there with ⟨before, behind, was, becomes⟩
  rw [traffic, traffic, was, becomes after scene.stats]
  rcases step.deliveries with same | taken
  · rw [same]
    exact .rests
  · rw [taken, ← List.append_assoc, List.append_assoc (before ++ life.deliveries)]
    refine .begins (before ++ life.deliveries) behind _ _ ?_
    rfl

theorem moves_takesUp {finisher : Finisher} {intake : Intake}
    (there : scene.lives[index]? = some life)
    (delivering : life.stage = .delivering finisher intake) (goesOn : intake.steps < 4) :
    scene.traffic.Moves (scene.takingUp index life finisher intake).traffic := by
  rcases exists_deliveries_eq there with ⟨before, behind, was, becomes⟩
  let next : Life := { life with stage := .delivering finisher intake.advanced }
  let taken : List Delivery := life.taken.map fun sample =>
    { stats := life.timer.metric.stats, intake := ⟨sample, 4⟩ }
  have now : life.deliveries = taken ++ [{ stats := life.timer.metric.stats, intake }] := by
    rw [← life.deliveries_delivering finisher, ← delivering]
  have becoming : (scene.takingUp index life finisher intake).deliveries =
      before ++ next.deliveries ++ behind := becomes next _
  rw [traffic, traffic, was, now, becoming, life.deliveries_delivering, ← List.append_assoc,
    ← List.append_assoc, List.append_assoc (before ++ taken), List.append_assoc (before ++ taken)]
  exact .takesUp (before ++ taken) behind { stats := life.timer.metric.stats, intake } rfl goesOn

theorem Step.account (step : scene.Step next) (stats : Key MetricStats) :
    (scene.traffic.account stats).Goes (next.traffic.account stats) := by
  cases step with
  | starts metric =>
      rw [traffic_starting]
      exact Traffic.Moves.rests.account stats
  | steps index life next there step => exact (moves_steps there step).account stats
  | takesUp index life finisher intake there delivering goesOn =>
      exact (moves_takesUp there delivering goesOn).account stats
  | records metric nanoseconds =>
      rw [traffic, traffic, deliveries, deliveries, List.append_assoc]
      exact (Traffic.Moves.begins _ _ metric.stats nanoseconds rfl).account stats
  | recordTakesUp index delivery there goesOn =>
      have within := (List.getElem?_eq_some_iff.1 there).1
      have among : scene.traffic.deliveries[index]? = some delivery :=
        (List.getElem?_append_left within).trans there
      have moves := Traffic.Moves.takesUpAt among goesOn
      rw [traffic, deliveries, List.set_append_left _ _ within] at moves
      exact moves.account stats
  | movesOn => exact Traffic.Moves.rests.account stats
  | elsewhere clocks table _ same =>
      have unseen : ({ scene with clocks, stats := table } : Scene).traffic.account stats =
          scene.traffic.account stats := Traffic.account_of_same (same stats) rfl
      rw [unseen]
      exact .turned _ (.idle [])

theorem IsOpening.tallied (opens : opening.IsOpening) (stats : Key MetricStats) :
    (opening.traffic.account stats).Tallied := by
  refine Counters.Scene.tallied_of_fresh (opens.stats stats) ?_
  rw [Traffic.account, traffic, deliveries, opens.lives, opens.records]
  exact List.forall_mem_nil _

theorem Becomes.tallied (reached : opening.Becomes scene) (opens : opening.IsOpening)
    (stats : Key MetricStats) : (scene.traffic.account stats).Tallied := by
  induction reached with
  | refl => exact opens.tallied stats
  | tail _ step induction => exact (step.account stats).tallied induction

/-- When no sample is there in part, an aggregate is that of all samples that were taken up. -/
theorem stats_eq_recordAll {stats : Key MetricStats}
    (tallied : (scene.traffic.account stats).Tallied)
    (rests : (scene.traffic.account stats).IsAtRest) {order : List Nat}
    (perm : order.Perm (scene.recorded stats ++ scene.timed stats)) :
    scene.stats.get stats = MetricStats.empty.recordAll order := by
  have whole := tallied.of_rest rests
  rw [finished_account] at whole
  exact whole.trans (MetricStats.empty.recordAll_perm perm.symm)

end Scene

end Instrumentation.Timers
