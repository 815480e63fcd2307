import Instrumentation.Collector.Basic
import Instrumentation.Proofs.Metrics.Deliveries
import Mathlib.Logic.Relation

namespace Instrumentation.Naming

/-! Searches for the aggregates of names on one collector, any number of them and on whatever
threads, samples that are taken through the handles that they come to, and questions for what
a name shows. Every step named here is one that nothing interrupts: a section under the lock
of the names, or one access to a counter. -/

open Counters

/-! ## Who is about -/

/-- How far a search for the aggregate of a name has come. Its next step is the one named. -/
inductive Stage where
  | looking
  /-- The name was not there, and the lock has been given up. -/
  | takingIn
  | ended (stats : Key MetricStats)

structure Search where
  name : String
  stage : Stage := .looking

def Search.HasEnded (search : Search) : Prop :=
  ∃ stats, search.stage = .ended stats

structure Sampling where
  name : String
  delivery : Delivery

namespace Sampling

def begun (name : String) (stats : Key MetricStats) (nanoseconds : Nat) : Sampling where
  name
  delivery := .begun stats nanoseconds

def advanced (sampling : Sampling) : Sampling :=
  { sampling with delivery := sampling.delivery.advanced }

end Sampling

inductive Reply where
  | awaited
  | unknown
  | reading (stats : Key MetricStats) (look : Look)

structure Question where
  name : String
  reply : Reply := .awaited

structure Scene where
  collector : Collector
  stats : Table MetricStats := {}
  searches : List Search := []
  samplings : List Sampling := []
  questions : List Question := []

/-! ## Steps -/

namespace Scene

def takingIn (scene : Scene) (index : Nat) (name : String) : Scene :=
  let taken := scene.collector.findOrInsertStats name scene.stats.nextKey
  { scene with
    collector := taken.2
    stats :=
      if (scene.collector.findStats? name).isSome then scene.stats else scene.stats.add .empty
    searches := scene.searches.set index { name, stage := .ended taken.1 } }

def traffic (scene : Scene) : Traffic where
  stats := scene.stats
  deliveries := scene.samplings.map (·.delivery)

/-- Someone begins something, or what has begun makes its next step; or there is something
else that happens to the collector, or to aggregates of which it knows nothing. -/
inductive Step (scene : Scene) : Scene → Prop
  | searches (name : String) :
      Step scene { scene with searches := scene.searches ++ [{ name }] }
  | finds (index : Nat) (name : String) (stats : Key MetricStats)
      (there : scene.searches[index]? = some { name })
      (known : scene.collector.findStats? name = some stats) :
      Step scene
        { scene with searches := scene.searches.set index { name, stage := .ended stats } }
  | misses (index : Nat) (name : String) (there : scene.searches[index]? = some { name })
      (missing : scene.collector.findStats? name = none) :
      Step scene
        { scene with searches := scene.searches.set index { name, stage := .takingIn } }
  | takesIn (index : Nat) (name : String)
      (there : scene.searches[index]? = some { name, stage := .takingIn }) :
      Step scene (scene.takingIn index name)
  | samples (index : Nat) (name : String) (stats : Key MetricStats) (nanoseconds : Nat)
      (there : scene.searches[index]? = some { name, stage := .ended stats }) :
      Step scene { scene with samplings := scene.samplings ++ [.begun name stats nanoseconds] }
  | takesUp (index : Nat) (sampling : Sampling)
      (there : scene.samplings[index]? = some sampling)
      (goesOn : sampling.delivery.intake.steps < 4) :
      Step scene
        { scene with
          stats := scene.traffic.takingUp sampling.delivery
          samplings := scene.samplings.set index sampling.advanced }
  | asks (name : String) :
      Step scene { scene with questions := scene.questions ++ [{ name }] }
  | lacks (index : Nat) (name : String) (there : scene.questions[index]? = some { name })
      (missing : scene.collector.findStats? name = none) :
      Step scene
        { scene with questions := scene.questions.set index { name, reply := .unknown } }
  | opens (index : Nat) (name : String) (stats : Key MetricStats)
      (there : scene.questions[index]? = some { name })
      (known : scene.collector.findStats? name = some stats) :
      Step scene
        { scene with
          questions := scene.questions.set index { name, reply := .reading stats .opening } }
  | reads (index : Nat) (name : String) (stats : Key MetricStats) (look : Look)
      (there : scene.questions[index]? = some { name, reply := .reading stats look }) :
      Step scene
        { scene with
          questions := scene.questions.set index
            { name, reply := .reading stats (look.advanced (scene.stats.get stats)) } }
  | elsewhere (collector : Collector) (stats : Table MetricStats)
      (names : collector.metrics = scene.collector.metrics)
      (grows : scene.stats.size ≤ stats.size)
      (kept : ∀ name key, scene.collector.findStats? name = some key →
        stats.get key = scene.stats.get key) :
      Step scene { scene with collector, stats }

abbrev Becomes : Scene → Scene → Prop :=
  Relation.ReflTransGen Step

structure IsOpening (scene : Scene) : Prop where
  names : scene.collector.metrics = .empty
  searches : scene.searches = []
  samplings : scene.samplings = []
  questions : scene.questions = []

end Scene

end Instrumentation.Naming
