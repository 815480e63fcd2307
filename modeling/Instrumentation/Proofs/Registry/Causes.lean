import Instrumentation.Proofs.Registry.Errands
import Instrumentation.Proofs.Registry.Sequence
import Instrumentation.Proofs.Registry.Stacks
import Instrumentation.Proofs.Text.Identities

namespace Instrumentation

/-! What becomes of the errors of factories. A call in the course of which a factory refuses
to make an engine ends with that, whatever the error is and whoever made it: its own error has
the one of the factory as its cause, and all that led to that one behind it. So where factories
pass on the errors of the calls that they make themselves, the causes of the outermost error
are the errors of all of them, outermost first. -/

variable {Host Value : Type}

/-! ## Refusals -/

/-- The services can be claimed, and the factory that is then asked for the engine refuses. -/
def Creation.Refuses (create : Creation Host) (key : Key PluginServices) (cause : Error)
    (world : World Host) : Prop :=
  ∃ claimed left, (world.services.get key).claim = some claimed ∧
    create claimed.plugin (world.setServices key claimed) = (.ok (.error cause), left)

namespace Creation.Refuses

variable {create : Creation Host} {factories : Factories Host} {registry : Key Registry}
  {factory : Key Factory} {key : Key PluginServices} {cause : Error}
  {world between : World Host}

theorem bind (refuses : create.Refuses key cause world) :
    ∃ later, PluginServices.bind key create world =
      (.ok (.error (PluginServices.constructionError (world.services.get key).plugin cause)),
        later) := by
  rcases refuses with ⟨claimed, left, claims, creates⟩
  have binds := PluginServices.bind_of_claimed claims creates
  cases (PluginServices.claim_eq_some claims).2
  exact ⟨_, binds⟩

/-- Whatever kind of error the factory refused with, it is no bind of others. -/
theorem bindPending (refuses : create.Refuses key cause world)
    (unbound : (world.services.get key).isBound = false) :
    ∃ later, PluginServices.bindPending key create world =
      (.ok (.error (PluginServices.constructionError (world.services.get key).plugin cause)),
        later) := by
  rcases refuses.bind with ⟨later, binds⟩
  rw [Callers.bindPending_of_unbound unbound, binds]
  exact ⟨later, rfl⟩

theorem bindAll {earlier behind : List (Key PluginServices)}
    (refuses : create.Refuses key cause between)
    (bound : Registry.bindAll create earlier world = (.ok (.ok ()), between))
    (unbound : (between.services.get key).isBound = false) :
    ∃ later, Registry.bindAll create (earlier ++ key :: behind) world =
      (.ok (.error (PluginServices.constructionError (between.services.get key).plugin cause)),
        later) := by
  induction earlier generalizing world with
  | nil =>
      cases bound
      rcases refuses.bindPending unbound with ⟨later, binds⟩
      exact ⟨later, Program.bind_of_ok binds _⟩
  | cons first rest induction =>
      rw [Registry.bindAll, Program.bind_apply] at bound
      rw [List.cons_append, Registry.bindAll, Program.bind_apply]
      rcases binding : PluginServices.bindPending first create world with
        ⟨payload | error | _, next⟩ <;> rw [binding] at bound
      · cases bound
      · cases bound
      · exact induction bound

theorem getServices (refuses : (factories factory).Refuses key cause between) {id : String}
    {plugin : PluginId} (named : PluginId.ofText id = .ok plugin)
    (looks : Registry.lookUp registry plugin world = (.ok (key, some factory), between))
    (unbound : (between.services.get key).isBound = false) :
    ∃ later, Registry.getServices factories registry id world =
      (.ok (.error (PluginServices.constructionError (between.services.get key).plugin cause)),
        later) := by
  rcases refuses.bindPending unbound with ⟨later, binds⟩
  rw [Registry.getServices, named]
  dsimp only
  rw [Program.bind_of_ok looks]
  exact ⟨later, Program.bind_of_ok binds _⟩

theorem start (refuses : (factories factory).Refuses key cause between)
    {earlier behind : List (Key PluginServices)}
    (notStarted : (world.registries.get registry).isStarted = false)
    (registered : world.registered registry = earlier ++ key :: behind)
    (bound : Registry.bindAll (factories factory) earlier
      (Registry.accepting registry factory world) = (.ok (.ok ()), between))
    (unbound : (between.services.get key).isBound = false) :
    ∃ later, Registry.start factories registry factory world =
      (.ok (.error (PluginServices.constructionError (between.services.get key).plugin cause)),
        later) := by
  rcases refuses.bindAll bound unbound with ⟨later, binds⟩
  rw [Registry.start_of_not_started _ _ _ _ notStarted, registered, binds]
  exact ⟨_, rfl⟩

end Creation.Refuses

/-! ## AccountsFor -/

/-- The call did not get as far as a factory, or all that was asked was granted: it does not
unwind, and it is not the making of an engine that failed. -/
abbrev IsUndisturbed : BindEnding → Prop :=
  Gives fun result => ∀ error, result = .error error → error.kind ≠ .engineConstruction

theorem isUndisturbed_ok : IsUndisturbed (.ok (.ok ())) := by
  rintro error ⟨⟩

theorem isUndisturbed_error {error : Error} (other : error.kind ≠ .engineConstruction) :
    IsUndisturbed (.ok (.error error)) := by
  rintro _ ⟨⟩
  exact other

inductive AccountsFor : List Report → BindEnding → Prop
  | unasked (ending : BindEnding) (undisturbed : IsUndisturbed ending) : AccountsFor [] ending
  | made {askings : List Report} {ending : BindEnding} (factory : Key Factory)
      (plugin : PluginId) (errands : List Report) (engine : Engine)
      (rest : AccountsFor askings ending) :
      AccountsFor (.asking factory plugin errands (.ok (.ok engine)) :: askings) ending
  | refused (factory : Key Factory) (plugin : PluginId) (errands : List Report)
      (cause : Error) :
      AccountsFor [.asking factory plugin errands (.ok (.error cause))]
        (.ok (.error (PluginServices.constructionError plugin cause)))
  | unwound (factory : Key Factory) (plugin : PluginId) (errands : List Report)
      (payload : Payload) :
      AccountsFor [.asking factory plugin errands (.error payload)] (.error payload)

/-- Every call in the report, at any depth, ended as what was asked in the course of it
accounts for. -/
inductive Report.IsExplained : Report → Prop
  | errand {errand : Errand} {askings : List Report} {ending : BindEnding}
      (accounts : AccountsFor askings ending)
      (explained : ∀ asking ∈ askings, asking.IsExplained) :
      IsExplained (.errand errand askings ending)
  | asking {factory : Key Factory} {plugin : PluginId} {errands : List Report}
      {answer : CreationEnding} (explained : ∀ errand ∈ errands, errand.IsExplained) :
      IsExplained (.asking factory plugin errands answer)

namespace AccountsFor

variable {askings others : List Report} {ending : BindEnding}

theorem append (first : AccountsFor askings (.ok (.ok ()))) (next : AccountsFor others ending) :
    AccountsFor (askings ++ others) ending := by
  generalize ended : (.ok (.ok ()) : BindEnding) = done at first
  induction first with
  | unasked => exact next
  | made factory plugin errands engine _ induction =>
      exact .made factory plugin errands engine (induction ended)
  | refused | unwound => cases ended

/-- The error of a factory is not taken for a bind of others, not even if it says so. -/
theorem excused (accounts : AccountsFor askings ending) :
    AccountsFor askings (Callers.excused ending) := by
  induction accounts with
  | unasked ending undisturbed =>
      refine .unasked _ ?_
      rcases ending with payload | error | _
      · exact undisturbed
      · rw [Callers.excused]
        split
        · exact isUndisturbed_ok
        · exact undisturbed
      · exact undisturbed
  | made factory plugin errands engine _ induction =>
      exact .made factory plugin errands engine induction
  | refused factory plugin errands cause => exact .refused factory plugin errands cause
  | unwound factory plugin errands payload => exact .unwound factory plugin errands payload

end AccountsFor

/-! ## Calls -/

def Creation.Reports (create : Creation (Reported Host)) : Prop :=
  ∀ plugin world, ∃ factory errands,
    (create plugin world).2.notes =
      world.notes ++ [.asking factory plugin errands (create plugin world).1] ∧
    ∀ errand ∈ errands, errand.IsExplained

/-- A call that was made in the first world ended in this way: all that was reported of it is
what factories were asked, and accounts for the end. -/
def EndsAccordingly (before : World (Reported Host))
    (run : Except Payload (Except Error Value) × World (Reported Host)) : Prop :=
  ∃ askings, run.2.notes = before.notes ++ askings ∧ AccountsFor askings (forgetValue run.1) ∧
    ∀ asking ∈ askings, asking.IsExplained

namespace EndsAccordingly

variable {before between later : World (Reported Host)}
  {ending : Except Payload (Except Error Value)}

theorem of_silent (notes : later.notes = before.notes)
    (undisturbed : IsUndisturbed (forgetValue ending)) :
    EndsAccordingly before (ending, later) :=
  ⟨[], by rw [List.append_nil, notes], .unasked _ undisturbed, nofun⟩

theorem goesOn {Other : Type} {value : Other}
    {run : Except Payload (Except Error Value) × World (Reported Host)}
    (first : EndsAccordingly before (.ok (.ok value), between))
    (next : EndsAccordingly between run) : EndsAccordingly before run := by
  rcases first with ⟨askings, notes, accounts, explained⟩
  rcases next with ⟨others, further, accountsOn, explainedOn⟩
  refine ⟨askings ++ others, ?_, accounts.append accountsOn, ?_⟩
  · rw [further, notes, List.append_assoc]
  · exact List.forall_mem_append.2 ⟨explained, explainedOn⟩

theorem passedOn {Other : Type} {same : Except Payload (Except Error Other)}
    (first : EndsAccordingly before (ending, between))
    (alike : forgetValue same = forgetValue ending) (notes : later.notes = between.notes) :
    EndsAccordingly before (same, later) := by
  rcases first with ⟨askings, reported, accounts, explained⟩
  exact ⟨askings, notes.trans reported, alike ▸ accounts, explained⟩

end EndsAccordingly

def IsAccountable (program : Program (Reported Host) (Except Error Value)) : Prop :=
  ∀ world, EndsAccordingly world (program world)

namespace PluginServices

variable {create : Creation (Reported Host)}

theorem afterCreation_accords (key : Key PluginServices) {before left : World (Reported Host)}
    {factory : Key Factory} {plugin : PluginId} {errands : List Report}
    {creation : CreationEnding}
    (notes : left.notes = before.notes ++ [.asking factory plugin errands creation])
    (explained : ∀ errand ∈ errands, errand.IsExplained) :
    EndsAccordingly before (afterCreation key plugin creation left) := by
  have reported : ∀ asking ∈ [Report.asking factory plugin errands creation],
      asking.IsExplained :=
    List.forall_mem_singleton.2 (.asking explained)
  rcases creation with payload | cause | engine
  · exact ⟨_, notes, .unwound factory plugin errands payload, reported⟩
  · exact ⟨_, notes, .refused factory plugin errands cause, reported⟩
  · rw [afterCreation]
    cases (left.services.get key).publish engine with
    | none =>
        have failed : IsUndisturbed (.ok (.error (slotWritten plugin))) :=
          isUndisturbed_error (by rintro ⟨⟩)
        exact ⟨_, notes, .made factory plugin errands engine (.unasked _ failed), reported⟩
    | some published =>
        exact ⟨_, notes, .made factory plugin errands engine (.unasked _ isUndisturbed_ok),
          reported⟩

theorem bind_isAccountable (reports : create.Reports) (key : Key PluginServices) :
    IsAccountable (bind key create) := by
  intro world
  cases claims : (world.services.get key).claim with
  | none =>
      rw [bind_of_refused claims]
      exact .of_silent rfl (isUndisturbed_error (by rintro ⟨⟩))
  | some claimed =>
      have ⟨factory, errands, notes, explained⟩ :=
        reports claimed.plugin (world.setServices key claimed)
      rcases creating : create claimed.plugin (world.setServices key claimed) with
        ⟨creation, left⟩
      rw [creating] at notes
      rw [bind_of_claimed claims creating]
      exact afterCreation_accords key notes explained

theorem bindPending_isAccountable (reports : create.Reports) (key : Key PluginServices) :
    IsAccountable (bindPending key create) := by
  intro world
  cases bound : (world.services.get key).isBound with
  | true =>
      rw [Callers.bindPending_of_bound bound]
      exact .of_silent rfl isUndisturbed_ok
  | false =>
      rw [Callers.bindPending_of_unbound bound]
      rcases bind_isAccountable reports key world with ⟨askings, notes, accounts, explained⟩
      rw [forgetValue_eq] at accounts
      exact ⟨askings, notes, forgetValue_eq _ ▸ accounts.excused, explained⟩

end PluginServices

namespace Registry

theorem bindAll_isAccountable {create : Creation (Reported Host)} (reports : create.Reports)
    (keys : List (Key PluginServices)) : IsAccountable (bindAll create keys) := by
  induction keys with
  | nil => exact fun world => .of_silent rfl isUndisturbed_ok
  | cons key rest induction =>
      intro world
      have first := PluginServices.bindPending_isAccountable reports key world
      rw [bindAll, Program.bind_apply]
      rcases binding : PluginServices.bindPending key create world with
        ⟨payload | error | _, between⟩ <;> rw [binding] at first
      · exact first
      · exact first
      · exact first.goesOn (induction between)

variable {factories : Factories (Reported Host)}

theorem start_isAccountable {factory : Key Factory} (reports : (factories factory).Reports)
    (registry : Key Registry) : IsAccountable (start factories registry factory) := by
  intro world
  cases started : (world.registries.get registry).isStarted with
  | true =>
      rw [start_of_started _ _ _ _ started]
      exact .of_silent rfl (isUndisturbed_error (by rintro ⟨⟩))
  | false =>
      have binds := bindAll_isAccountable reports (world.registered registry)
        (accepting registry factory world)
      rw [start_of_not_started _ _ _ _ started]
      rcases binding : bindAll (factories factory) (world.registered registry)
        (accepting registry factory world) with ⟨payload | error | _, later⟩ <;>
        rw [binding] at binds
      · exact binds.passedOn rfl rfl
      · exact binds.passedOn rfl rfl
      · exact binds.passedOn rfl rfl

theorem lookUp_silent (registry : Key Registry) (plugin : PluginId)
    (world : World (Reported Host)) :
    ∃ found later, lookUp registry plugin world = (.ok found, later) ∧
      later.notes = world.notes := by
  have reading : read registry world = (.ok (world.registries.get registry), world) := rfl
  rw [lookUp, Program.bind_of_ok reading]
  cases absent : (world.registries.get registry).find? plugin with
  | some services => exact ⟨_, _, rfl, rfl⟩
  | none =>
      dsimp only
      rw [Program.bind_of_ok (findOrInsert_of_absent absent)]
      exact ⟨_, _, rfl, rfl⟩

theorem getServices_isAccountable (reports : ∀ factory, (factories factory).Reports)
    (registry : Key Registry) (id : String) :
    IsAccountable (getServices factories registry id) := by
  intro world
  rw [getServices]
  cases named : PluginId.ofText id with
  | error error =>
      cases (PluginId.ofText_eq_error_iff.1 named).2
      exact .of_silent rfl (isUndisturbed_error (by rintro ⟨⟩))
  | ok plugin =>
      rcases lookUp_silent registry plugin world with ⟨⟨services, factory⟩, found, looks, notes⟩
      dsimp only
      rw [Program.bind_of_ok looks]
      cases factory with
      | none => exact .of_silent notes isUndisturbed_ok
      | some factory =>
          have binds := PluginServices.bindPending_isAccountable (reports factory) services found
          dsimp only
          rw [Program.bind_apply]
          rw [EndsAccordingly, notes] at binds
          rcases binding : PluginServices.bindPending services (factories factory) found with
            ⟨payload | error | _, later⟩ <;> rw [binding] at binds
          · exact binds
          · exact binds
          · exact binds

end Registry

/-! ## Runs -/

def IsExplained (program : Program (Reported Host) Value) : Prop :=
  ∀ world, ∃ reports, (program world).2.notes = world.notes ++ reports ∧
    ∀ report ∈ reports, report.IsExplained

theorem IsAccountable.onErrand {program : Program (Reported Host) (Except Error Value)}
    (accountable : IsAccountable program) (errand : Errand) :
    IsExplained (program.onErrand errand) := by
  intro world
  rcases accountable (world.plain.noting []) with ⟨askings, notes, accounts, explained⟩
  rw [World.notes_noting, List.nil_append] at notes
  rw [Program.onErrand, Program.reporting_notes, notes]
  exact ⟨[_], rfl, List.forall_mem_singleton.2 (.errand accounts explained)⟩

theorem IsExplained.andThen {Other : Type} {program : Program (Reported Host) Value}
    {rest : Except Payload Value → Program (Reported Host) Other} (first : IsExplained program)
    (next : ∀ ending, IsExplained (rest ending)) :
    IsExplained (do rest (← attempt program)) := by
  intro world
  rcases first world with ⟨reports, notes, explained⟩
  rcases next (program world).1 (program world).2 with ⟨others, further, explainedOn⟩
  refine ⟨reports ++ others, ?_, List.forall_mem_append.2 ⟨explained, explainedOn⟩⟩
  rw [Program.bind_of_ok (Program.attempt_apply program world), further, notes,
    List.append_assoc]

theorem Conduct.reported_isExplained {factories : Factories (Reported Host)}
    (reports : ∀ factory, (factories factory).Reports) (conduct : Conduct Host Value) :
    IsExplained (conduct.reported factories) := by
  induction conduct with
  | ends ending => exact fun world => ⟨[], (List.append_nil _).symm, nofun⟩
  | aside step rest induction => exact fun world => induction _ _
  | binds services factory rest induction =>
      have binding := PluginServices.bind_isAccountable (reports factory) services
      exact (binding.onErrand _).andThen induction
  | gets registry id rest induction =>
      have getting := Registry.getServices_isAccountable reports registry id
      exact (getting.onErrand _).andThen induction
  | starts registry factory rest induction =>
      have starting := Registry.start_isAccountable (reports factory) registry
      exact (starting.onErrand _).andThen induction

theorem Creation.reports_of_isExplained {factory : Key Factory}
    {create : Creation (Reported Host)} (explained : ∀ plugin, IsExplained (create plugin)) :
    Creation.Reports fun plugin => (create plugin).reporting (.asking factory plugin) := by
  intro plugin world
  rcases explained plugin (world.plain.noting []) with ⟨errands, notes, explained⟩
  rw [World.notes_noting, List.nil_append] at notes
  have reported := Program.reporting_notes (.asking factory plugin) (create plugin) world
  rw [notes] at reported
  exact ⟨factory, errands, reported, explained⟩

theorem Makers.reported_reports (makers : Makers Host) (depth : Nat) (factory : Key Factory) :
    Creation.Reports (makers.reported depth factory) := by
  induction depth generalizing factory with
  | zero =>
      refine Creation.reports_of_isExplained fun plugin world => ⟨[], ?_, nofun⟩
      exact (List.append_nil _).symm
  | succ depth induction =>
      exact Creation.reports_of_isExplained fun plugin =>
        (makers factory plugin).reported_isExplained induction

def Factories.reported (factories : Factories Host) : Factories (Reported Host) :=
  fun factory plugin =>
    (Program.besideNotes (factories factory plugin)).reporting (.asking factory plugin)

theorem Factories.reported_reports (factories : Factories Host) (factory : Key Factory) :
    Creation.Reports (factories.reported factory) := by
  refine Creation.reports_of_isExplained fun plugin world => ⟨[], ?_, nofun⟩
  exact (List.append_nil _).symm

/-! ## Chains -/

/-- In the course of the call a factory refused. Either the error was its own, or it had it
from a call that it made itself, and passed it on; then it is the first of those passed on, in
the order from the outermost call inwards. -/
inductive Report.Relays : Report → List Error → Error → Prop
  | own {errand : Errand} {askings : List Report} {ending : BindEnding} {factory : Key Factory}
      {plugin : PluginId} {errands : List Report} {cause : Error}
      (refused : .asking factory plugin errands (.ok (.error cause)) ∈ askings) :
      Relays (.errand errand askings ending) [] cause
  | passed {errand inner : Errand} {askings : List Report} {ending : BindEnding}
      {factory : Key Factory} {plugin : PluginId} {errands innerAskings : List Report}
      {cause own : Error} {passed : List Error}
      (refused : .asking factory plugin errands (.ok (.error cause)) ∈ askings)
      (ran : .errand inner innerAskings (.ok (.error cause)) ∈ errands)
      (relays : Relays (.errand inner innerAskings (.ok (.error cause))) passed own) :
      Relays (.errand errand askings ending) (cause :: passed) own

def Report.FailsWith (error : Error) : Report → Prop
  | .errand _ _ ending => ending = .ok (.error error)
  | .asking _ _ _ _ => False

theorem AccountsFor.failed {askings : List Report} {ending : BindEnding}
    (accounts : AccountsFor askings ending) {factory : Key Factory} {plugin : PluginId}
    {errands : List Report} {cause : Error}
    (refused : .asking factory plugin errands (.ok (.error cause)) ∈ askings) :
    ending = .ok (.error (PluginServices.constructionError plugin cause)) := by
  induction accounts with
  | unasked => cases refused
  | made _ _ _ _ _ induction =>
      rcases List.mem_cons.1 refused with same | refused
      · cases same
      · exact induction refused
  | refused =>
      cases List.mem_singleton.1 refused
      rfl
  | unwound => cases List.mem_singleton.1 refused

/-- All errors on the way are causes of the last one, and each is there once. -/
theorem Report.Relays.sources {report : Report} {passed : List Error} {own : Error}
    (relays : report.Relays passed own) (explained : report.IsExplained) :
    ∃ error, report.FailsWith error ∧ error.kind = .engineConstruction ∧
      error.sources = passed.map Error.display ++ own.display :: own.sources := by
  induction relays with
  | own refused =>
      cases explained with
      | errand accounts _ => exact ⟨_, accounts.failed refused, rfl, rfl⟩
  | passed refused ran _ induction =>
      cases explained with
      | errand accounts explained =>
          cases explained _ refused with
          | asking explained =>
              rcases induction (explained _ ran) with ⟨error, ⟨⟩, _, sources⟩
              refine ⟨_, accounts.failed refused, rfl, ?_⟩
              rw [PluginServices.constructionError, Error.sources_causedBy, sources]
              rfl

/-! ## The statement -/

structure PassesOnFactoryErrors (Host Value : Type) : Prop where
  /-- A bind whose factory refuses fails, and says for which plugin and why. -/
  bind : ∀ (create : Creation Host) (key : Key PluginServices) (cause : Error)
    (world : World Host), create.Refuses key cause world →
    ∃ error later, PluginServices.bind key create world = (.ok (.error error), later) ∧
      error = PluginServices.constructionError (world.services.get key).plugin cause ∧
      error.kind = .engineConstruction ∧
      error.plugin = some (world.services.get key).plugin.text ∧
      error.sources = cause.display :: cause.sources
  /-- A get that attempts the bind fails with the same error. -/
  get : ∀ (factories : Factories Host) (registry : Key Registry) (id : String)
    (plugin : PluginId) (key : Key PluginServices) (factory : Key Factory) (cause : Error)
    (world found : World Host), PluginId.ofText id = .ok plugin →
    Registry.lookUp registry plugin world = (.ok (key, some factory), found) →
    (found.services.get key).isBound = false → (factories factory).Refuses key cause found →
    ∃ later, Registry.getServices factories registry id world =
      (.ok (.error (PluginServices.constructionError (found.services.get key).plugin cause)),
        later)
  /-- So does a start that has come as far as this bind. -/
  start : ∀ (factories : Factories Host) (registry : Key Registry) (factory : Key Factory)
    (earlier behind : List (Key PluginServices)) (key : Key PluginServices) (cause : Error)
    (world between : World Host), (world.registries.get registry).isStarted = false →
    world.registered registry = earlier ++ key :: behind →
    Registry.bindAll (factories factory) earlier (Registry.accepting registry factory world) =
      (.ok (.ok ()), between) →
    (between.services.get key).isBound = false → (factories factory).Refuses key cause between →
    ∃ later, Registry.start factories registry factory world =
      (.ok (.error (PluginServices.constructionError (between.services.get key).plugin cause)),
        later)
  /-- What a factory refused in the course of a call is what the call failed with. -/
  refused : ∀ askings ending, AccountsFor askings ending →
    ∀ factory plugin errands cause,
      .asking factory plugin errands (.ok (.error cause)) ∈ askings →
      ending = .ok (.error (PluginServices.constructionError plugin cause))
  /-- Whatever factories do, the calls in the course of which they are asked end so. -/
  accountable : ∀ factories : Factories Host,
    (∀ key factory, IsAccountable (PluginServices.bind key (factories.reported factory))) ∧
    (∀ registry id, IsAccountable (Registry.getServices factories.reported registry id)) ∧
    ∀ registry factory, IsAccountable (Registry.start factories.reported registry factory)
  /-- So do all calls of a host, and all that its factories make, however deeply nested. -/
  explained : ∀ (conduct : Conduct Host Value) (makers : Makers Host) (depth : Nat)
    (world : World Host), ∀ report ∈ conduct.reports makers depth world, report.IsExplained
  /-- Where factories pass errors on, all of them are causes of the outermost one. -/
  relayed : ∀ (report : Report) (passed : List Error) (own : Error), report.IsExplained →
    report.Relays passed own →
    ∃ error, report.FailsWith error ∧ error.kind = .engineConstruction ∧
      error.sources = passed.map Error.display ++ own.display :: own.sources

theorem factory_errors_are_passed_on : PassesOnFactoryErrors Host Value where
  bind create key cause world refuses := by
    rcases refuses.bind with ⟨later, binds⟩
    exact ⟨_, later, binds, rfl, rfl, rfl, rfl⟩
  get _ _ _ _ _ _ _ _ _ named looks unbound refuses :=
    refuses.getServices named looks unbound
  start _ _ _ _ _ _ _ _ _ notStarted registered bound unbound refuses :=
    refuses.start notStarted registered bound unbound
  refused _ _ accounts _ _ _ _ refused := accounts.failed refused
  accountable factories := by
    have reports := factories.reported_reports
    exact ⟨fun key factory => PluginServices.bind_isAccountable (reports factory) key,
      Registry.getServices_isAccountable reports,
      fun registry factory => Registry.start_isAccountable (reports factory) registry⟩
  explained conduct makers depth world := by
    have reports := makers.reported_reports depth
    rcases conduct.reported_isExplained reports (world.noting []) with ⟨all, notes, explained⟩
    rw [World.notes_noting, List.nil_append] at notes
    rw [Conduct.reports, notes]
    exact explained
  relayed _ _ _ explained relays := relays.sources explained

/-! Services whose factory starts a registry. The factory of that start asks for the services
again, which are being bound, and is refused; everyone passes on what he is told. -/

namespace Relay

def answer : Except Payload (Except Error Unit) → Conduct Unit (Except Error Engine)
  | .error payload => .ends (.error payload)
  | .ok (.error error) => .ends (.ok (.error error))
  | .ok (.ok ()) => .ends (.ok (.ok (.recorder ⟨0⟩)))

def makers : Makers Unit := fun factory _ =>
  if factory = ⟨0⟩ then .starts ⟨0⟩ ⟨1⟩ answer else .binds ⟨0⟩ ⟨0⟩ answer

def world : World Unit :=
  let services : Dict (Key PluginServices) :=
    { entries := [("http", ⟨1⟩)], ordered := by decide }
  { services := ⟨[{ plugin := servlet, clock := ⟨0⟩ }, { plugin := http, clock := ⟨0⟩ }]⟩
    registries := ⟨[{ clock := ⟨0⟩, services }]⟩, host := () }

def refusal : Error :=
  PluginServices.refusal servlet

def failure : Error :=
  PluginServices.constructionError http refusal

/-- The bind and the start in its factory, and in the factory of that the bind again. -/
theorem reports_eq :
    (Conduct.binds ⟨0⟩ ⟨0⟩ .ends).reports makers 2 world =
      [.errand (.bind ⟨0⟩ ⟨0⟩)
        [.asking ⟨0⟩ servlet
          [.errand (.start ⟨0⟩ ⟨1⟩)
            [.asking ⟨1⟩ http [.errand (.bind ⟨0⟩ ⟨0⟩) [] (.ok (.error refusal))]
              (.ok (.error refusal))]
            (.ok (.error failure))]
          (.ok (.error failure))]
        (.ok (.error (PluginServices.constructionError servlet failure)))] := rfl

end Relay

/-- The innermost bind is refused because others bind, and that is the root cause of all the
failures around it. -/
theorem refusal_of_nested_bind_is_root_cause :
    ∃ report ∈ (Conduct.binds ⟨0⟩ ⟨0⟩ .ends).reports Relay.makers 2 Relay.world,
      Relay.refusal.kind = .alreadyBound ∧ ∃ error, report.FailsWith error ∧
        error.kind = .engineConstruction ∧
        error.sources = [Relay.failure.display, Relay.refusal.display] := by
  have passesOn : PassesOnFactoryErrors Unit (Except Error Unit) := factory_errors_are_passed_on
  have explained := passesOn.explained (.binds ⟨0⟩ ⟨0⟩ .ends) Relay.makers 2 Relay.world
  rw [Relay.reports_eq] at explained ⊢
  refine ⟨_, .head _, rfl, ?_⟩
  refine passesOn.relayed _ [Relay.failure] Relay.refusal (explained _ (.head _)) ?_
  exact .passed (.head _) (.head _) (.own (.head _))

end Instrumentation
