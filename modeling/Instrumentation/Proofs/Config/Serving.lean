import Instrumentation.Collector.View
import Instrumentation.Proofs.Program
import Instrumentation.Proofs.Text.Identities

namespace Instrumentation

/-! Which properties are served to which plugin. The configuration of a plugin is filed under
the spelling that was given for it, and a view looks it up by the identity of the plugin that
it serves. So a plugin is served what was filed last under its identity; what was filed under
a spelling with white space at its ends is kept, and served to no plugin. -/

variable {Host : Type}

/-! ## Configurations of plugins -/

namespace EngineConfig

def withPlugins (config : EngineConfig) (entries : List (String × PluginConfig)) :
    EngineConfig :=
  entries.foldl (fun config entry => config.withPlugin entry.1 entry.2) config

def property? (config : EngineConfig) (spelling name : String) : Option Property :=
  (config.plugin? spelling).bind (·.property? name)

theorem plugin?_withPlugin (config : EngineConfig) (spelling other : String)
    (plugin : PluginConfig) :
    (config.withPlugin spelling plugin).plugin? other =
      if other = spelling then some plugin else config.plugin? other :=
  Dict.find?_insert config.plugins spelling other plugin

theorem plugin?_withPlugins_of_apart (config : EngineConfig) {spelling : String}
    {entries : List (String × PluginConfig)} (apart : ∀ entry ∈ entries, entry.1 ≠ spelling) :
    (config.withPlugins entries).plugin? spelling = config.plugin? spelling := by
  induction entries generalizing config with
  | nil => rfl
  | cons entry rest induction =>
      rcases List.forall_mem_cons.1 apart with ⟨other, apart⟩
      have later := induction (config.withPlugin entry.1 entry.2) apart
      rw [plugin?_withPlugin, if_neg other.symm] at later
      exact later

/-- Whether a configuration is accepted has nothing to do with the plugins. -/
theorem validate_withPlugins (config : EngineConfig) (entries : List (String × PluginConfig)) :
    (config.withPlugins entries).validate = config.validate := by
  induction entries generalizing config with
  | nil => rfl
  | cons entry rest induction => exact induction (config.withPlugin entry.1 entry.2)

end EngineConfig

/-! ## Answers of views -/

namespace Property

/-! What is answered for a property, or for none: its value where a value of its kind is asked
for, and otherwise what is answered for a missing one. -/

def textAnswer : Option Property → Option String
  | some (.text value) => some value
  | _ => none

def booleanAnswer : Option Property → Bool
  | some (.boolean value) => value
  | _ => false

def doubleAnswer : Option Property → Option Binary64
  | some (.double value) => some value
  | _ => none

end Property

namespace CollectorView

structure Serves (view : CollectorView) (world : World Host) (name : String)
    (property : Option Property) : Prop where
  text : view.methods.stringProperty name world = (.ok (.ok (Property.textAnswer property)), world)
  boolean : view.methods.booleanProperty name world =
    (.ok (.ok (Property.booleanAnswer property)), world)
  double : view.methods.doubleProperty name world =
    (.ok (.ok (Property.doubleAnswer property)), world)

variable (view : CollectorView) (world : World Host) (name : String)

theorem property?_apply :
    view.property? name world =
      (.ok ((world.collectors.get view.collector).config.property? view.plugin.text name),
        world) := rfl

/-- A view serves what its collector was configured with for the identity of its plugin. -/
theorem serves_configured :
    view.Serves world name
      ((world.collectors.get view.collector).config.property? view.plugin.text name) where
  text := by
    refine (Program.bind_of_ok (view.property?_apply world name) _).trans ?_
    rcases EngineConfig.property? _ _ _ with _ | value | value | value <;> rfl
  boolean := by
    refine (Program.bind_of_ok (view.property?_apply world name) _).trans ?_
    rcases EngineConfig.property? _ _ _ with _ | value | value | value <;> rfl
  double := by
    refine (Program.bind_of_ok (view.property?_apply world name) _).trans ?_
    rcases EngineConfig.property? _ _ _ with _ | value | value | value <;> rfl

end CollectorView

/-! ## The statement -/

theorem Collector.new_of_valid {config : EngineConfig} (valid : config.validate = .ok ())
    (clock : Key Clock) : Collector.new config clock = .ok { config, clock } := by
  rw [Collector.new, valid]
  rfl

/-- A spelling is that of the identity itself just if there is no white space at its ends. -/
theorem PluginId.eq_text_iff {spelling : String} {plugin : PluginId}
    (named : PluginId.ofText spelling = .ok plugin) :
    plugin.text = spelling ↔ Text.trim spelling.toList = spelling.toList := by
  rw [← PluginId.ofText_eq_ok_iff.1 named, String.toList_inj]

/-- What is filed under a spelling of an identity is served to the plugin if the spelling has
no white space at its ends, and otherwise the plugin is served what it was without. What is
filed besides under anything but the identity changes nothing. -/
theorem views_serve_properties_of_identity (spelling : String) (plugin : PluginId)
    (named : PluginId.ofText spelling = .ok plugin) (config : EngineConfig)
    (valid : config.validate = .ok ()) (own : PluginConfig)
    (others : List (String × PluginConfig)) (apart : ∀ entry ∈ others, entry.1 ≠ plugin.text)
    (clock : Key Clock) :
    ∃ collector,
      Collector.new ((config.withPlugin spelling own).withPlugins others) clock =
        .ok collector ∧
      ∀ (world : World Host) (key : Key Collector),
        (world.collectors.get key).config = collector.config → ∀ name,
        (CollectorView.mk key plugin).Serves world name
          (if Text.trim spelling.toList = spelling.toList then own.property? name
          else config.property? plugin.text name) := by
  have accepted : ((config.withPlugin spelling own).withPlugins others).validate = .ok () :=
    (EngineConfig.validate_withPlugins _ others).trans valid
  refine ⟨_, Collector.new_of_valid accepted clock, ?_⟩
  intro world key configured name
  have serves := CollectorView.serves_configured ⟨key, plugin⟩ world name
  rw [configured, EngineConfig.property?, EngineConfig.plugin?_withPlugins_of_apart _ apart,
    EngineConfig.plugin?_withPlugin] at serves
  by_cases trimmed : Text.trim spelling.toList = spelling.toList
  · rw [if_pos ((PluginId.eq_text_iff named).2 trimmed)] at serves
    rw [if_pos trimmed]
    exact serves
  · rw [if_neg (mt (PluginId.eq_text_iff named).1 trimmed)] at serves
    rw [if_neg trimmed]
    exact serves

def sqlPlugin : PluginId :=
  ⟨"sql", by decide, by decide⟩

def fullMode : PluginConfig :=
  PluginConfig.withProperty {} "mode" (.text "full")

def collecting (config : EngineConfig) : World Unit :=
  { collectors := ⟨[{ config, clock := ⟨0⟩ }]⟩, host := () }

/-- Of two spellings of one identity it is the identity itself that counts, even if the other
comes later. -/
theorem padded_spelling_leaves_properties :
    let config := (EngineConfig.default.withPlugin "sql" fullMode).withPlugins [(" sql ", {})]
    PluginId.ofText "sql" = .ok sqlPlugin ∧ EngineConfig.default.validate = .ok () ∧
      (CollectorView.mk ⟨0⟩ sqlPlugin).Serves (collecting config) "mode" (some (.text "full")) := by
  intro config
  have named : PluginId.ofText "sql" = .ok sqlPlugin := PluginId.ofText_eq_ok_iff.2 (by decide)
  have ⟨collector, accepted, serves⟩ := @views_serve_properties_of_identity Unit "sql" sqlPlugin
    named EngineConfig.default rfl fullMode [(" sql ", {})] (by decide) ⟨0⟩
  cases accepted
  exact ⟨named, rfl, serves (collecting config) ⟨0⟩ rfl "mode"⟩

/-- What is filed under a spelling with white space at its ends is not served to the plugin
that is named by this spelling. -/
theorem padded_spelling_is_not_served :
    PluginId.ofText " sql " = .ok sqlPlugin ∧ EngineConfig.default.validate = .ok () ∧
    ∃ collector,
      Collector.new (EngineConfig.default.withPlugin " sql " fullMode) ⟨0⟩ = .ok collector ∧
      fullMode.property? "mode" = some (.text "full") ∧
      ¬ (CollectorView.mk ⟨0⟩ sqlPlugin).Serves (collecting collector.config) "mode"
        (fullMode.property? "mode") := by
  have named : PluginId.ofText " sql " = .ok sqlPlugin := PluginId.ofText_eq_ok_iff.2 (by decide)
  refine ⟨named, rfl, _, Collector.new_of_valid rfl ⟨0⟩, rfl, ?_⟩
  intro served
  have unserved := (CollectorView.serves_configured ⟨⟨0⟩, sqlPlugin⟩
    (collecting (EngineConfig.default.withPlugin " sql " fullMode)) "mode").text
  cases unserved.symm.trans served.text

end Instrumentation
