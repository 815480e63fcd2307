import Instrumentation.Proofs.Config.Fields
import Instrumentation.Proofs.Config.Serving
import Instrumentation.Proofs.Json.Rendering
import Instrumentation.Scenario.Step

namespace Instrumentation

/-! Configurations of which only some fields are given. The same fields give the same
configuration whether they are written as JSON or handed to the builder, and a text is refused
for what the configuration would be refused for. So whatever is read from a text is good for a
collector. -/

open Json

def EngineConfig.checked (config : EngineConfig) : Except Error EngineConfig := do
  config.validate
  return config

/-! ## Fields that are given -/

/-- A choice of fields. Those of a plugin are its properties, which may be left out as well. -/
structure Given where
  enabled : Option Bool := none
  maxCompletedTraces : Option UInt64 := none
  maxTraceAttributes : Option UInt64 := none
  plugins : Option (List (String × Option (List (String × Property)))) := none

namespace Given

/-- Each field that is given is listed once, and the others are not, in any order and among
fields of other names. -/
structure AreListed (given : Given) (fields : List EngineField) : Prop where
  enabled : fields.filterMap EngineField.enabled? = given.enabled.toList
  maxCompletedTraces :
    fields.filterMap EngineField.maxCompletedTraces? = given.maxCompletedTraces.toList
  maxTraceAttributes :
    fields.filterMap EngineField.maxTraceAttributes? = given.maxTraceAttributes.toList
  plugins : fields.filterMap EngineField.plugins? = given.plugins.toList

inductive IsSpelled (spells : Property → List Char → Prop) (given : Given) (text : String) : Prop
  | object (before object after : List Char) (fields : List EngineField)
      (blankBefore : IsBlank before) (blankAfter : IsBlank after)
      (areListed : given.AreListed fields)
      (isObject : IsObject (EngineField.IsSpelled spells) fields object)
      (whole : text.toList = before ++ (object ++ after))

def source (given : Given) : Scenario.ConfigSource :=
  .build given.enabled given.maxCompletedTraces given.maxTraceAttributes
    ((given.plugins.getD []).map fun plugin => (plugin.1, plugin.2.getD []))

/-! ## Taking up what is given -/

def takenUp (stands : Property → Except Fault Property) (given : Given)
    (plugins : Option (Dict PluginConfig)) : Except Fault PartialEngine :=
  let fields : PartialEngine :=
    { enabled := given.enabled, maxCompletedTraces := given.maxCompletedTraces,
      maxTraceAttributes := given.maxTraceAttributes, plugins }
  match given.plugins with
  | some entries =>
      (Dict.ofAll (PluginConfig.ofAll stands) entries).map fun plugins =>
        { fields with plugins := some plugins }
  | none => .ok fields

structure Completes (given : Given) (start : PartialEngine) (fields : List EngineField) :
    Prop where
  enabled : start.enabled.toList ++ fields.filterMap EngineField.enabled? = given.enabled.toList
  maxCompletedTraces : start.maxCompletedTraces.toList ++
    fields.filterMap EngineField.maxCompletedTraces? = given.maxCompletedTraces.toList
  maxTraceAttributes : start.maxTraceAttributes.toList ++
    fields.filterMap EngineField.maxTraceAttributes? = given.maxTraceAttributes.toList
  plugins : fields.filterMap EngineField.plugins? = given.plugins.toList
  free : given.plugins.isSome → start.plugins = none

theorem takenUp_of_plugins (stands : Property → Except Fault Property) {given : Given}
    {entries : List (String × Option (List (String × Property)))}
    (present : given.plugins = some entries) (plugins : Option (Dict PluginConfig)) :
    given.takenUp stands plugins =
      (Dict.ofAll (PluginConfig.ofAll stands) entries).map fun plugins =>
        { enabled := given.enabled, maxCompletedTraces := given.maxCompletedTraces,
          maxTraceAttributes := given.maxTraceAttributes, plugins := some plugins } := by
  rw [takenUp, present]

theorem only_one {Value : Type} {present given : Option Value} {value : Value}
    {rest : List Value} (same : present.toList ++ value :: rest = given.toList) :
    present = none ∧ (some value).toList ++ rest = given.toList := by
  cases present <;> cases given <;> simp_all

theorem first_of_toList {Value : Type} {given : Option Value} {value : Value}
    {rest : List Value} (same : value :: rest = given.toList) :
    given = some value ∧ rest = [] := by
  cases given <;> simp_all

theorem given_of_nothing {Value : Type} {present given : Option Value}
    (same : present.toList ++ [] = given.toList) : given = present := by
  cases present <;> cases given <;> simp_all

theorem foldlM_put {stands : Property → Except Fault Property} {fields : List EngineField}
    (start : PartialEngine) (given : Given) (completes : given.Completes start fields) :
    fields.foldlM (EngineField.put stands) start = given.takenUp stands start.plugins := by
  induction fields generalizing start given with
  | nil =>
      have noPlugins : given.plugins = none := Option.toList_eq_nil_iff.mp completes.plugins.symm
      rw [takenUp, noPlugins, given_of_nothing completes.enabled,
        given_of_nothing completes.maxCompletedTraces,
        given_of_nothing completes.maxTraceAttributes]
      rfl
  | cons field fields induction =>
      obtain ⟨enabled, traces, attributes, plugins, free⟩ := completes
      rw [List.foldlM_cons]
      cases field with
      | other =>
          exact induction start given ⟨enabled, traces, attributes, plugins, free⟩
      | enabled value =>
          obtain ⟨absent, enabled⟩ := only_one enabled
          rw [EngineField.put, onlyOnce, absent]
          exact induction { start with enabled := some value } given
            ⟨enabled, traces, attributes, plugins, free⟩
      | maxCompletedTraces value =>
          obtain ⟨absent, traces⟩ := only_one traces
          rw [EngineField.put, onlyOnce, absent]
          exact induction { start with maxCompletedTraces := some value } given
            ⟨enabled, traces, attributes, plugins, free⟩
      | maxTraceAttributes value =>
          obtain ⟨absent, attributes⟩ := only_one attributes
          rw [EngineField.put, onlyOnce, absent]
          exact induction { start with maxTraceAttributes := some value } given
            ⟨enabled, traces, attributes, plugins, free⟩
      | plugins entries =>
          obtain ⟨present, others⟩ := first_of_toList plugins
          rw [EngineField.put, onlyOnce, free (by rw [present]; rfl),
            takenUp_of_plugins stands present]
          cases Dict.ofAll (PluginConfig.ofAll stands) entries with
          | error fault => rfl
          | ok dict =>
              exact induction { start with plugins := some dict } { given with plugins := none }
                ⟨enabled, traces, attributes, others, by simp⟩

/-- What is read of a text in which these fields are given. -/
theorem ofJson_of_spelled {spells : Property → List Char → Prop}
    {stands : Property → Except Fault Property}
    (reads : ∀ depth property text, spells property text →
      ReadsAs (Property.read depth) text (stands property))
    {given : Given} {text : String} (spelled : given.IsSpelled spells text) :
    EngineConfig.ofJson text =
      match (given.takenUp stands none).map EngineConfig.ofFields with
      | .error fault => .error (.ofJson fault.message)
      | .ok config => config.checked := by
  cases spelled with
  | object before object after fields blankBefore blankAfter areListed isObject whole =>
      have completes : given.Completes {} fields :=
        ⟨areListed.enabled, areListed.maxCompletedTraces, areListed.maxTraceAttributes,
          areListed.plugins, fun _ => rfl⟩
      have closes : Closes (after ++ []) := closes_blank_append blankAfter nofun
      have ended : skipBlank (after ++ []) = [] := skipBlank_append blankAfter []
      rw [List.append_nil] at closes ended
      have read := EngineConfig.read_reads reads isObject before after blankBefore closes
      rw [foldlM_put {} given completes] at read
      have document : readDocument EngineConfig.read text =
          (given.takenUp stands none).map EngineConfig.ofFields := by
        rw [readDocument, whole, read]
        cases given.takenUp stands none with
        | error fault => rfl
        | ok fields =>
            simp only [Except.map, bind, Except.bind, ended]
            rfl
      rw [EngineConfig.ofJson, document]
      cases given.takenUp stands none <;> rfl

/-! ## What is built -/

def config (given : Given) : EngineConfig where
  enabled := given.enabled.getD true
  maxCompletedTraces := given.maxCompletedTraces.getD 1000
  maxTraceAttributes := given.maxTraceAttributes.getD 64
  plugins := .ofList <| (given.plugins.getD []).map fun plugin =>
    (plugin.1, { properties := .ofList (plugin.2.getD []) })

theorem pluginOfAll_of_same {stands : Property → Except Fault Property}
    {entries : List (String × Property)}
    (same : ∀ entry ∈ entries, stands entry.2 = .ok entry.2) :
    PluginConfig.ofAll stands (some entries) = .ok { properties := .ofList entries } := by
  have taken := @Dict.ofAll_ok _ _ stands id entries same
  rw [PluginConfig.ofAll, PartialPlugin.withAll, taken]
  simp [Except.map, PluginConfig.ofFields]

theorem pluginOfAll_ok (properties : Option (List (String × Property))) :
    PluginConfig.ofAll .ok properties = .ok { properties := .ofList (properties.getD []) } := by
  cases properties with
  | none => rfl
  | some entries => exact pluginOfAll_of_same fun _ _ => rfl

/-- What is taken up of a text is what is built. -/
theorem takenUp_ok (given : Given) :
    (given.takenUp .ok none).map EngineConfig.ofFields = .ok given.config := by
  cases present : given.plugins with
  | none =>
      rw [takenUp, present, config, present]
      rfl
  | some entries =>
      have taken := @Dict.ofAll_ok _ _ (PluginConfig.ofAll .ok)
        (fun properties => { properties := .ofList (properties.getD []) }) entries
        fun plugin _ => pluginOfAll_ok plugin.2
      rw [takenUp_of_plugins .ok present, taken, config, present]
      rfl

theorem buildPlugin_eq (properties : List (String × Property)) :
    Scenario.ConfigSource.buildPlugin properties = { properties := .ofList properties } := by
  have folded (config : PluginConfig) :
      properties.foldl (fun config property => config.withProperty property.1 property.2) config =
        { properties := properties.foldl (fun dict entry => dict.insert entry.1 entry.2)
            config.properties } := by
    induction properties generalizing config with
    | nil => rfl
    | cons property properties induction =>
        exact induction (config.withProperty property.1 property.2)
  exact folded {}

theorem withPlugins_eq (config : EngineConfig) (entries : List (String × PluginConfig)) :
    config.withPlugins entries =
      { config with
        plugins := entries.foldl (fun dict entry => dict.insert entry.1 entry.2)
          config.plugins } := by
  induction entries generalizing config with
  | nil => rfl
  | cons entry entries induction => exact induction (config.withPlugin entry.1 entry.2)

theorem load_source (given : Given) : given.source.load = .ok given.config := by
  have built (plugins : List (String × Option (List (String × Property))))
      (config : EngineConfig) :
      (plugins.map fun plugin => (plugin.1, plugin.2.getD [])).foldl (fun config plugin =>
        config.withPlugin plugin.1 (Scenario.ConfigSource.buildPlugin plugin.2)) config =
      config.withPlugins (plugins.map fun plugin =>
        (plugin.1, { properties := .ofList (plugin.2.getD []) })) := by
    rw [EngineConfig.withPlugins, List.foldl_map, List.foldl_map]
    simp only [buildPlugin_eq]
  rw [source, Scenario.ConfigSource.load, built, withPlugins_eq]
  rfl

end Given

/-! ## The statement -/

theorem EngineConfig.valid_of_checked {config read : EngineConfig}
    (accepted : config.checked = .ok read) : read.validate = .ok () := by
  cases valid : config.validate with
  | error error =>
      rw [checked, valid] at accepted
      cases accepted
  | ok =>
      rw [checked, valid] at accepted
      cases accepted
      exact valid

theorem EngineConfig.valid_of_ofJson {text : String} {config : EngineConfig}
    (read : EngineConfig.ofJson text = .ok config) : config.validate = .ok () := by
  unfold ofJson at read
  split at read
  · cases read
  · exact valid_of_checked read

theorem EngineConfig.capacities_of_valid {config : EngineConfig}
    (valid : config.validate = .ok ()) :
    0 < config.maxCompletedTraces ∧ 0 < config.maxTraceAttributes := by
  unfold validate at valid
  split at valid
  · cases valid
  · split at valid
    · cases valid
    · next traces attributes =>
        exact ⟨UInt64.pos_iff_ne_zero.mpr traces, UInt64.pos_iff_ne_zero.mpr attributes⟩

/-- A text in which some fields are given is read as what the builder makes of the same fields,
or refused for what that would be refused for. Whatever is read of a text has room for traces
and attributes, and a collector accepts it. -/
theorem json_is_read_as_built (given : Given) (text : String)
    (spelled : given.IsSpelled Property.IsSpelled text) :
    given.source.load = .ok given.config ∧
      (Scenario.ConfigSource.json text).load = given.config.checked ∧
      ∀ other config, (Scenario.ConfigSource.json other).load = .ok config →
        0 < config.maxCompletedTraces ∧ 0 < config.maxTraceAttributes ∧
          ∀ clock, Collector.new config clock = .ok { config, clock } := by
  refine ⟨given.load_source, ?_, fun other config read => ?_⟩
  · have reads (depth : Nat) (property : Property) (text : List Char)
        (spelled : property.IsSpelled text) :
        ReadsAs (Property.read depth) text (.ok property) :=
      Property.read_reads depth spelled
    have read := Given.ofJson_of_spelled reads spelled
    rw [given.takenUp_ok] at read
    exact read
  · have valid := EngineConfig.valid_of_ofJson read
    have ⟨traces, attributes⟩ := EngineConfig.capacities_of_valid valid
    exact ⟨traces, attributes, fun clock => Collector.new_of_valid valid clock⟩

/-- The fields stand in another order, with others between them. -/
theorem mixed_fields_are_read_as_built :
    let entries : List (String × Property) := [("capture", .boolean true), ("mode", .text "full")]
    let given : Given := { maxCompletedTraces := some 5, plugins := some [("jdbc", some entries)] }
    let properties : Document := .object [("capture", .boolean true), ("mode", .text "full")]
    let plugins : Document := .object [("jdbc", .object [("properties", properties)])]
    let document : Document := .object
      [("note", .list [.null]), ("plugins", plugins), ("max_completed_traces", .number ['5'])]
    (Scenario.ConfigSource.json (String.ofList document.render)).load = .ok given.config := by
  intro entries given properties plugins document
  let fields : List EngineField :=
    [.other, .plugins [("jdbc", some entries)], .maxCompletedTraces 5]
  have note : IsPart .value (Document.list [.null]).render :=
    .bracketed .list _ <| .more .list true [] _ [] (.first [] nofun) (.element _ .null)
      (.nothing .list false [] nofun)
  have areEntries : IsObject (IsEntry Property.IsSpelled) entries properties.render :=
    Document.isObject_render <|
      .cons ⟨_, .boolean true, Document.isMember_render "capture" _⟩ <|
      .cons ⟨_, .text "full" _ (Document.spells_escape _), Document.isMember_render "mode" _⟩ .nil
  have isPlugin : PluginConfig.IsSpelled Property.IsSpelled (some entries)
      (Document.object [("properties", properties)]).render :=
    ⟨[.properties entries], rfl, Document.isObject_render <|
      .cons (.properties entries _ _ areEntries (Document.isMember_render "properties" _)) .nil⟩
  have arePlugins : IsObject (IsEntry (PluginConfig.IsSpelled Property.IsSpelled))
      [("jdbc", some entries)] plugins.render :=
    Document.isObject_render <| .cons ⟨_, isPlugin, Document.isMember_render "jdbc" _⟩ .nil
  have five : SpellsWord 5 ['5'] := ⟨⟨⟨nofun, by simp [isDigit]⟩, nofun⟩, rfl⟩
  have isObject : IsObject (EngineField.IsSpelled Property.IsSpelled) fields document.render := by
    apply Document.isObject_render
    refine .cons ?_ (.cons ?_ (.cons ?_ .nil))
    · exact .other "note" _ _ (by decide) note (Document.isMember_render "note" _)
    · exact .plugins _ _ _ arePlugins (Document.isMember_render "plugins" _)
    · exact .maxCompletedTraces 5 _ _ five (Document.isMember_render "max_completed_traces" _)
  have spelled : given.IsSpelled Property.IsSpelled (String.ofList document.render) := by
    refine .object [] _ [] fields nofun nofun ⟨rfl, rfl, rfl, rfl⟩ isObject ?_
    rw [String.toList_ofList, List.nil_append, List.append_nil]
  exact (json_is_read_as_built given _ spelled).2.1

/-- The text of a number may be refused although the number is less than the greatest. -/
theorem number_below_greatest_is_refused :
    let greatest : Binary64 := ⟨0x7fefffffffffffff⟩
    let given : Given := { plugins := some [("a", some [("x", .double greatest)])] }
    let text := "\x7b\"plugins\":\x7b\"a\":\x7b\"properties\":" ++
      "\x7b\"x\":1.797693134862315708e308\x7d\x7d\x7d\x7d"
    greatest.isFinite ∧
      1797693134862315708 * Nat.pow 10 290 * Binary64.unitsInOne < greatest.units ∧
      given.config.validate = .ok () ∧
      ∃ error, (Scenario.ConfigSource.json text).load = .error error := by
  intro greatest given text
  refine ⟨by decide +kernel, by decide +kernel, rfl, ?_⟩
  have refused : (Scenario.ConfigSource.json text).load.toBool = false := by decide +kernel
  cases load : (Scenario.ConfigSource.json text).load with
  | error error => exact ⟨error, rfl⟩
  | ok config =>
      rw [load] at refused
      cases refused

end Instrumentation
