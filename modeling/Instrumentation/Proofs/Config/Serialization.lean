import Instrumentation.Config.Writer
import Instrumentation.Proofs.Config.Given

namespace Instrumentation

/-! Configurations that are written as JSON and read again. The entries of a map may be written
in any order. A number is written by its shortest digits, and one that is not finite by none;
so what is read again is the configuration itself, or it is refused, but it is no other
configuration. -/

open Json

/-! ## What is written -/

def Binary64.readBack (number : Binary64) : Except Fault (Number × List Char) :=
  match (numberLayout.render number).toList with
  | '-' :: unsigned => readNumber true unsigned
  | unsigned => readNumber false unsigned

/-- The number is read as it was written. -/
def Binary64.IsReadBack (number : Binary64) : Prop :=
  ∃ read, number.readBack = .ok (read, []) ∧ read.toBinary64 = number

theorem Binary64.isSpelled_of_isReadBack {number : Binary64} (same : number.IsReadBack) :
    (Property.double number).IsSpelled (numberLayout.render number).toList := by
  obtain ⟨read, reads, value⟩ := same
  have spelled (negative : Bool) (unsigned : List Char)
      (taken : readNumber negative unsigned = .ok (read, [])) :
      (Property.double number).IsSpelled (signed negative unsigned) := by
    rcases found : readNumeral .endInValue unsigned with fault | ⟨numeral, rest⟩
    · simp [readNumber, found, bind, Except.bind] at taken
    · rcases converted : Number.ofNumeral negative numeral with fault | other
      · simp [readNumber, found, converted, bind, Except.bind] at taken
      · simp only [readNumber, found, converted, bind, Except.bind, pure, Except.pure,
          Except.ok.injEq, Prod.mk.injEq] at taken
        obtain ⟨text, split, isSpelled⟩ := readNumeral_inv found
        rw [taken.2, List.append_nil] at split
        rw [split, ← value, ← taken.1]
        exact .double negative numeral text other isSpelled converted
  unfold readBack at reads
  split at reads
  · next unsigned text =>
      rw [text]
      exact spelled true unsigned reads
  · exact spelled false _ reads

abbrev Listing := List (String × List (String × Property))

def PluginConfig.documentListing (properties : List (String × Property)) : Document :=
  .object [("properties", .object (properties.map fun property =>
    (property.1, property.2.toDocument)))]

namespace EngineConfig

def IsListed (config : EngineConfig) (plugins : Listing) : Prop :=
  ∃ entries : List (String × PluginConfig), entries.Perm config.plugins.entries ∧
    List.Forall₂ (fun plugin entry =>
      plugin.1 = entry.1 ∧ plugin.2.Perm entry.2.properties.entries) plugins entries

def documentListing (config : EngineConfig) (plugins : Listing) : Document :=
  .object [
    ("enabled", .boolean config.enabled),
    ("max_completed_traces", .number (Nat.toDigits 10 config.maxCompletedTraces.toNat)),
    ("max_trace_attributes", .number (Nat.toDigits 10 config.maxTraceAttributes.toNat)),
    ("plugins", .object (plugins.map fun plugin =>
      (plugin.1, PluginConfig.documentListing plugin.2)))]

def listing (config : EngineConfig) : Listing :=
  config.plugins.entries.map fun plugin => (plugin.1, plugin.2.properties.entries)

theorem isListed_listing (config : EngineConfig) : config.IsListed config.listing := by
  refine ⟨config.plugins.entries, .refl _, ?_⟩
  rw [listing, List.forall₂_map_left_iff, List.forall₂_same]
  exact fun plugin _ => ⟨rfl, .refl _⟩

/-- The texts as which a configuration may be written. -/
def IsWritten (config : EngineConfig) (text : String) : Prop :=
  ∃ plugins, config.IsListed plugins ∧
    text = String.ofList (config.documentListing plugins).render

theorem isWritten_toJson (config : EngineConfig) : config.IsWritten config.toJson := by
  refine ⟨config.listing, config.isListed_listing, ?_⟩
  rw [toJson, documentListing, listing, List.map_map]
  rfl

def allProperties (config : EngineConfig) : List Property :=
  config.plugins.values.flatMap fun plugin => plugin.properties.values

def IsFinite (config : EngineConfig) : Prop :=
  ∀ number, .double number ∈ config.allProperties → number.isFinite = true

theorem allProperties_perm {config : EngineConfig} {plugins : Listing}
    (listed : config.IsListed plugins) :
    (plugins.flatMap fun plugin => plugin.2.map Prod.snd).Perm config.allProperties := by
  have ⟨entries, perm, same⟩ := listed
  have each : (plugins.flatMap fun plugin => plugin.2.map Prod.snd).Perm
      (entries.flatMap fun entry => entry.2.properties.values) := by
    clear perm listed
    induction same with
    | nil => exact .refl _
    | cons same _ induction =>
        rw [List.flatMap_cons, List.flatMap_cons]
        exact (same.2.map Prod.snd).append induction
  rw [allProperties, Dict.values, List.flatMap_map]
  exact each.trans (perm.flatMap_right _)

theorem mem_allProperties {config : EngineConfig} {plugins : Listing}
    (listed : config.IsListed plugins) {plugin : String × List (String × Property)}
    (member : plugin ∈ plugins) {property : String × Property} (present : property ∈ plugin.2) :
    property.2 ∈ config.allProperties := by
  apply (allProperties_perm listed).subset
  rw [List.mem_flatMap]
  exact ⟨plugin, member, List.mem_map_of_mem present⟩

end EngineConfig

/-! ## Words and switches -/

theorem Json.Document.render_boolean (value : Bool) :
    (Document.boolean value).render = spelledBoolean value := by
  cases value <;> rfl

theorem decimal_concat (digits : List Char) (last : Char) :
    decimal (digits ++ [last]) = decimal digits * 10 + digitValue last := by
  simp [decimal]

theorem digitValue_digitChar : ∀ digit < 10, digitValue (Nat.digitChar digit) = digit := by
  decide

theorem isDigits_toDigits (number : Nat) : IsDigits (Nat.toDigits 10 number) := by
  refine ⟨Nat.toDigits_ne_nil, fun digit member => ?_⟩
  exact Nat.isDigit_of_mem_toDigits (by decide) (by decide) member

theorem decimal_toDigits (number : Nat) : decimal (Nat.toDigits 10 number) = number := by
  induction number using Nat.strong_induction_on with
  | _ number induction =>
      by_cases single : number < 10
      · rw [Nat.toDigits_of_lt_base single]
        simp [decimal, digitValue_digitChar number single]
      · have shorter := induction (number / 10) (by omega)
        have last := digitValue_digitChar (number % 10) (Nat.mod_lt _ (by decide))
        rw [Nat.toDigits_of_base_le (by decide) (by omega), decimal_concat, shorter, last]
        omega

theorem head?_toDigits_ne {number : Nat} (positive : 0 < number) :
    (Nat.toDigits 10 number).head? ≠ some '0' := by
  induction number using Nat.strong_induction_on with
  | _ number induction =>
      by_cases single : number < 10
      · rw [Nat.toDigits_of_lt_base single]
        simp only [List.head?_cons, ne_eq, Option.some.injEq, Nat.digitChar_eq_zero]
        omega
      · rw [Nat.toDigits_of_base_le (by decide) (by omega),
          List.head?_append_of_ne_nil _ Nat.toDigits_ne_nil]
        apply induction (number / 10) <;> omega

theorem spellsWord_toDigits (word : UInt64) : SpellsWord word (Nat.toDigits 10 word.toNat) := by
  refine ⟨⟨isDigits_toDigits _, fun second rest same => ?_⟩, decimal_toDigits _⟩
  rcases Nat.eq_zero_or_pos word.toNat with zero | positive
  · rw [zero] at same
    cases same
  · have leading := head?_toDigits_ne positive
    rw [same] at leading
    exact leading rfl

/-! ## Reading it again -/

namespace Property

def reread : Property → Except Fault Property
  | double number =>
      if number.isFinite then .ok (.double number) else .error (.noVariant "PropertyValue")
  | boolean value => .ok (.boolean value)
  | text value => .ok (.text value)

def IsReadBack (property : Property) : Prop :=
  ∀ number, property = .double number → number.isFinite → number.IsReadBack

def IsRendered (property : Property) (text : List Char) : Prop :=
  text = property.toDocument.render ∧ property.IsReadBack

theorem read_rendered (depth : Nat) (property : Property) (text : List Char)
    (rendered : property.IsRendered text) :
    ReadsAs (Property.read depth) text property.reread := by
  have ⟨same, readBack⟩ := rendered
  rw [same]
  cases property with
  | boolean value =>
      have spelled := IsSpelled.boolean value
      rw [toDocument, Document.render_boolean]
      exact read_reads depth spelled
  | text value => exact read_reads depth (.text value _ (Document.spells_escape _))
  | double number =>
      rw [toDocument, Binary64.toDocument, reread]
      cases finite : number.isFinite with
      | true =>
          exact read_reads depth (Binary64.isSpelled_of_isReadBack (readBack number rfl finite))
      | false => exact read_null depth

end Property

theorem PluginConfig.isSpelled_documentListing {properties : List (String × Property)}
    (readBack : ∀ property ∈ properties, property.2.IsReadBack) :
    PluginConfig.IsSpelled Property.IsRendered (some properties)
      (documentListing properties).render := by
  have areProperties : IsObject (IsEntry Property.IsRendered) properties
      (Document.object (properties.map fun property =>
        (property.1, property.2.toDocument))).render := by
    apply Document.isObject_render
    rw [List.forall₂_map_right_iff, List.forall₂_same]
    intro property member
    exact ⟨_, ⟨rfl, readBack property member⟩, Document.isMember_render property.1 _⟩
  have isField := PluginField.IsSpelled.properties properties _ _ areProperties
    (Document.isMember_render "properties" _)
  exact ⟨[.properties properties], rfl, Document.isObject_render (.cons isField .nil)⟩

namespace EngineConfig

def given (config : EngineConfig) (plugins : Listing) : Given where
  enabled := some config.enabled
  maxCompletedTraces := some config.maxCompletedTraces
  maxTraceAttributes := some config.maxTraceAttributes
  plugins := some (plugins.map fun plugin => (plugin.1, some plugin.2))

theorem isSpelled_documentListing {config : EngineConfig} {plugins : Listing}
    (readBack : ∀ plugin ∈ plugins, ∀ property ∈ plugin.2, property.2.IsReadBack) :
    (config.given plugins).IsSpelled Property.IsRendered
      (String.ofList (config.documentListing plugins).render) := by
  have arePlugins : IsObject (IsEntry (PluginConfig.IsSpelled Property.IsRendered))
      (plugins.map fun plugin => (plugin.1, some plugin.2))
      (Document.object (plugins.map fun plugin =>
        (plugin.1, PluginConfig.documentListing plugin.2))).render := by
    apply Document.isObject_render
    rw [List.forall₂_map_left_iff, List.forall₂_map_right_iff, List.forall₂_same]
    intro plugin member
    have spelled := PluginConfig.isSpelled_documentListing (readBack plugin member)
    exact ⟨_, spelled, Document.isMember_render plugin.1 _⟩
  have isObject : IsObject (EngineField.IsSpelled Property.IsRendered)
      [.enabled config.enabled, .maxCompletedTraces config.maxCompletedTraces,
        .maxTraceAttributes config.maxTraceAttributes,
        .plugins (plugins.map fun plugin => (plugin.1, some plugin.2))]
      (config.documentListing plugins).render := by
    apply Document.isObject_render
    refine .cons ?_ (.cons ?_ (.cons ?_ (.cons ?_ .nil)))
    · rw [Document.render_boolean]
      exact .enabled _ _ (Document.isMember_render "enabled" _)
    · exact .maxCompletedTraces _ _ _ (spellsWord_toDigits _) (Document.isMember_render _ _)
    · exact .maxTraceAttributes _ _ _ (spellsWord_toDigits _) (Document.isMember_render _ _)
    · exact .plugins _ _ _ arePlugins (Document.isMember_render "plugins" _)
  refine .object [] _ [] _ nofun nofun ⟨rfl, rfl, rfl, rfl⟩ isObject ?_
  rw [String.toList_ofList, List.nil_append, List.append_nil]

theorem takenUp_of_finite {config : EngineConfig} {plugins : Listing}
    (listed : config.IsListed plugins) (finite : config.IsFinite) :
    ((config.given plugins).takenUp Property.reread none).map ofFields = .ok config := by
  have same (plugin : String × List (String × Property)) (member : plugin ∈ plugins)
      (property : String × Property) (present : property ∈ plugin.2) :
      property.2.reread = .ok property.2 := by
    have kept := mem_allProperties listed member present
    cases value : property.2 with
    | double number =>
        rw [value] at kept
        rw [Property.reread, if_pos (finite number kept)]
    | boolean _ => rfl
    | text _ => rfl
  have ⟨entries, perm, means⟩ := listed
  have taken : Dict.ofAll (PluginConfig.ofAll Property.reread)
      (plugins.map fun plugin => (plugin.1, some plugin.2)) = .ok (Dict.ofList entries) := by
    apply Dict.ofAll_of_forall₂
    rw [List.forall₂_map_left_iff]
    have both := (List.forall₂_and_left plugins entries).mpr ⟨same, means⟩
    refine both.imp fun plugin entry present => ⟨present.2.1, ?_⟩
    rw [Given.pluginOfAll_of_same present.1, Dict.ofList_of_perm present.2.2]
  rw [Given.takenUp_of_plugins Property.reread rfl, taken, Dict.ofList_of_perm perm]
  rfl

theorem takenUp_of_infinite {config : EngineConfig} {plugins : Listing}
    (listed : config.IsListed plugins) (infinite : ¬ config.IsFinite) :
    ∃ fault, ((config.given plugins).takenUp Property.reread none).map ofFields =
      .error fault := by
  obtain ⟨number, member, notFinite⟩ : ∃ number, .double number ∈ config.allProperties ∧
      number.isFinite = false := by
    simpa [IsFinite] using infinite
  obtain ⟨plugin, pluginMember, property⟩ :=
    List.mem_flatMap.mp ((allProperties_perm listed).symm.subset member)
  obtain ⟨entry, entryMember, same⟩ := List.mem_map.mp property
  have refused : entry.2.reread = .error (.noVariant "PropertyValue") := by
    rw [same, Property.reread, notFinite]
    rfl
  obtain ⟨fault, properties⟩ := Dict.ofAll_error entryMember refused
  have ofPlugin : PluginConfig.ofAll Property.reread (some plugin.2) = .error fault := by
    rw [PluginConfig.ofAll, PartialPlugin.withAll, properties]
    rfl
  have listedToo : (plugin.1, some plugin.2) ∈
      plugins.map fun plugin => (plugin.1, some plugin.2) :=
    List.mem_map.mpr ⟨plugin, pluginMember, rfl⟩
  obtain ⟨fault, taken⟩ := Dict.ofAll_error listedToo ofPlugin
  refine ⟨fault, ?_⟩
  rw [Given.takenUp_of_plugins Property.reread rfl, taken]
  rfl

theorem kind_of_validate {config : EngineConfig} {error : Error}
    (refused : config.validate = .error error) : error.kind = .configuration := by
  unfold validate at refused
  split at refused
  · cases refused
    rfl
  · split at refused <;> cases refused
    rfl

/-- A configuration is written, its maps in any order, and read again. If its numbers are finite,
it is itself again, or refused for what it would be refused for at once. Otherwise it is
refused. -/
theorem serialization_is_read_back (config : EngineConfig) (text : String)
    (written : config.IsWritten text)
    (readBack : ∀ number, .double number ∈ config.allProperties → number.isFinite →
      number.IsReadBack) :
    (config.IsFinite → config.validate = .ok () → ofJson text = .ok config) ∧
      (config.IsFinite → ∀ error, config.validate = .error error →
        ofJson text = .error error ∧ error.kind = .configuration) ∧
      (¬ config.IsFinite → ∃ error, ofJson text = .error error ∧ error.kind = .configuration) := by
  obtain ⟨plugins, listed, same⟩ := written
  have each (plugin : String × List (String × Property)) (member : plugin ∈ plugins)
      (property : String × Property) (present : property ∈ plugin.2) :
      property.2.IsReadBack := by
    have kept := mem_allProperties listed member present
    intro number same
    rw [same] at kept
    exact readBack number kept
  have spelled : (config.given plugins).IsSpelled Property.IsRendered text := by
    rw [same]
    exact isSpelled_documentListing each
  have read := Given.ofJson_of_spelled Property.read_rendered spelled
  refine ⟨fun finite valid => ?_, fun finite error refused => ?_, fun infinite => ?_⟩
  · have accepted : config.checked = .ok config := by
      rw [checked, valid]
      rfl
    rw [takenUp_of_finite listed finite] at read
    exact read.trans accepted
  · have alike : config.checked = .error error := by
      rw [checked, refused]
      rfl
    rw [takenUp_of_finite listed finite] at read
    exact ⟨read.trans alike, kind_of_validate refused⟩
  · obtain ⟨fault, taken⟩ := takenUp_of_infinite listed infinite
    rw [taken] at read
    exact ⟨.ofJson fault.message, read, rfl⟩

/-- The names and strings need escapes, and one looks like a value of another kind. -/
theorem quoted_strings_are_read_back :
    let properties : List (String × Property) :=
      [("a \"name\"", .text "żółw 🐢\n\x01"), ("flag", .text "true"),
        ("rate", .double ⟨0x3fb999999999999a⟩)]
    let config : EngineConfig := {
      enabled := false
      maxCompletedTraces := 18446744073709551615
      plugins := .ofList [("\t", { properties := .ofList properties }), ("empty", {})] }
    ofJson config.toJson = .ok config := by
  intro properties config
  have numbers : config.allProperties =
      [.text "żółw 🐢\n\x01", .text "true", .double ⟨0x3fb999999999999a⟩] := by
    decide +kernel
  have onlyTenth (number : Binary64) (member : .double number ∈ config.allProperties) :
      number = ⟨0x3fb999999999999a⟩ := by
    simpa [numbers] using member
  have tenth : (Binary64.mk 0x3fb999999999999a).IsReadBack :=
    ⟨.floating ⟨0x3fb999999999999a⟩, by decide +kernel, rfl⟩
  have finite : config.IsFinite := fun number member => by
    rw [onlyTenth number member]
    decide
  have read := serialization_is_read_back config config.toJson config.isWritten_toJson
    fun number member _ => by
      rw [onlyTenth number member]
      exact tenth
  exact read.1 finite rfl

end EngineConfig

end Instrumentation
