import ChannelBus.Document
import ChannelBus.Proofs.Library

/-!
# Documents say what they mean

The counters of a bus are read back from their document, and so is a configuration, through every
library that keeps its promises. A configuration may also be given in part: in whatever order the
fields come, however they are spelled and laid out, and whatever else stands between them, the
configuration that is read is the default one with these settings, as if they had been made one by
one in any order.

`Config.Says` is what a member of a document says about a configuration, in terms of the document
alone; `Json.IsDocument` puts the members between the brackets of an object.
-/

namespace ChannelBus

/-! ## Counters -/

namespace Stats

/-- Every counter: its name, how it is looked up and how it is replaced. -/
def counters : List (String × (Stats → Nat) × (Nat → Stats → Stats)) :=
  [("channels_opened", channelsOpened, fun count stats => { stats with channelsOpened := count }),
   ("channels_closed", channelsClosed, fun count stats => { stats with channelsClosed := count }),
   ("values_sent", valuesSent, fun count stats => { stats with valuesSent := count }),
   ("values_received", valuesReceived, fun count stats => { stats with valuesReceived := count }),
   ("suspensions", suspensions, fun count stats => { stats with suspensions := count }),
   ("wakeups", wakeups, fun count stats => { stats with wakeups := count }),
   ("would_block", wouldBlock, fun count stats => { stats with wouldBlock := count }),
   ("no_channel", noChannel, fun count stats => { stats with noChannel := count }),
   ("not_implemented", notImplemented, fun count stats => { stats with notImplemented := count })]

/-- The document lists the counters. -/
theorem toJson_eq (stats : Stats) : stats.toJson =
    .object (counters.map fun counter => (counter.1, .number (counter.2.1 stats))) :=
  rfl

/-- The reader knows the counters. -/
theorem fields_eq :
    format.fields = counters.map fun counter => counterField counter.1 counter.2.2 :=
  rfl

/-- The counters are what is shown of a record. -/
theorem entries_eq (stats : Stats) :
    stats.entries = counters.map fun counter => (counter.1, counter.2.1 stats) :=
  rfl

/-- The reader finds each counter by its name. -/
theorem field?_counters :
    ∀ counter ∈ counters, format.field? counter.1 = some (counterField counter.1 counter.2.2) := by
  intro counter listed
  simp only [counters, List.mem_cons, List.not_mem_nil, or_false] at listed
  rcases listed with rfl | rfl | rfl | rfl | rfl | rfl | rfl | rfl | rfl <;> rfl

/-- Every counter has a name of its own. -/
theorem nodup_counters : (counters.map (·.1)).Nodup := by
  decide

/-- Each counter with its value, as a change to a record. -/
def entriesOf (stats : Stats) : List (String × (Stats → Stats)) :=
  counters.map fun counter => (counter.1, counter.2.2 (counter.2.1 stats))

/-- The changes of all counters make up the record that they come from. -/
theorem changed_entriesOf (stats : Stats) : Json.changed format.blank stats.entriesOf = stats :=
  rfl

/-- The changes have the names of the counters. -/
theorem names_entriesOf (stats : Stats) : stats.entriesOf.map (·.1) = counters.map (·.1) := by
  rw [entriesOf, List.map_map]
  rfl

/-- The counters of a bus are read back from their document. -/
theorem read_toJson {library : Json.Library} (lawful : library.Lawful) (stats : Stats)
    (fit : ∀ entry ∈ stats.entries, entry.2 < Json.wordLimit) :
    library.read format (library.spread stats.toJson) = .ok stats := by
  have said : ∀ counter ∈ counters, ∀ key value, Json.Spells key counter.1.toList →
      Json.Shows value (.value (.number (counter.2.1 stats))) →
      format.Says key value [(counter.1, counter.2.2 (counter.2.1 stats))] := by
    intro counter listed key value spells shown
    have counted : (counter.1, counter.2.1 stats) ∈ stats.entries := by
      rw [entries_eq]
      exact List.mem_map.mpr ⟨counter, listed, rfl⟩
    cases shown
    exact .field spells (field?_counters counter listed) (.natural (fit _ counted))
  have shown := lawful.spread stats.toJson
  rw [toJson_eq] at shown
  have document : Json.IsDocument format.Says (library.spread stats.toJson).toList
      stats.entriesOf := shown.isDocument said
  have once : (stats.entriesOf.map (·.1)).Nodup := by
    rw [names_entriesOf]
    exact nodup_counters
  rw [lawful.read document once fun _ field known => ?_, changed_entriesOf]
  rw [fields_eq] at known
  obtain ⟨counter, listed, rfl⟩ := List.mem_map.mp known
  rw [names_entriesOf]
  exact List.mem_map_of_mem listed

end Stats

/-! ## Configurations -/

namespace Config

/-- The key of a setting. -/
def Change.key : Change → String
  | .initialSlots _ => "initial_slots"
  | .batch _ => "batch"
  | .broadcast _ => "broadcast"
  | .telemetry _ => "telemetry"

/-- The value of a setting. -/
def Change.value : Change → Json.Value
  | .initialSlots slots => .number slots
  | .batch enabled | .broadcast enabled | .telemetry enabled => .boolean enabled

/-- Whether the number of a setting fits a word. -/
def Change.Fits : Change → Prop
  | .initialSlots slots => slots < Json.wordLimit
  | .batch _ | .broadcast _ | .telemetry _ => True

/-- Whether a configuration has this setting. -/
def Has (config : Config) : Change → Prop
  | .initialSlots slots => config.initialSlots = slots
  | .batch enabled => config.batch = enabled
  | .broadcast enabled => config.broadcast = enabled
  | .telemetry enabled => config.telemetry = enabled

/-- All settings of a configuration. -/
def settings (config : Config) : List Change :=
  [.initialSlots config.initialSlots, .batch config.batch, .broadcast config.broadcast,
    .telemetry config.telemetry]

/-- What a member of a document says about a configuration: a setting, in any spelling of its key,
or nothing, with any value under a key that belongs to no setting. -/
inductive Says : List Char → List Char → List Change → Prop where
  /-- A setting. -/
  | setting {key : List Char} {change : Change} (spells : Json.Spells key change.key.toList)
    (fits : change.Fits) : Says key change.value.compact.toList [change]
  /-- Anything else. -/
  | other {key value : List Char} {name : String} (spells : Json.Spells key name.toList)
    (unknown : ∀ change : Change, change.key ≠ name) (isValue : Json.IsWritten .value value) :
    Says key value []

section Settings

variable {config : Config} {change : Change} {changes : List Change}

/-- The reader finds the field of a setting, and it takes its value. -/
theorem Change.takes (change : Change) (fits : change.Fits) :
    ∃ field, format.field? change.key = some field ∧
      field.kind.Takes change.value.compact.toList fun config => config.apply change := by
  cases change with
  | initialSlots slots => exact ⟨slotsField, rfl, .natural fits⟩
  | batch enabled => exact ⟨flagField "batch" .batch, rfl, .boolean enabled⟩
  | broadcast enabled => exact ⟨flagField "broadcast" .broadcast, rfl, .boolean enabled⟩
  | telemetry enabled => exact ⟨flagField "telemetry" .telemetry, rfl, .boolean enabled⟩

/-- No field is found under a key that belongs to no setting. -/
theorem field?_eq_none {name : String} (unknown : ∀ change : Change, change.key ≠ name) :
    format.field? name = none := by
  refine List.find?_eq_none.mpr fun field listed => ?_
  have named : ∃ change : Change, field.name = change.key := by
    simp only [format, List.mem_cons, List.not_mem_nil, or_false] at listed
    rcases listed with rfl | rfl | rfl | rfl
    · exact ⟨.initialSlots 0, rfl⟩
    · exact ⟨.batch true, rfl⟩
    · exact ⟨.broadcast true, rfl⟩
    · exact ⟨.telemetry true, rfl⟩
  obtain ⟨change, same⟩ := named
  simpa [same] using unknown change

/-- A setting as a change to a configuration. -/
def Change.entry (change : Change) : String × (Config → Config) :=
  (change.key, fun config => config.apply change)

/-- What a member says is what the reader makes of it. -/
theorem Says.read {key value : List Char} (means : Says key value changes) :
    format.Says key value (changes.map Change.entry) := by
  cases means with
  | @setting change spells fits =>
    obtain ⟨field, known, takes⟩ := change.takes fits
    exact .field spells known takes
  | other spells unknown isValue => exact .other spells (field?_eq_none unknown) isValue

/-- Settings are made one after the other. -/
theorem changed_map_entry (config : Config) (changes : List Change) :
    Json.changed config (changes.map Change.entry) = config.applyAll changes :=
  List.foldl_map

/-- A document with settings, each at most once, is read to the default configuration with these
settings. -/
theorem read_of_isDocument {library : Json.Library} (lawful : library.Lawful) {document : String}
    (written : Json.IsDocument Says document.toList changes)
    (once : (changes.map Change.key).Nodup) :
    library.read format document = .ok (({} : Config).applyAll changes) := by
  have names : (changes.map Change.entry).map (·.1) = changes.map Change.key := by
    rw [List.map_map]
    rfl
  have read := lawful.read (written.map Says.read) (names ▸ once) fun complete => by cases complete
  rw [changed_map_entry] at read
  exact read

/-- A setting is shown by its value alone. -/
theorem Change.says (change : Change) (fits : change.Fits) {key value : List Char}
    (spells : Json.Spells key change.key.toList) (shown : Json.Shows value (.value change.value)) :
    Says key value [change] := by
  have same : value = change.value.compact.toList := by
    cases change <;> cases shown <;> rfl
  exact same ▸ .setting spells fits

/-- A configuration is read back from its document. -/
theorem read_toJson {library : Json.Library} (lawful : library.Lawful) (config : Config)
    (fits : config.initialSlots < Json.wordLimit) :
    library.read format (library.compact config.toJson) = .ok config := by
  have fit : ∀ change ∈ config.settings, change.Fits := by
    simp [settings, Change.Fits, fits]
  have shown : Json.Shows (library.compact config.toJson).toList
      (.value (.object (config.settings.map fun change => (change.key, change.value)))) :=
    lawful.compact config.toJson
  have document := shown.isDocument fun change listed _ _ => change.says (fit change listed)
  rw [List.map_id'] at document
  exact read_of_isDocument lawful document (by simp [settings, Change.key])

/-- Settings under different keys can be made in either order. -/
theorem apply_comm {other : Change} (apart : change.key ≠ other.key) :
    (config.apply change).apply other = (config.apply other).apply change := by
  cases change <;> cases other <;> first | rfl | exact absurd rfl apart

/-- A setting that has just been made is there. -/
theorem has_apply (config : Config) (change : Change) : (config.apply change).Has change := by
  cases change <;> rfl

/-- A setting is not affected by one under another key. -/
theorem has_apply_iff {other : Change} (apart : change.key ≠ other.key) :
    (config.apply change).Has other ↔ config.Has other := by
  cases change <;> cases other <;> first | exact Iff.rfl | exact absurd rfl apart

/-- Settings under other keys do not affect a setting. -/
theorem has_applyAll_iff (apart : change.key ∉ changes.map Change.key) :
    (config.applyAll changes).Has change ↔ config.Has change := by
  induction changes generalizing config with
  | nil => exact Iff.rfl
  | cons first changes ih =>
    rw [List.map_cons, List.mem_cons, not_or] at apart
    exact (ih apart.2).trans (has_apply_iff (Ne.symm apart.1))

/-- Each of several settings under different keys is there in the end. -/
theorem has_applyAll (once : (changes.map Change.key).Nodup) (listed : change ∈ changes) :
    (config.applyAll changes).Has change := by
  induction changes generalizing config with
  | nil => exact absurd listed List.not_mem_nil
  | cons first changes ih =>
    rw [List.map_cons, List.nodup_cons] at once
    rcases List.mem_cons.mp listed with rfl | later
    · exact (has_applyAll_iff once.1).mpr (has_apply config change)
    · exact ih once.2 later

/-- A configuration has only one setting under each key. -/
theorem has_unique {other : Change} (has : config.Has change) (too : config.Has other)
    (same : change.key = other.key) : change = other := by
  cases change <;> cases other <;> simp_all [Has, Change.key]

/-- What several settings under different keys leave: themselves, and what was there under other
keys. -/
theorem has_applyAll_iff_mem (once : (changes.map Change.key).Nodup) :
    (config.applyAll changes).Has change ↔
      change ∈ changes ∨ change.key ∉ changes.map Change.key ∧ config.Has change := by
  constructor
  · intro has
    by_cases named : change.key ∈ changes.map Change.key
    · obtain ⟨made, listed, same⟩ := List.mem_map.mp named
      exact .inl (has_unique has (has_applyAll once listed) same.symm ▸ listed)
    · exact .inr ⟨named, (has_applyAll_iff named).mp has⟩
  · rintro (listed | ⟨unnamed, has⟩)
    · exact has_applyAll once listed
    · exact (has_applyAll_iff unnamed).mpr has

/-- Settings under different keys can be made in any order. -/
theorem applyAll_perm {others : List Change} (same : changes.Perm others)
    (once : (changes.map Change.key).Nodup) (config : Config) :
    config.applyAll changes = config.applyAll others := by
  induction same generalizing config with
  | nil => rfl
  | cons first _ ih =>
    rw [List.map_cons, List.nodup_cons] at once
    exact ih once.2 _
  | swap first second rest =>
    have apart : first.key ≠ second.key := fun equal => by simp [equal] at once
    simp only [applyAll, List.foldl_cons]
    rw [apply_comm (Ne.symm apart)]
  | trans early _ ihEarly ihLate =>
    rw [ihEarly once, ihLate ((early.map _).nodup_iff.mp once)]

end Settings

end Config

/-- Counters and configurations come back from the documents of a library. -/
structure Json.Library.RoundTrips (library : Json.Library) : Prop where
  /-- Counters are read back from their document. -/
  stats (stats : Stats) (fit : ∀ entry ∈ stats.entries, entry.2 < Json.wordLimit) :
    library.read Stats.format (library.spread stats.toJson) = .ok stats
  /-- A configuration is read back from its document. -/
  config (config : Config) (fits : config.initialSlots < Json.wordLimit) :
    library.read Config.format (library.compact config.toJson) = .ok config
  /-- A document that makes settings, each at most once, is read to the configuration that has these
  and is otherwise the default one. It is the one to which the settings lead in any order. -/
  settings (document : String) (changes : List Config.Change)
    (written : Json.IsDocument Config.Says document.toList changes)
    (once : (changes.map Config.Change.key).Nodup) :
    ∃ config, library.read Config.format document = .ok config ∧
      (∀ change, config.Has change ↔ change ∈ changes ∨
        change.key ∉ changes.map Config.Change.key ∧ ({} : Config).Has change) ∧
      ∀ others, changes.Perm others → ({} : Config).applyAll others = config

/-- Documents are read back through every lawful library. -/
theorem Json.Library.Lawful.roundTrips {library : Json.Library} (lawful : library.Lawful) :
    library.RoundTrips where
  stats := Stats.read_toJson lawful
  config := Config.read_toJson lawful
  settings := fun _ changes written once =>
    ⟨({} : Config).applyAll changes, Config.read_of_isDocument lawful written once,
      fun _ => Config.has_applyAll_iff_mem once,
      fun _ same => (Config.applyAll_perm same once {}).symm⟩

/-- Counters and configurations are read back from their documents, whatever lawful library writes
and reads them, and the one at hand is lawful. A document that makes settings, each at most once, is
read to the configuration that has these and is otherwise the default one, and so it is one that the
settings lead to when they are made in any order. -/
theorem documents_round_trip :
    (Json.library.Lawful ∧ ∀ library : Json.Library, library.Lawful → library.RoundTrips) ∧
    (∀ stats : Stats, (∀ entry ∈ stats.entries, entry.2 < Json.wordLimit) →
      Stats.ofJson stats.toJson.spread = .ok stats) ∧
    (∀ config : Config, config.initialSlots < Json.wordLimit →
      Config.ofJson config.toJson.compact = .ok config) ∧
    ∀ (document : String) (changes : List Config.Change),
      Json.IsDocument Config.Says document.toList changes →
      (changes.map Config.Change.key).Nodup →
      ∃ config, Config.ofJson document = .ok config ∧
        (∀ change, config.Has change ↔ change ∈ changes ∨
          change.key ∉ changes.map Config.Change.key ∧ ({} : Config).Has change) ∧
        ∀ others, changes.Perm others → ({} : Config).applyAll others = config := by
  obtain ⟨stats, config, settings⟩ := Json.library_lawful.roundTrips
  rw [Json.library_spread, Json.library_read] at stats
  rw [Json.library_compact, Json.library_read] at config
  rw [Json.library_read] at settings
  exact ⟨⟨Json.library_lawful, fun _ lawful => lawful.roundTrips⟩, stats, config, settings⟩

/-- Batches are turned off behind a nested value under an unknown key. -/
def nestedDocument : String :=
  "\x7b\"x\":[\x7b\"y\":-1\x7d], \"batch\" : false\x7d"

/-- The unknown member says nothing, and the other one makes a setting. -/
theorem isDocument_nestedDocument :
    Json.IsDocument Config.Says nestedDocument.toList [.batch false] := by
  have gap := Json.isBlank_space
  have whole : Json.IsWhole ['1'] := .positive rfl (by decide) fun _ none => by cases none
  have number := Json.IsWritten.number (.negative whole .absent .absent)
  have plain : Json.IsBody ['y'] := .plain (by decide) (by decide) (by decide) .done
  have inner := Json.IsWritten.lastMember Json.isBlank_nil plain Json.isBlank_nil Json.isBlank_nil
    number Json.isBlank_nil
  have nested := Json.IsWritten.array
    (.lastElement Json.isBlank_nil (.object inner) Json.isBlank_nil)
  have name : Json.Spells ['x'] ['x'] := Json.spells_self (by simp)
  have nobody : ∀ change : Config.Change, change.key ≠ "x" := fun change named => by
    cases change <;> simp [Config.Change.key] at named
  have unknown := Config.Says.other name nobody nested
  have key : Json.Spells ['b', 'a', 't', 'c', 'h'] ['b', 'a', 't', 'c', 'h'] :=
    Json.spells_self (by simp)
  have setting : Config.Says _ _ [.batch false] := .setting key True.intro
  have last := Json.IsMembers.last gap gap gap Json.isBlank_nil setting
  have members := Json.IsMembers.more Json.isBlank_nil Json.isBlank_nil Json.isBlank_nil
    Json.isBlank_nil unknown last
  exact .object Json.isBlank_nil members Json.isBlank_nil

/-- Counters, a configuration and the partial document are read, and so they are if configurations
are written in the spread layout too. -/
theorem documents_round_trip_of_nestedDocument :
    ({ Json.library with compact := Json.Value.spread } : Json.Library).RoundTrips ∧
      Stats.ofJson ({ wakeups := 7 } : Stats).toJson.spread = .ok { wakeups := 7 } ∧
      Config.ofJson (({} : Config).withInitialSlots 4).toJson.compact =
        .ok (({} : Config).withInitialSlots 4) ∧
      ∃ config, Config.ofJson nestedDocument = .ok config ∧ config.batch = false ∧
        config.broadcast = true := by
  obtain ⟨⟨lawful, through⟩, counters, configurations, documents⟩ := documents_round_trip
  obtain ⟨config, read, has, _⟩ :=
    documents nestedDocument [.batch false] isDocument_nestedDocument (by decide)
  refine ⟨through _ { lawful with compact := lawful.spread }, counters _ (by decide),
    configurations _ (by decide), config, read, ?_, ?_⟩
  · exact (has (.batch false)).mpr (.inl List.mem_cons_self)
  · exact (has (.broadcast true)).mpr (.inr ⟨by decide, rfl⟩)

end ChannelBus
