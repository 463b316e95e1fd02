/-!
# Bus settings

Every setting has a default, so a partial description of a configuration is enough.
-/

namespace ChannelBus

/-- The settings of one bus. -/
structure Config where
  /-- Registry slots reserved when the bus is created. -/
  initialSlots : Nat := 0
  /-- Enables the batch operations. -/
  batch : Bool := true
  /-- Enables the broadcast operations. -/
  broadcast : Bool := true
  /-- Keeps the counters of the bus up to date. -/
  telemetry : Bool := true
deriving DecidableEq

namespace Config

/-- Replaces the number of reserved slots. -/
def withInitialSlots (config : Config) (slots : Nat) : Config :=
  { config with initialSlots := slots }

/-- Enables or disables batches. -/
def withBatch (config : Config) (enabled : Bool) : Config :=
  { config with batch := enabled }

/-- Enables or disables broadcasts. -/
def withBroadcast (config : Config) (enabled : Bool) : Config :=
  { config with broadcast := enabled }

/-- Enables or disables the counters. -/
def withTelemetry (config : Config) (enabled : Bool) : Config :=
  { config with telemetry := enabled }

/-- The replacement of one setting by a new value. -/
inductive Change where
  /-- A new number of reserved slots. -/
  | initialSlots (slots : Nat)
  /-- Batches on or off. -/
  | batch (enabled : Bool)
  /-- Broadcasts on or off. -/
  | broadcast (enabled : Bool)
  /-- Counters on or off. -/
  | telemetry (enabled : Bool)
deriving DecidableEq

/-- Applies one replacement. -/
def apply (config : Config) : Change → Config
  | .initialSlots slots => config.withInitialSlots slots
  | .batch enabled => config.withBatch enabled
  | .broadcast enabled => config.withBroadcast enabled
  | .telemetry enabled => config.withTelemetry enabled

/-- Applies replacements from first to last. -/
def applyAll (config : Config) (changes : List Change) : Config :=
  changes.foldl apply config

end Config

end ChannelBus
