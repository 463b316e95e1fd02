import ChannelBus.Config
import ChannelBus.Handle
import ChannelBus.Json.Record
import ChannelBus.Json.Value
import ChannelBus.Stats

/-!
# The documents of a bus

How configurations, counters, handles and error codes are written and read. A configuration may
leave fields out, and they keep their defaults; counters and handles must be complete.
-/

namespace ChannelBus

/-! ## Configurations -/

namespace Config

/-- A field that holds a truth value. -/
def flagField (name : String) (set : Bool → Change) : Json.Field Config where
  name := name
  kind := .boolean fun value config => config.apply (set value)

/-- The field that holds the number of reserved slots. -/
def slotsField : Json.Field Config where
  name := "initial_slots"
  kind := .natural "usize" fun value config => config.apply (.initialSlots value)

/-- How a configuration is written. -/
def format : Json.Format Config where
  title := "BusConfig"
  fields :=
    [slotsField, flagField "batch" .batch, flagField "broadcast" .broadcast,
      flagField "telemetry" .telemetry]
  blank := {}
  complete := false

/-- Reads a configuration. -/
def ofJson (document : String) : Except Json.Failure Config :=
  Json.readAll format.read document

/-- A configuration as a document. -/
def toJson (config : Config) : Json.Value :=
  .object
    [("initial_slots", .number config.initialSlots),
      ("batch", .boolean config.batch),
      ("broadcast", .boolean config.broadcast),
      ("telemetry", .boolean config.telemetry)]

end Config

/-! ## Counters -/

namespace Stats

/-- A field that holds a counter. -/
def counterField (name : String) (set : Nat → Stats → Stats) : Json.Field Stats where
  name := name
  kind := .natural "u64" set

/-- How the counters are written. -/
def format : Json.Format Stats where
  title := "BusStats"
  fields :=
    [counterField "channels_opened" fun count stats => { stats with channelsOpened := count },
      counterField "channels_closed" fun count stats => { stats with channelsClosed := count },
      counterField "values_sent" fun count stats => { stats with valuesSent := count },
      counterField "values_received" fun count stats => { stats with valuesReceived := count },
      counterField "suspensions" fun count stats => { stats with suspensions := count },
      counterField "wakeups" fun count stats => { stats with wakeups := count },
      counterField "would_block" fun count stats => { stats with wouldBlock := count },
      counterField "no_channel" fun count stats => { stats with noChannel := count },
      counterField "not_implemented" fun count stats => { stats with notImplemented := count }]
  blank := {}
  complete := true

/-- Reads counters. -/
def ofJson (document : String) : Except Json.Failure Stats :=
  Json.readAll format.read document

/-- The counters as a document. -/
def toJson (stats : Stats) : Json.Value :=
  .object (stats.entries.map fun (name, count) => (name, .number count))

end Stats

/-! ## Handles -/

namespace Handle

/-- How a handle is written. -/
def format : Json.Format Handle where
  title := "ChannelHandle"
  fields := [{ name := "id", kind := .natural "usize" fun id _ => Handle.mk id }]
  blank := ⟨0⟩
  complete := true

/-- Reads a handle. -/
def ofJson (document : String) : Except Json.Failure Handle :=
  Json.readAll format.read document

/-- A handle as a document. -/
def toJson (handle : Handle) : Json.Value :=
  .object [("id", .number handle.id)]

end Handle

/-! ## Error codes -/

namespace ErrorCode

/-- The code that a name in a document stands for. -/
def named (name : String) : Except Json.Failure ErrorCode :=
  match ErrorCode.ofName? name with
  | some code => .ok code
  | none => .error (.mismatch (.unknownVariant name (ErrorCode.all.map ErrorCode.name)))

/-- Reads the name of a code. Nothing but a text can stand in its place. -/
def readName : Json.Reader ErrorCode := fun input =>
  match Json.skipSpace input with
  | [] => .error .ended
  | '"' :: rest =>
    match Json.readText rest with
    | .error failure => .error failure
    | .ok (name, rest) => (named name).map fun code => (code, rest)
  | _ => .error .malformed

/-- Reads a code that is written as an object: its name is the only key, with a null. -/
def readMember : Json.Reader ErrorCode := fun input =>
  match readName input with
  | .error failure => .error failure
  | .ok (code, rest) =>
    match Json.readToken ':' rest with
    | .error failure => .error failure
    | .ok (_, rest) =>
      match Json.readNull rest with
      | .error failure => .error failure
      | .ok (_, rest) => (Json.readToken '\x7d' rest).mapValue fun _ => code

/-- Reads a code, written as its name or as an object. -/
def read : Json.Reader ErrorCode := fun input =>
  match Json.skipSpace input with
  | '\x7b' :: rest => readMember rest
  | input => readName input

/-- Reads a code. -/
def ofJson (document : String) : Except Json.Failure ErrorCode :=
  Json.readAll read document

/-- A code as a document. -/
def toJson (code : ErrorCode) : Json.Value :=
  .text code.name

end ErrorCode

end ChannelBus
