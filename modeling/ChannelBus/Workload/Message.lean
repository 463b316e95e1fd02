/-!
# Numbered messages

A message of a workload names the producer that sent it and its place among that producer's
messages, packed into one machine word: the producer in the upper twelve bits, the place in the
lower twenty.
-/

namespace ChannelBus

/-- The messages of all producers. -/
abbrev Message := UInt32

namespace Message

/-- The number of places that one producer's messages can have, `2 ^ 20`. -/
def places : Nat := 0x100000

/-- The number of producers that messages can tell apart, `2 ^ 12`. -/
def senders : Nat := 0x1000

/-- The message of a producer at a place. -/
def pack (producer place : Nat) : Message :=
  UInt32.ofNat (producer * places + place)

/-- The producer of a message. -/
def producer (message : Message) : Nat :=
  message.toNat / places

/-- The place of a message among its producer's messages. -/
def place (message : Message) : Nat :=
  message.toNat % places

/-- A packed message fits a word. -/
theorem toNat_pack {producer place : Nat} (known : producer < senders) (numbered : place < places) :
    (pack producer place).toNat = producer * places + place := by
  simp only [pack, UInt32.toNat_ofNat', senders, places] at *
  omega

/-- A message names the producer that it was packed for. -/
theorem producer_pack {producer place : Nat} (known : producer < senders)
    (numbered : place < places) : (pack producer place).producer = producer := by
  unfold Message.producer
  rw [toNat_pack known numbered]
  simp only [places] at *
  omega

/-- A message names the place that it was packed for. -/
theorem place_pack {producer place : Nat} (known : producer < senders) (numbered : place < places) :
    (pack producer place).place = place := by
  unfold Message.place
  rw [toNat_pack known numbered]
  simp only [places] at *
  omega

/-- The messages of a producer from one place on. -/
def series (producer first count : Nat) : List Message :=
  (List.range count).map fun offset => pack producer (first + offset)

/-- Whether a message comes after the latest that was received from its producer; those received
before are listed latest first. -/
def follows (message : Message) (earlier : List Message) : Bool :=
  (earlier.find? (·.producer == message.producer)).all (·.place < message.place)

end Message

end ChannelBus
