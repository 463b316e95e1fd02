import ChannelBus.Proofs.Numbering
import ChannelBus.Workload.Run
import Mathlib.Algebra.Order.BigOperators.Group.List
import Mathlib.Algebra.Order.Ring.Nat

/-!
# The accounts of a workload

A ledger relates what the producers of a workload have passed on and what its consumers hold to the
buffer of the channel and to the history of all messages that ever left it. Three entries can be
made: messages enter the buffer, the oldest one leaves it for a consumer, or a message passes from a
producer to a consumer while the buffer is empty. Once the history is as long as it can get, every
message has left the buffer and is held by one consumer.
-/

open scoped List

namespace ChannelBus

/-- What producers have passed on and consumers hold, and where it is now. -/
structure Ledger (workload : Workload) (gone : Nat → Nat) (held : Nat → List Message)
    (buffer history : List Message) : Prop where
  /-- Messages can tell the producers apart. -/
  known : workload.producers ≤ Message.senders
  /-- There are places enough for the messages of each producer. -/
  numbered : workload.messages ≤ Message.places
  /-- Nobody passes on more than it has. -/
  within : ∀ producer, gone producer ≤ workload.messages
  /-- Only producers pass messages on. -/
  idle : ∀ producer, workload.producers ≤ producer → gone producer = 0
  /-- What left the buffer or is in it, in this order, is from each producer what it passed on. -/
  sent : ∀ producer, (history ++ buffer).filter (·.producer == producer) =
    Message.series producer 0 (gone producer)
  /-- What left the buffer is held by one worker each. -/
  shared : history ~ (List.range (workload.producers + workload.consumers)).flatMap held
  /-- Everyone holds messages in the order in which they left the buffer. -/
  ordered : ∀ receiver, (held receiver).Sublist history

namespace Ledger

variable {workload : Workload} {gone after : Nat → Nat} {held taken : Nat → List Message}
  {buffer history : List Message}

/-- Before anything happens. -/
theorem new (known : workload.producers ≤ Message.senders)
    (numbered : workload.messages ≤ Message.places) :
    Ledger workload (fun _ => 0) (fun _ => []) [] [] where
  known := known
  numbered := numbered
  within _ := Nat.zero_le _
  idle _ _ := rfl
  sent _ := rfl
  shared := by rw [List.flatMap_eq_nil_iff.mpr fun _ _ => rfl]
  ordered _ := List.nil_sublist _

/-! ## Entries -/

/-- A producer puts its next messages into the buffer. -/
theorem accept (ledger : Ledger workload gone held buffer history) {producer count : Nat}
    (inside : producer < workload.producers) (room : gone producer + count ≤ workload.messages)
    (more : ∀ other, after other = gone other + if other = producer then count else 0) :
    Ledger workload after held (buffer ++ Message.series producer (gone producer) count)
      history where
  known := ledger.known
  numbered := ledger.numbered
  within other := by
    have := ledger.within other
    rw [more]
    split
    case isTrue same => rwa [same]
    case isFalse => omega
  idle other outside := by
    rw [more, ledger.idle other outside, if_neg (by omega)]
  sent other := by
    have below : producer < Message.senders := Nat.lt_of_lt_of_le inside ledger.known
    have few : gone producer + count ≤ Message.places := Nat.le_trans room ledger.numbered
    rw [← List.append_assoc, List.filter_append, ledger.sent, more,
      Message.filter_series below few]
    split
    case isTrue same =>
      rw [same, Message.series_add, Nat.zero_add]
    case isFalse => rw [List.append_nil, Nat.add_zero]
  shared := ledger.shared
  ordered := ledger.ordered

/-- A worker takes the oldest message out of the buffer. -/
theorem release {message : Message}
    (ledger : Ledger workload gone held (message :: buffer) history) {receiver : Nat}
    (inside : receiver < workload.producers + workload.consumers)
    (more : ∀ other, taken other = held other ++ if other = receiver then [message] else []) :
    Ledger workload gone taken buffer (history ++ [message]) where
  known := ledger.known
  numbered := ledger.numbered
  within := ledger.within
  idle := ledger.idle
  sent other := by
    rw [List.append_assoc, List.singleton_append]
    exact ledger.sent other
  shared := by
    have one := Message.flatMap_range_pick (fun _ => [message]) receiver
      (workload.producers + workload.consumers)
    rw [if_pos inside] at one
    have same : taken = fun other => held other ++ if receiver = other then [message] else [] := by
      funext other
      rw [more]
      simp only [eq_comm]
    rw [same]
    apply (ledger.shared.append_right [message]).trans
    nth_rewrite 1 [← one]
    exact List.flatMap_append_perm _ _ _
  ordered other := by
    rw [more]
    split
    case isTrue => exact (ledger.ordered other).append (List.Sublist.refl _)
    case isFalse =>
      rw [List.append_nil]
      exact (ledger.ordered other).trans (List.sublist_append_left _ _)

/-- A producer passes its next message to a worker while nothing is buffered. -/
theorem pass (ledger : Ledger workload gone held [] history) {producer receiver : Nat}
    {message : Message} (inside : producer < workload.producers)
    (room : gone producer < workload.messages)
    (next : message = Message.pack producer (gone producer))
    (receives : receiver < workload.producers + workload.consumers)
    (fewer : ∀ other, after other = gone other + if other = producer then 1 else 0)
    (more : ∀ other, taken other = held other ++ if other = receiver then [message] else []) :
    Ledger workload after taken [] (history ++ [message]) := by
  have entered : Ledger workload after held [message] history := by
    rw [next]
    exact ledger.accept inside room fewer
  exact entered.release receives more

/-! ## Conclusions -/

/-- What left the buffer or is in it are the messages that the producers passed on, mixed. -/
theorem mixed (ledger : Ledger workload gone held buffer history) :
    history ++ buffer ~ (List.range workload.producers).flatMap fun producer =>
      Message.series producer 0 (gone producer) :=
  Message.perm_series ledger.known
    (fun producer => Nat.le_trans (ledger.within producer) ledger.numbered) ledger.idle ledger.sent

/-- There are as many messages as the producers passed on. -/
theorem length_eq (ledger : Ledger workload gone held buffer history) :
    history.length + buffer.length = ((List.range workload.producers).map gone).sum := by
  have same := ledger.mixed.length_eq
  rw [List.length_append, List.length_flatMap] at same
  simpa only [Message.length_series] using same

/-- As many messages as all producers have. -/
theorem sum_messages (workload : Workload) :
    ((List.range workload.producers).map fun _ => workload.messages).sum = workload.expected := by
  rw [List.map_const', List.sum_replicate_nat, List.length_range]
  rfl

/-- There are no more messages than expected. -/
theorem length_le (ledger : Ledger workload gone held buffer history) :
    history.length + buffer.length ≤ workload.expected := by
  rw [ledger.length_eq, ← sum_messages]
  exact List.sum_le_sum fun producer _ => ledger.within producer

/-- If everything that was expected is there, every producer has passed on all it has. -/
theorem gone_eq (ledger : Ledger workload gone held buffer history)
    (all : workload.expected ≤ history.length + buffer.length) {producer : Nat}
    (inside : producer < workload.producers) : gone producer = workload.messages := by
  by_contra short
  have less : gone producer < workload.messages :=
    Nat.lt_of_le_of_ne (ledger.within producer) short
  rw [ledger.length_eq, ← sum_messages] at all
  apply Nat.not_lt.mpr all
  apply List.sum_lt_sum
  · intro other _
    exact ledger.within other
  · exact ⟨producer, List.mem_range.mpr inside, less⟩

/-- If everything that was expected has left the buffer, nothing is in it. -/
theorem buffer_eq_nil (ledger : Ledger workload gone held buffer history)
    (all : workload.expected ≤ history.length) : buffer = [] := by
  have := ledger.length_le
  apply List.eq_nil_of_length_eq_zero
  omega

/-- What a worker holds is in order. -/
theorem ascending (ledger : Ledger workload gone held buffer history) (receiver : Nat) :
    Message.Ascending (held receiver) := by
  have ascending : Message.Ascending (history ++ buffer) := by
    apply Message.ascending_of_filter
    intro producer
    rw [ledger.sent]
    by_cases inside : producer < workload.producers
    · apply Message.ascending_series (Nat.lt_of_lt_of_le inside ledger.known)
      have := ledger.within producer
      have := ledger.numbered
      omega
    · rw [ledger.idle producer (by omega)]
      exact .nil
  exact ascending.sublist ((ledger.ordered receiver).trans (List.sublist_append_left _ _))

/-- If everything that was expected has left the buffer, the workers hold one message for each pair
of a producer and a place. -/
theorem decode_perm_product (ledger : Ledger workload gone held buffer history)
    (all : workload.expected ≤ history.length) :
    ((List.range (workload.producers + workload.consumers)).flatMap held).map Message.decode ~
      List.range workload.producers ×ˢ List.range workload.messages := by
  have parts : ∀ producer ∈ List.range workload.producers,
      (Message.series producer 0 (gone producer)).map Message.decode =
        (List.range workload.messages).map fun place => (producer, place) := by
    intro producer listed
    have inside := List.mem_range.mp listed
    have full : gone producer = workload.messages := ledger.gone_eq (by omega) inside
    have few : 0 + workload.messages ≤ Message.places := by
      have := ledger.numbered
      omega
    rw [full, Message.map_decode_series (Nat.lt_of_lt_of_le inside ledger.known) few]
    simp only [Nat.zero_add]
  have mixed := ledger.mixed
  rw [ledger.buffer_eq_nil all, List.append_nil] at mixed
  have decoded := (ledger.shared.symm.trans mixed).map Message.decode
  rw [List.map_flatMap, List.map_flatMap, List.flatMap_congr parts] at decoded
  rw [List.map_flatMap]
  exact decoded

end Ledger

end ChannelBus
