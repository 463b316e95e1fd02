import ChannelBus.Workload.Message
import Mathlib.Data.List.Perm.Basic
import Mathlib.Data.List.ProdSigma

/-!
# Messages in order

The messages of one producer form a series of ascending places. A list of messages whose part from
each producer is such a series keeps the order of every producer, and so does every selection from
it; if the series are complete, the list holds each pair of a producer and a place once.
-/

open scoped List

namespace ChannelBus

namespace Message

/-- The producer and the place that a message names. -/
def decode (message : Message) : Nat × Nat :=
  (message.producer, message.place)

/-- A series is as long as it was asked for. -/
@[simp] theorem length_series (producer first count : Nat) :
    (series producer first count).length = count := by
  simp only [series, List.length_map, List.length_range]

/-- A series goes on where its first part ends. -/
theorem series_add (producer first count more : Nat) :
    series producer first (count + more) =
      series producer first count ++ series producer (first + count) more := by
  unfold series
  rw [List.range_add, List.map_append, List.map_map]
  simp only [Function.comp_def, Nat.add_assoc]

/-- The first messages of a series are a series. -/
theorem take_series (producer first count limit : Nat) :
    (series producer first count).take limit = series producer first (min limit count) := by
  unfold series
  rw [← List.map_take, List.take_range]

section Valid

variable {producer first count : Nat}

/-- What the messages of a series say. -/
theorem map_decode_series (known : producer < senders) (numbered : first + count ≤ places) :
    (series producer first count).map decode =
      (List.range count).map fun offset => (producer, first + offset) := by
  unfold series
  rw [List.map_map]
  apply List.map_congr_left
  intro offset inside
  have small : first + offset < places := by
    have := List.mem_range.mp inside
    omega
  show (_, _) = _
  rw [producer_pack known small, place_pack known small]

/-- Every message of a series names its producer. -/
theorem producer_of_mem_series (known : producer < senders) (numbered : first + count ≤ places)
    {message : Message} (listed : message ∈ series producer first count) :
    message.producer = producer := by
  have pair : message.decode ∈ (series producer first count).map decode :=
    List.mem_map_of_mem listed
  rw [map_decode_series known numbered] at pair
  obtain ⟨offset, _, same⟩ := List.mem_map.mp pair
  exact (congrArg Prod.fst same).symm

/-- Which messages of a series come from a producer: all or none. -/
theorem filter_series (known : producer < senders) (numbered : first + count ≤ places)
    (other : Nat) : (series producer first count).filter (·.producer == other) =
      if other = producer then series producer first count else [] := by
  by_cases same : other = producer
  · rw [if_pos same]
    apply List.filter_eq_self.mpr
    intro message listed
    have named := producer_of_mem_series known numbered listed
    rw [beq_iff_eq, named, same]
  · rw [if_neg same]
    apply List.filter_eq_nil_iff.mpr
    intro message listed
    have named := producer_of_mem_series known numbered listed
    rw [beq_iff_eq, named]
    exact fun equal => same equal.symm

/-- The places of a series ascend. -/
theorem ascending_series (known : producer < senders) (numbered : first + count ≤ places) :
    (series producer first count).Pairwise (·.place < ·.place) := by
  have pairs : ((series producer first count).map decode).Pairwise (·.2 < ·.2) := by
    rw [map_decode_series known numbered, List.pairwise_map]
    apply List.pairwise_lt_range.imp
    intro lower higher less
    exact Nat.add_lt_add_left less first
  rw [List.pairwise_map] at pairs
  apply pairs.imp
  intro earlier later less
  exact less

end Valid

/-- Whether the messages that one consumer received, latest first, follow those before them. -/
def inOrder : List Message → Bool
  | [] => true
  | message :: earlier => message.follows earlier && inOrder earlier

/-- The messages of each producer stand in the order of their places. -/
def Ascending (messages : List Message) : Prop :=
  messages.Pairwise fun earlier later =>
    earlier.producer = later.producer → earlier.place < later.place

/-- Messages stand in order if those of each producer do. -/
theorem ascending_of_filter {messages : List Message}
    (each : ∀ producer, (messages.filter (·.producer == producer)).Pairwise (·.place < ·.place)) :
    Ascending messages := by
  induction messages with
  | nil => exact .nil
  | cons message rest ih =>
    have mine := each message.producer
    rw [List.filter_cons, if_pos (beq_self_eq_true _)] at mine
    apply List.Pairwise.cons
    · intro later listed same
      apply List.rel_of_pairwise_cons mine
      exact List.mem_filter.mpr ⟨listed, beq_iff_eq.mpr same.symm⟩
    · apply ih
      intro producer
      have both := each producer
      rw [List.filter_cons] at both
      split at both
      · exact both.of_cons
      · exact both

/-- Messages that stand in order are found to be so when read backwards. -/
theorem Ascending.inOrder {messages : List Message} (ascending : Ascending messages) :
    inOrder messages.reverse = true := by
  have backwards : messages.reverse.Pairwise fun later earlier =>
      earlier.producer = later.producer → earlier.place < later.place :=
    List.pairwise_reverse.mpr ascending
  clear ascending
  generalize messages.reverse = latestFirst at backwards
  induction latestFirst with
  | nil => rfl
  | cons message earlier ih =>
    unfold Message.inOrder
    have rest : Message.inOrder earlier = true := ih backwards.of_cons
    rw [rest, Bool.and_true, Message.follows, Option.all_eq_true]
    intro previous found
    have listed := List.mem_of_find?_eq_some found
    have same : previous.producer = message.producer := by
      simpa using List.find?_some found
    have less := List.rel_of_pairwise_cons backwards listed same
    exact decide_eq_true less

/-- Lists with the same messages of each producer hold the same messages. -/
theorem perm_of_filter {messages others : List Message}
    (same : ∀ producer, messages.filter (·.producer == producer) =
      others.filter (·.producer == producer)) : messages ~ others := by
  rw [List.perm_iff_count]
  intro message
  have split : ∀ list : List Message,
      (list.filter (·.producer == message.producer)).count message = list.count message :=
    fun list => List.count_filter (beq_self_eq_true _)
  rw [← split messages, ← split others, same]

/-- One of several lists, picked by its number. -/
theorem flatMap_range_pick {β : Type} (lists : Nat → List β) (number count : Nat) :
    ((List.range count).flatMap fun index => if number = index then lists index else []) =
      if number < count then lists number else [] := by
  induction count with
  | zero => rfl
  | succ count ih =>
    rw [List.range_succ, List.flatMap_append, ih, List.flatMap_singleton]
    rcases Nat.lt_trichotomy number count with less | rfl | greater
    · rw [if_pos less, if_neg (by omega), if_pos (by omega), List.append_nil]
    · rw [if_neg (by omega), if_pos rfl, if_pos (by omega), List.nil_append]
    · rw [if_neg (by omega), if_neg (by omega), if_neg (by omega), List.nil_append]

/-- Messages whose part from each producer is a series are these series, mixed. -/
theorem perm_series {messages : List Message} {producers : Nat} {sent : Nat → Nat}
    (known : producers ≤ senders) (numbered : ∀ producer, sent producer ≤ places)
    (idle : ∀ producer, producers ≤ producer → sent producer = 0)
    (each : ∀ producer, messages.filter (·.producer == producer) =
      series producer 0 (sent producer)) :
    messages ~ (List.range producers).flatMap fun producer =>
      series producer 0 (sent producer) := by
  apply perm_of_filter
  intro producer
  have picked : ∀ index ∈ List.range producers,
      (series index 0 (sent index)).filter (·.producer == producer) =
        if producer = index then series index 0 (sent index) else [] := by
    intro index inside
    have below : index < senders := Nat.lt_of_lt_of_le (List.mem_range.mp inside) known
    apply filter_series below
    have := numbered index
    omega
  rw [each, List.filter_flatMap, List.flatMap_congr picked, flatMap_range_pick]
  split
  · rfl
  · rw [idle producer (by omega)]
    rfl

end Message

end ChannelBus
