import ChannelBus.Proofs.Tries

/-!
# Everything that a broadcast can do

A broadcast regards all open channels at once: it finds none, or one that is not ready, or it gives
a copy to each. `Bus.BroadcastTried` lists what a waiting broadcaster then does, with the wakeup
that it passes on to the next sender of the channel on which it was woken.
-/

namespace ChannelBus

variable {α : Type}

namespace Bus

/-- The registry after each open channel was changed in its place. -/
def overOpen (bus : Bus α) (change : Channel α → Channel α) : Bus α :=
  { bus with slots := bus.slots.map (Option.map change) }

/-- Every open channel was changed. -/
@[simp] theorem channel?_overOpen (bus : Bus α) (change : Channel α → Channel α)
    (handle : Handle) :
    (bus.overOpen change).channel? handle = (bus.channel? handle).map change := by
  unfold channel? overOpen
  rw [List.getElem?_map]
  cases bus.slots[handle.id]? <;> rfl

/-- Every open channel gets its copy. -/
theorem bus_giveAll (bus : Bus α) (value : α) : ∃ update, (bus.giveAll value).bus =
    (bus.overOpen fun channel => (channel.give value).2).note update :=
  ⟨(·.countSent bus.openChannels.length
    (bus.openChannels.flatMap fun entry => (entry.2.give value).1).length), rfl⟩

/-- Nothing is open if no channel is listed. -/
theorem openChannels_eq_nil_iff {bus : Bus α} :
    bus.openChannels = [] ↔ ∀ handle, bus.channel? handle = none := by
  constructor
  · intro nothing handle
    cases here : bus.channel? handle with
    | none => rfl
    | some channel =>
      have listed := mem_openChannels.mpr here
      simp [nothing] at listed
  · intro nothing
    refine List.eq_nil_iff_forall_not_mem.mpr fun (handle, channel) listed => ?_
    rw [mem_openChannels, nothing] at listed
    contradiction

/-- A broadcast finds no channel, or one that is not ready, or it goes ahead. -/
theorem broadcastOnce_cases (bus : Bus α) (ready : Channel α → Bool) (value : α) :
    ((∀ handle, bus.channel? handle = none) ∧
      bus.broadcastOnce ready value = bus.unchanged (some .noChannel)) ∨
    (∃ handle channel, bus.channel? handle = some channel ∧ ready channel = false ∧
      bus.broadcastOnce ready value =
        bus.unchanged (some (.refused handle channel.generation))) ∨
    ((∀ handle channel, bus.channel? handle = some channel → ready channel = true) ∧
      (∃ handle channel, bus.channel? handle = some channel) ∧
      bus.broadcastOnce ready value = (bus.giveAll value).map fun _ => none) := by
  cases refused : bus.firstRefusal ready with
  | some refusal =>
    obtain ⟨handle, channel⟩ := refusal
    have listed := mem_openChannels.mp (List.mem_of_find?_eq_some refused)
    have unready : ready channel = false := by simpa using List.find?_some refused
    exact .inr (.inl ⟨handle, channel, listed, unready, by
      simp [broadcastOnce, stall?, refused]⟩)
  | none =>
    by_cases nothing : bus.openChannels = []
    · refine .inl ⟨openChannels_eq_nil_iff.mp nothing, ?_⟩
      simp [broadcastOnce, stall?, refused, nothing]
    · refine .inr (.inr ⟨fun handle channel here => ?_, ?_, ?_⟩)
      · have accepted := List.find?_eq_none.mp refused _ (mem_openChannels.mpr here)
        simpa using accepted
      · obtain ⟨⟨handle, channel⟩, listed⟩ := List.exists_mem_of_ne_nil _ nothing
        exact ⟨handle, channel, mem_openChannels.mp listed⟩
      · simp [broadcastOnce, stall?, refused, nothing]

/-- What one try of a broadcast by a waiting call does. -/
inductive BroadcastTried (bus : Bus α) (value : α) (previous : Option (Handle × Nat))
    (waker : TaskId) : Progress α → Bus α → Prop where
  /-- Every open channel gets a copy; the broadcaster was woken for nothing on the channel that it
  waited on. -/
  | sent (ready : ∀ handle channel, bus.channel? handle = some channel → channel.canAccept = true)
    (something : ∃ handle channel, bus.channel? handle = some channel) :
    BroadcastTried bus value previous waker (.finished (.sent (.ok ())))
      ((bus.giveAll value).bus.settleWakeup previous none).bus
  /-- No channel is open. -/
  | noChannel (nothing : ∀ handle, bus.channel? handle = none) :
    BroadcastTried bus value previous waker (.finished (.sent (.error .noChannel)))
      (bus.note (·.countError .noChannel))
  /-- One channel cannot take the value, and the broadcaster parks there. -/
  | stalled {handle : Handle} {channel : Channel α} {middle after : Bus α}
    (here : bus.channel? handle = some channel) (unready : channel.canAccept = false)
    (settled : middle =
      (bus.settleWakeup previous (some (.refused handle channel.generation))).bus)
    (still : middle.channel? handle = some channel)
    (billed : middle.Billed after handle (channel.park .senders .empty (some waker))
      { parked := 1 }) :
    BroadcastTried bus value previous waker
      (.parked ⟨.broadcast value,
        ⟨handle, channel.generation, .senders, channel.senders.nextKey⟩⟩) after

/-- What settling the wakeup of a broadcaster does: nothing, or the first waiting sender of the
channel that woke it is woken. -/
theorem settleWakeup_cases (bus : Bus α) (previous : Option (Handle × Nat))
    (stall : Option Stall) :
    ((bus.settleWakeup previous stall).bus = bus ∧
      ∀ handle generation channel, previous = some (handle, generation) →
        stall ≠ some (.refused handle generation) →
        bus.pinned? handle generation = some channel → channel.canAccept = true →
        channel.senders.waiting = []) ∨
    (∃ handle generation channel, previous = some (handle, generation) ∧
      stall ≠ some (.refused handle generation) ∧
      bus.pinned? handle generation = some channel ∧
      bus.Billed (bus.settleWakeup previous stall).bus handle (channel.wake .senders 1)
        { woken := (channel.front .senders 1).length }) := by
  cases previous with
  | none => exact .inl ⟨rfl, by simp⟩
  | some previous =>
    obtain ⟨handle, generation⟩ := previous
    by_cases same : stall = some (.refused handle generation)
    · refine .inl ⟨by simp [settleWakeup, same, unchanged], fun other number channel equal apart =>
        ?_⟩
      simp only [Option.some.injEq, Prod.mk.injEq] at equal
      obtain ⟨rfl, rfl⟩ := equal
      exact absurd same apart
    · cases pinned : bus.pinned? handle generation with
      | none =>
        refine .inl ⟨by simp [settleWakeup, same, passWakeupOn, pinned, unchanged],
          fun other number channel equal _ found => ?_⟩
        simp only [Option.some.injEq, Prod.mk.injEq] at equal
        obtain ⟨rfl, rfl⟩ := equal
        rw [pinned] at found
        contradiction
      | some channel =>
        by_cases passes : channel.canAccept = true ∧ channel.senders.waiting ≠ []
        · have woken : (channel.front .senders 1).isEmpty = false := by
            simpa [Channel.front, WaitQueue.front, Channel.queue] using passes.2
          refine .inr ⟨handle, generation, channel, rfl, same, pinned, ?_⟩
          simp only [Billed, settleWakeup, if_neg same, passWakeupOn, pinned, passes.1, if_true,
            woken]
          rfl
        · refine .inl ⟨?_, fun other number found equal _ here ready => ?_⟩
          · cases ready : channel.canAccept with
            | false => simp [settleWakeup, same, passWakeupOn, pinned, ready, unchanged]
            | true =>
              have nobody : channel.senders.waiting = [] := by simpa [ready] using passes
              simp [settleWakeup, same, passWakeupOn, pinned, ready, unchanged, Channel.front,
                WaitQueue.front, Channel.queue, nobody]
          · simp only [Option.some.injEq, Prod.mk.injEq] at equal
            obtain ⟨rfl, rfl⟩ := equal
            obtain rfl : channel = found := Option.some.inj (pinned.symm.trans here)
            simpa [ready] using passes

/-- The open channels after a wakeup was settled, except for the one that it was meant for. -/
theorem channel?_settleWakeup {bus : Bus α} (previous : Option (Handle × Nat)) {handle : Handle}
    {channel : Channel α} (here : bus.channel? handle = some channel) :
    (bus.settleWakeup previous (some (.refused handle channel.generation))).bus.channel? handle =
      some channel := by
  rcases bus.settleWakeup_cases previous (some (.refused handle channel.generation)) with
    ⟨same, _⟩ | ⟨target, generation, woken, _, apart, pinned, billed⟩
  · rw [same, here]
  · obtain ⟨there, equal⟩ := pinned?_eq_some_iff.mp pinned
    have other : handle ≠ target := by
      intro identical
      subst identical
      rw [here] at there
      obtain rfl := Option.some.inj there
      exact apart (equal ▸ rfl)
    rw [billed, channel?_note, channel?_setChannel there, if_neg other, here]

/-- A try of a broadcast by a waiting call is one of those listed. -/
theorem broadcastTried (bus : Bus α) (value : α) (previous : Option (Handle × Nat))
    (waker : TaskId) : bus.BroadcastTried value previous waker
      (bus.broadcastTry value previous waker).result
      (bus.broadcastTry value previous waker).bus := by
  rcases bus.broadcastOnce_cases Channel.canAccept value with
    ⟨nothing, once⟩ | ⟨handle, channel, here, unready, once⟩ | ⟨ready, something, once⟩
  · have settled : (bus.settleWakeup previous (some .noChannel)).bus = bus := by
      rcases bus.settleWakeup_cases previous (some .noChannel) with
        ⟨same, _⟩ | ⟨handle, generation, channel, _, _, pinned, _⟩
      · exact same
      · rw [pinned?_eq_some_iff, nothing] at pinned
        exact absurd pinned.1 (by simp)
    have tried : bus.BroadcastTried value previous waker _ _ := .noChannel nothing
    simpa [broadcastTry, once, unchanged, Outcome.andThen, settled, fail, Outcome.map] using tried
  · have still := channel?_settleWakeup previous here
    have pinned := pinned?_eq_some_iff.mpr ⟨still, rfl⟩
    have tried : bus.BroadcastTried value previous waker _ _ :=
      .stalled here unready rfl still rfl
    have charge : ({ parked := 1 } : Bill).charge = (·.countSuspended 0) := rfl
    simpa [broadcastTry, once, unchanged, Outcome.andThen, standBy, pinned, park, Channel.queue,
      charge] using tried
  · have tried : bus.BroadcastTried value previous waker _ _ := .sent ready something
    simpa [broadcastTry, once, unchanged, Outcome.andThen, Outcome.map] using tried

/-- A request to broadcast finds no channel, or a full one, or it gives every channel its copy. -/
theorem perform_tryBroadcast [Stored α] {bus : Bus α} (enabled : bus.config.broadcast = true)
    (value : α) :
    ((∀ handle, bus.channel? handle = none) ∧ bus.perform (.tryBroadcast value) =
      bus.failing .noChannel (.ok (.reply (.sent (.error .noChannel))))) ∨
    ((∃ handle channel, bus.channel? handle = some channel ∧ channel.isFull = true) ∧
      bus.perform (.tryBroadcast value) =
        bus.failing .wouldBlock (.ok (.reply (.sent (.error .wouldBlock))))) ∨
    ((∀ handle channel, bus.channel? handle = some channel → channel.isFull = false) ∧
      (∃ handle channel, bus.channel? handle = some channel) ∧
      (bus.perform (.tryBroadcast value)).bus = (bus.giveAll value).bus ∧
      (bus.perform (.tryBroadcast value)).result = .ok (.reply (.sent (.ok ())))) := by
  rcases bus.broadcastOnce_cases (fun channel => !channel.isFull) value with
    ⟨nothing, once⟩ | ⟨handle, channel, here, unready, once⟩ | ⟨ready, something, once⟩
  · refine .inl ⟨nothing, ?_⟩
    simp [perform, tryBroadcast, ensure, enabled, once, unchanged, Outcome.andThen, Outcome.map,
      fail, failing]
  · refine .inr (.inl ⟨⟨handle, channel, here, by simpa using unready⟩, ?_⟩)
    simp [perform, tryBroadcast, ensure, enabled, once, unchanged, Outcome.andThen, Outcome.map,
      fail, failing]
  · refine .inr (.inr ⟨fun handle channel here => by simpa using ready handle channel here,
      something, ?_, ?_⟩)
    · simp [perform, tryBroadcast, ensure, enabled, once, unchanged, Outcome.andThen, Outcome.map]
    · simp [perform, tryBroadcast, ensure, enabled, once, unchanged, Outcome.andThen, Outcome.map]

end Bus

end ChannelBus
