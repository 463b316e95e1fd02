import ChannelBus.Proofs.Stalls
import ChannelBus.Proofs.Transfers

/-!
# What one broadcast does

A broadcast goes ahead on all open channels in one step or leaves them as they were; there is no
state in between. `Bus.Spread` says the first: each open channel has one more copy of the value, at
the tail of its buffer or in the hands of its first waiting receiver. `Bus.Untouched` says the
second. Both hold up to the queues of those who wait to send, where a broadcaster takes its place
or passes on a wakeup; nobody there is given anything.
-/

namespace ChannelBus

variable {α : Type}

namespace Channel

/-- One copy of a value lands on a channel, from hand to hand or not. -/
inductive Lands (channel : Channel α) (value : α) : Bool → Channel α → Prop where
  /-- The copy goes to the tail of the buffer, and the first waiting receiver is woken. -/
  | appended (room : channel.length < channel.capacity) :
    Lands channel value false
      { channel with
        buffer := channel.buffer ++ [value]
        receivers := channel.receivers.wake 1 }
  /-- A rendezvous channel delivers the copy to its first waiting receiver, which is woken. -/
  | delivered {first : Wait α} {later : List (Wait α)} (meets : channel.capacity = 0)
    (queued : channel.receivers.waiting = first :: later) (free : first.parcel = .empty) :
    Lands channel value true
      { channel with receivers := channel.receivers.settle first (.delivered value) later }

/-- Where a copy lands does not depend on who waits to send. -/
theorem Lands.sansSenders {channel after : Channel α} {value : α} {byHand : Bool}
    (lands : channel.Lands value byHand after) :
    channel.sansSenders.Lands value byHand after.sansSenders := by
  cases lands with
  | appended room => exact .appended room
  | delivered meets queued free => exact .delivered meets queued free

/-- A ready channel takes the copy that it is given; if it has room, into its buffer. -/
theorem Sound.lands_give {channel : Channel α} (sound : channel.Sound)
    (ready : channel.canAccept = true) (value : α) :
    ∃ byHand, channel.Lands value byHand (channel.give value).2 ∧
      (channel.isFull = false → byHand = false) := by
  rcases sound.give_cases ready value with ⟨spare, given⟩ | ⟨full, served, after, handed, given⟩
  · refine ⟨false, ?_, fun _ => rfl⟩
    have room : channel.length < channel.capacity := by simpa [isFull] using spare
    have filled : (channel.acceptMany [value]).2 = { channel with
        buffer := channel.buffer ++ [value]
        receivers := channel.receivers.wake 1 } := by
      simp [Channel.acceptMany, Channel.pushMany, fitting_singleton spare, Channel.wake,
        Channel.setQueue, Channel.queue]
    rw [given, filled]
    exact .appended room
  · refine ⟨true, ?_, fun spare => absurd (full.symm.trans spare) (by decide)⟩
    obtain ⟨rendezvous, first, later, queued, free, _, rfl⟩ := sound.handOff_eq_some handed
    rw [given]
    exact .delivered (by simpa [isRendezvous] using rendezvous) queued free

/-- The copy that a ready channel is given wakes its first waiting receiver and nobody else. -/
theorem Sound.wakers_give {channel : Channel α} (sound : channel.Sound)
    (ready : channel.canAccept = true) (value : α) :
    (channel.give value).1.filterMap (·.waker) =
      (channel.receivers.waiting.take 1).filterMap (·.waker) := by
  rcases sound.give_cases ready value with ⟨spare, given⟩ | ⟨full, served, after, handed, given⟩
  · rw [given]
    simp [Channel.acceptMany, Channel.pushMany, fitting_singleton spare, Channel.front,
      Channel.queue, WaitQueue.front]
  · obtain ⟨_, first, later, queued, _, rfl, _⟩ := sound.handOff_eq_some handed
    rw [given, queued]
    rfl

end Channel

namespace Bus

/-- The tasks that are woken when every open channel takes a copy, in ascending order of the
channels: the first waiting receiver of each. -/
def firstReceivers (bus : Bus α) : List TaskId :=
  bus.openChannels.flatMap fun entry => (entry.2.receivers.waiting.take 1).filterMap (·.waker)

/-- In one step every open channel has taken a copy of a value, and nobody else has got any;
`byHand` tells whether a copy may go from hand to hand, and `woken` who is woken. -/
structure Spread (bus after : Bus α) (value : α) (byHand : Bool) (woken : List TaskId) :
    Prop where
  /-- Some channel is open. -/
  something : ∃ handle channel, bus.channel? handle = some channel
  /-- Each open channel has its copy. -/
  landed : ∀ handle channel, bus.channel? handle = some channel → ∃ handed now,
    after.channel? handle = some now ∧
      channel.sansSenders.Lands value handed now.sansSenders ∧ (handed = true → byHand = true)
  /-- No channel was opened. -/
  closed : ∀ handle, bus.channel? handle = none → after.channel? handle = none
  /-- Nothing lies on a wait that did not lie there before, except for the copies that waiting
  receivers of open channels were given. -/
  elsewhere : ∀ address parcel, after.parcel? address = some parcel →
    bus.parcel? address = some parcel ∨ (parcel = .delivered value ∧
      address.side = .receivers ∧ bus.isOpenAs address.generation = true)
  /-- One value is counted for each open channel, if anything is. -/
  counted : after.stats.valuesSent =
    bus.stats.valuesSent + if bus.config.telemetry then bus.channelCount else 0
  /-- The receivers are woken first, and after them at most one sender. -/
  wakes : ∃ passedOn, passedOn.length ≤ 1 ∧ woken = bus.firstReceivers ++ passedOn

/-- Nobody has got a value. -/
structure Untouched (bus after : Bus α) : Prop where
  /-- Nothing changed on the open channels but who waits to send. -/
  channels : bus.SameButSenders after
  /-- Nothing lies on a wait that did not lie there before. -/
  elsewhere : ∀ address parcel, after.parcel? address = some parcel →
    parcel = .empty ∨ bus.parcel? address = some parcel
  /-- No value is counted. -/
  counted : after.stats.valuesSent = bus.stats.valuesSent

/-- A bus that did not change. -/
theorem Untouched.refl (bus : Bus α) : bus.Untouched bus :=
  ⟨.refl bus, fun _ _ held => .inr held, rfl⟩

/-- One step after another. -/
theorem Untouched.trans {bus middle after : Bus α} (first : bus.Untouched middle)
    (second : middle.Untouched after) : bus.Untouched after := by
  refine ⟨first.channels.trans second.channels, fun address parcel held => ?_,
    second.counted.trans first.counted⟩
  rcases second.elsewhere address parcel held with empty | before
  · exact .inl empty
  · exact first.elsewhere address parcel before

/-- Counting something else than values. -/
theorem untouched_note (bus : Bus α) (update : Stats → Stats)
    (same : ∀ stats, (update stats).valuesSent = stats.valuesSent) :
    bus.Untouched (bus.note update) := by
  refine ⟨?_, fun address parcel held => .inr (by rwa [parcel?_note] at held), ?_⟩
  · unfold SameButSenders overOpen
    rw [slots_note]
  · unfold note
    split
    · exact same bus.stats
    · rfl

section SameButSenders

variable {bus after : Bus α}

/-- Each open channel is what it was but for those who wait to send. -/
theorem SameButSenders.channel? (same : bus.SameButSenders after) (handle : Handle) :
    (after.channel? handle).map Channel.sansSenders =
      (bus.channel? handle).map Channel.sansSenders := by
  rw [← channel?_overOpen, ← channel?_overOpen]
  unfold Bus.channel?
  rw [same]

/-- The same receivers come first. -/
theorem SameButSenders.firstReceivers_eq (same : bus.SameButSenders after) :
    after.firstReceivers = bus.firstReceivers := by
  have cleared : ∀ bus : Bus α,
      (bus.overOpen Channel.sansSenders).firstReceivers = bus.firstReceivers := by
    intro bus
    unfold firstReceivers
    rw [openChannels_overOpen, List.flatMap_map]
    rfl
  have bySlots : ∀ bus other : Bus α, bus.slots = other.slots →
      bus.firstReceivers = other.firstReceivers := by
    intro bus other equal
    unfold firstReceivers openChannels
    rw [equal]
  rw [← cleared after, ← cleared bus]
  exact bySlots _ _ same

/-- As many channels are open. -/
theorem SameButSenders.channelCount_eq (same : bus.SameButSenders after) :
    after.channelCount = bus.channelCount := by
  have counts : ∀ bus : Bus α,
      (bus.overOpen Channel.sansSenders).channelCount = bus.channelCount := by
    intro bus
    unfold channelCount
    rw [openChannels_overOpen, List.length_map]
  rw [← counts after, ← counts bus]
  unfold channelCount openChannels
  rw [same]

/-- The same generations are open. -/
theorem SameButSenders.isOpenAs_eq (same : bus.SameButSenders after) (generation : Nat) :
    after.isOpenAs generation = bus.isOpenAs generation := by
  refine isOpenAs_of_generations (fun handle => ?_) generation
  have cleared : ∀ channel? : Option (Channel α),
      channel?.map (·.generation) = (channel?.map Channel.sansSenders).map (·.generation) := by
    intro channel?
    cases channel? <;> rfl
  rw [cleared, cleared (bus.channel? handle), same.channel?]

end SameButSenders

/-- What a broadcast does does not depend on what was done for those who wait to send. -/
theorem Spread.of_untouched {bus middle after : Bus α} {value : α} {byHand : Bool}
    {woken : List TaskId} (spread : middle.Spread after value byHand woken)
    (untouched : bus.Untouched middle) (config : middle.config = bus.config)
    (known : ∀ address parcel, middle.parcel? address = some parcel →
      bus.parcel? address = some parcel) : bus.Spread after value byHand woken := by
  have each := untouched.channels.channel?
  refine ⟨?_, fun handle channel here => ?_, fun handle free => ?_, fun address parcel held => ?_,
    ?_, ?_⟩
  · obtain ⟨handle, channel, here⟩ := spread.something
    have there := each handle
    rw [here] at there
    obtain ⟨before, beforeHere, _⟩ := Option.map_eq_some_iff.mp there.symm
    exact ⟨handle, before, beforeHere⟩
  · have there := each handle
    rw [here] at there
    obtain ⟨between, betweenHere, same⟩ := Option.map_eq_some_iff.mp there
    rw [← same]
    exact spread.landed handle between betweenHere
  · have there := each handle
    rw [free] at there
    exact spread.closed handle (Option.map_eq_none_iff.mp there)
  · rcases spread.elsewhere address parcel held with before | ⟨copy, side, opened⟩
    · exact .inl (known address parcel before)
    · exact .inr ⟨copy, side, untouched.channels.isOpenAs_eq _ ▸ opened⟩
  · rw [spread.counted, untouched.counted, config, untouched.channels.channelCount_eq]
  · rw [← untouched.channels.firstReceivers_eq]
    exact spread.wakes

/-- After the copies were given, a wakeup may be passed on to one sender. -/
theorem Spread.passOn {bus middle after : Bus α} {value : α} {byHand : Bool}
    (spread : bus.Spread middle value byHand bus.firstReceivers)
    (untouched : middle.Untouched after)
    (board : ∀ address, after.parcel? address = middle.parcel? address) {passedOn : List TaskId}
    (few : passedOn.length ≤ 1) :
    bus.Spread after value byHand (bus.firstReceivers ++ passedOn) := by
  have each := untouched.channels.channel?
  refine ⟨spread.something, fun handle channel here => ?_, fun handle free => ?_,
    fun address parcel held => ?_, untouched.counted.trans spread.counted, ⟨passedOn, few, rfl⟩⟩
  · obtain ⟨handed, given, there, lands, hands⟩ := spread.landed handle channel here
    have later := each handle
    rw [there] at later
    obtain ⟨now, nowHere, same⟩ := Option.map_eq_some_iff.mp later
    exact ⟨handed, now, nowHere, same ▸ lands, hands⟩
  · have later := each handle
    rw [spread.closed handle free] at later
    exact Option.map_eq_none_iff.mp later
  · exact spread.elsewhere address parcel (board address ▸ held)

/-! ## Giving a copy to every channel -/

section Giving

variable {bus : Bus α}

/-- The notices of woken waits name their wakers. -/
theorem wakes?_wokenNotices (waits : List (Wait α)) :
    (waits.map (·.wokenNotice)).filterMap Notice.wakes? = waits.filterMap (·.waker) := by
  rw [List.filterMap_map]
  rfl

/-- The wakeups of a broadcast, one channel after the other. -/
theorem Sound.wakes_giveAll (sound : bus.Sound)
    (ready : ∀ handle channel, bus.channel? handle = some channel → channel.canAccept = true)
    (value : α) : (bus.giveAll value).notices.filterMap Notice.wakes? = bus.firstReceivers := by
  have each : ∀ entry ∈ bus.openChannels, (entry.2.give value).1.filterMap (·.waker) =
      (entry.2.receivers.waiting.take 1).filterMap (·.waker) := by
    intro entry listed
    have here := mem_openChannels.mp listed
    exact (sound.of_channel? here).wakers_give (ready entry.1 entry.2 here) value
  unfold giveAll firstReceivers
  rw [List.filterMap_append, wakes?_wokenNotices, List.filterMap_flatMap]
  simp only [List.filterMap_cons, Notice.wakes?, List.filterMap_nil, List.append_nil]
  exact List.flatMap_congr each

/-- Giving a copy to every channel counts one value for each. -/
theorem valuesSent_giveAll (bus : Bus α) (value : α) :
    (bus.giveAll value).bus.stats.valuesSent =
      bus.stats.valuesSent + if bus.config.telemetry then bus.channelCount else 0 := by
  unfold giveAll note
  split <;> rfl

/-- When all channels are ready, each takes the copy that it is given. -/
theorem Sound.spread_giveAll (sound : bus.Sound)
    (ready : ∀ handle channel, bus.channel? handle = some channel → channel.canAccept = true)
    (something : ∃ handle channel, bus.channel? handle = some channel) (value : α) (byHand : Bool)
    (spare : byHand = false → ∀ handle channel, bus.channel? handle = some channel →
      channel.isFull = false) :
    bus.Spread (bus.giveAll value).bus value byHand
      ((bus.giveAll value).notices.filterMap Notice.wakes?) := by
  obtain ⟨update, given⟩ := bus.bus_giveAll value
  refine ⟨something, fun handle channel here => ?_, fun handle free => ?_,
    fun address parcel held => ?_, bus.valuesSent_giveAll value,
    ⟨[], Nat.zero_le 1, by rw [sound.wakes_giveAll ready, List.append_nil]⟩⟩
  · obtain ⟨handed, lands, room⟩ := (sound.of_channel? here).lands_give (ready handle channel here)
      value
    refine ⟨handed, (channel.give value).2, ?_, lands.sansSenders, fun hands => ?_⟩
    · rw [given, channel?_note, channel?_overOpen, here]
      rfl
    · cases byHand with
      | true => rfl
      | false =>
        have appended := room (spare rfl handle channel here)
        rw [hands] at appended
        contradiction
  · rw [given, channel?_note, channel?_overOpen, free]
    rfl
  · by_cases opened : bus.isOpenAs address.generation = true
    · obtain ⟨handle, channel, here, same⟩ := isOpenAs_iff.mp opened
      obtain ⟨plain, meeting⟩ := sound.passes_giveAll ready value here
      obtain ⟨generation, side, key⟩ := address
      subst same
      cases rendezvous : channel.isRendezvous with
      | false =>
        rw [plain rendezvous] at held
        exact .inl held
      | true =>
        obtain ⟨first, _, board⟩ := meeting rendezvous
        rw [board] at held
        split at held
        case isTrue there => exact .inr ⟨(Option.some.inj held).symm, there.1, opened⟩
        case isFalse => exact .inl held
    · have closed : ∀ handle channel, bus.channel? handle = some channel →
          channel.generation ≠ address.generation := fun handle channel here =>
        generation_ne_of_closed (Bool.eq_false_iff.mpr opened) here
      rw [sound.parcel?_giveAll_of_closed ready value closed] at held
      exact .inl held

/-- Passing on the wakeup of a broadcaster counts no value and wakes at most one task. -/
theorem settleWakeup_counts (bus : Bus α) (previous : Option (Handle × Nat))
    (stall : Option Stall) :
    (bus.settleWakeup previous stall).bus.stats.valuesSent = bus.stats.valuesSent ∧
      ((bus.settleWakeup previous stall).notices.filterMap Notice.wakes?).length ≤ 1 := by
  have nothing : (bus.unchanged ()).bus.stats.valuesSent = bus.stats.valuesSent ∧
      ((bus.unchanged ()).notices.filterMap Notice.wakes?).length ≤ 1 := ⟨rfl, Nat.zero_le 1⟩
  unfold settleWakeup
  split
  case h_1 => exact nothing
  case h_2 handle generation =>
    split
    case isTrue => exact nothing
    case isFalse =>
      unfold passWakeupOn
      split
      case h_1 => exact nothing
      case h_2 channel pinned =>
        dsimp only
        generalize fronted : (if channel.canAccept then channel.front .senders 1 else []) = waits
        have few : waits.length ≤ 1 := by
          rw [← fronted]
          split
          · exact List.length_take_le 1 _
          · exact Nat.zero_le 1
        split
        case isTrue => exact nothing
        case isFalse =>
          refine ⟨?_, ?_⟩
          · unfold note
            split <;> rfl
          · rw [List.filterMap_append, wakes?_wokenNotices, List.length_append]
            exact Nat.le_trans (List.length_filterMap_le _ _) few

/-- Passing on the wakeup of a broadcaster gives nothing to anybody. -/
theorem Sound.untouched_settleWakeup (sound : bus.Sound) (previous : Option (Handle × Nat))
    (stall : Option Stall) : bus.Untouched (bus.settleWakeup previous stall).bus := by
  have board := (sound.tries_settleWakeup previous stall (.receive ⟨0⟩)).2
  refine ⟨bus.sameButSenders_settleWakeup previous stall, fun address parcel held => .inr ?_,
    (bus.settleWakeup_counts previous stall).1⟩
  rwa [board address] at held

/-- A broadcaster that parks leaves nothing on its wait. -/
theorem Sound.untouched_standBy (sound : bus.Sound) (handle : Handle) (generation : Nat)
    (value : α) (waker : TaskId) :
    bus.Untouched (bus.standBy handle generation value waker).bus := by
  unfold standBy
  split
  case h_1 => exact bus.untouched_note (·.countError .noChannel) fun _ => rfl
  case h_2 channel pinned =>
    have here := (pinned?_eq_some_iff.mp pinned).1
    have channelSound := sound.of_channel? here
    have becomes : bus.Becomes
        ((bus.setChannel handle (channel.park .senders .empty (some waker))).note
          (·.countSuspended 0)) handle (channel.park .senders .empty (some waker)) := ⟨_, rfl⟩
    refine ⟨becomes.sameButSenders here, fun address parcel held => ?_, ?_⟩
    · change ((bus.setChannel handle (channel.park .senders .empty (some waker))).note
        (·.countSuspended 0)).parcel? address = some parcel at held
      rw [becomes.parcel? sound here (channel.generation_park _ _ _)] at held
      split at held
      case isFalse => exact .inr held
      case isTrue same =>
        rw [channelSound.parcel?_park] at held
        split at held
        case isTrue => exact .inl (Option.some.inj held).symm
        case isFalse =>
          rw [← sound.parcel?_of_channel? here, ← same] at held
          exact .inr held
    · change ((bus.setChannel handle (channel.park .senders .empty (some waker))).note
        (·.countSuspended 0)).stats.valuesSent = _
      unfold note
      split <;> rfl

/-- A try of a broadcast goes ahead on all channels, or it gives nothing to anybody. -/
theorem Sound.spread_broadcastTry (sound : bus.Sound) (value : α)
    (previous : Option (Handle × Nat)) (waker : TaskId) :
    let tried := bus.broadcastTry value previous waker
    (tried.result = .finished (.sent (.ok ())) ∧
      bus.Spread tried.bus value true (tried.notices.filterMap Notice.wakes?)) ∨
    (tried.result ≠ .finished (.sent (.ok ())) ∧ bus.Untouched tried.bus) := by
  intro tried
  rcases bus.broadcastOnce_cases Channel.canAccept value with
    ⟨nothing, once⟩ | ⟨handle, channel, here, unready, once⟩ | ⟨ready, something, once⟩
  · have outcome : tried = (bus.settleWakeup previous (some .noChannel)).andThen fun _ bus =>
        (bus.fail .noChannel).map fun result => .finished (.sent result) := by
      simp only [tried, broadcastTry, once, unchanged_andThen]
    have settled := sound.untouched_settleWakeup previous (some .noChannel)
    rw [outcome]
    refine .inr ⟨fun sent => ?_,
      settled.trans (untouched_note _ (·.countError .noChannel) fun _ => rfl)⟩
    cases sent
  · have outcome : tried = (bus.settleWakeup previous
        (some (.refused handle channel.generation))).andThen fun _ bus =>
          bus.standBy handle channel.generation value waker := by
      simp only [tried, broadcastTry, once, unchanged_andThen]
    have settled := sound.untouched_settleWakeup previous
      (some (.refused handle channel.generation))
    have settledSound := (sound.tries_settleWakeup previous
      (some (.refused handle channel.generation)) (.broadcast value)).1.sound
    rw [outcome]
    refine .inr ⟨fun sent => ?_,
      settled.trans (settledSound.untouched_standBy handle channel.generation value waker)⟩
    simp only [Outcome.andThen, standBy] at sent
    split at sent <;> cases sent
  · have outcome : tried = (bus.giveAll value).andThen fun _ given =>
        (given.settleWakeup previous none).andThen fun _ bus =>
          bus.unchanged (.finished (.sent (.ok ()))) := by
      simp only [tried, broadcastTry, once, Outcome.map, Outcome.andThen]
    have given : bus.Spread (bus.giveAll value).bus value true bus.firstReceivers := by
      rw [← sound.wakes_giveAll ready value]
      exact sound.spread_giveAll ready something value true fun still => absurd still (by decide)
    have givenSound := (sound.tries_giveAll ready value (.broadcast value)).sound
    have settled := givenSound.untouched_settleWakeup previous none
    have board := (givenSound.tries_settleWakeup previous none (.broadcast value)).2
    have few := ((bus.giveAll value).bus.settleWakeup_counts previous none).2
    have rung : tried.notices.filterMap Notice.wakes? = bus.firstReceivers ++
        ((bus.giveAll value).bus.settleWakeup previous none).notices.filterMap
          Notice.wakes? := by
      rw [outcome, ← sound.wakes_giveAll ready value, ← List.filterMap_append]
      simp only [Outcome.andThen, unchanged, List.append_nil]
    rw [rung, outcome]
    exact .inl ⟨rfl, given.passOn settled board few⟩

/-- A request to broadcast fails at once, or all channels have room and it gives each its copy. -/
theorem tryBroadcast_cases (bus : Bus α) (value : α) :
    (∃ error, bus.tryBroadcast value = bus.fail error) ∨
    ((∀ handle channel, bus.channel? handle = some channel → channel.isFull = false) ∧
      (∃ handle channel, bus.channel? handle = some channel) ∧
      bus.tryBroadcast value = (bus.giveAll value).map fun _ => .ok ()) := by
  cases enabled : bus.config.broadcast with
  | false => exact .inl ⟨.notImplemented, by simp [tryBroadcast, ensure, enabled]⟩
  | true =>
    rcases bus.broadcastOnce_cases (fun channel => !channel.isFull) value with
      ⟨nothing, once⟩ | ⟨handle, channel, here, unready, once⟩ | ⟨ready, something, once⟩
    · exact .inl ⟨.noChannel, by simp [tryBroadcast, ensure, enabled, once, unchanged_andThen]⟩
    · exact .inl ⟨.wouldBlock, by simp [tryBroadcast, ensure, enabled, once, unchanged_andThen]⟩
    · refine .inr ⟨fun handle channel here => by simpa using ready handle channel here,
        something, ?_⟩
      simp [tryBroadcast, ensure, enabled, once, Outcome.map, Outcome.andThen, unchanged]

/-- A request to broadcast goes ahead on all channels, or it gives nothing to anybody. -/
theorem Sound.spread_tryBroadcast (sound : bus.Sound) (value : α) :
    let tried := bus.tryBroadcast value
    (tried.result = .ok () ∧
      bus.Spread tried.bus value false (tried.notices.filterMap Notice.wakes?)) ∨
    (tried.result ≠ .ok () ∧ bus.Untouched tried.bus) := by
  intro tried
  rcases bus.tryBroadcast_cases value with ⟨error, failed⟩ | ⟨spare, something, given⟩
  · have outcome : tried = bus.fail error := failed
    rw [outcome]
    exact .inr ⟨nofun, bus.untouched_note (·.countError error) fun _ => by cases error <;> rfl⟩
  · have outcome : tried = (bus.giveAll value).map fun _ => .ok () := given
    have accepting : ∀ handle channel, bus.channel? handle = some channel →
        channel.canAccept = true := fun handle channel here => by
      simp [Channel.canAccept, spare handle channel here]
    rw [outcome]
    exact .inl ⟨rfl, sound.spread_giveAll accepting something value false fun _ => spare⟩

end Giving

/-! ## A broadcaster that waits -/

section Waiting

variable {bus : Bus α} {suspended : Suspended α} {value : α}

/-- A broadcaster leaves nothing on its wait, and nobody can put anything there. -/
theorem Houses.bare (houses : bus.Houses suspended)
    (everywhere : suspended.call = .broadcast value) :
    bus.parcel? suspended.ticket.address = some .empty ∧ suspended.ticket.side = .senders := by
  obtain ⟨parcel, held, finds⟩ := houses.parcel
  have side := houses.side
  rw [everywhere] at side finds
  cases finds with
  | offered offers | taken offers => contradiction
  | empty wants => exact absurd rfl wants
  | delivered value wants => exact absurd rfl wants
  | unpinned => exact ⟨held, side⟩

/-- Replacing a queue keeps the settings. -/
@[simp] theorem config_setTicketQueue (bus : Bus α) (ticket : Ticket) (queue : WaitQueue α) :
    (bus.setTicketQueue ticket queue).config = bus.config := by
  unfold setTicketQueue
  split <;> rfl

/-- Replacing a queue counts nothing. -/
@[simp] theorem stats_setTicketQueue (bus : Bus α) (ticket : Ticket) (queue : WaitQueue α) :
    (bus.setTicketQueue ticket queue).stats = bus.stats := by
  unfold setTicketQueue
  split <;> rfl

/-- Replacing a queue of senders on which nothing new lies gives nothing to anybody. -/
theorem untouched_setTicketQueue {ticket : Ticket} (sender : ticket.side = .senders)
    {queue : WaitQueue α}
    (known : ∀ address parcel, (bus.setTicketQueue ticket queue).parcel? address = some parcel →
      bus.parcel? address = some parcel) : bus.Untouched (bus.setTicketQueue ticket queue) := by
  refine ⟨bus.sameButSenders_setTicketQueue sender queue,
    fun address parcel held => .inr (known address parcel held), ?_⟩
  rw [stats_setTicketQueue]

/-- What went away was there before. -/
theorem Clears.known {after : Bus α} {address : Address} (clears : bus.Clears after address)
    (other : Address) (parcel : Parcel α) (held : after.parcel? other = some parcel) :
    bus.parcel? other = some parcel := by
  rw [clears.parcel?] at held
  split at held
  case isTrue => contradiction
  case isFalse => exact held

/-- Dropping a broadcaster gives nothing to anybody. -/
theorem Houses.untouched_cancel (houses : bus.Houses suspended) (sound : bus.Sound)
    (everywhere : suspended.call = .broadcast value) : bus.Untouched (bus.cancel suspended).bus :=
  untouched_setTicketQueue (houses.bare everywhere).2 (houses.clears_leave sound).known

/-- A poll of a waiting broadcaster goes ahead on all channels, or it gives nothing to anybody. -/
theorem Houses.spread_resume (houses : bus.Houses suspended) (sound : bus.Sound)
    (everywhere : suspended.call = .broadcast value) (waker : TaskId) :
    let polled := bus.resume suspended waker
    (polled.result = .finished (.sent (.ok ())) ∧
      bus.Spread polled.bus value true (polled.notices.filterMap Notice.wakes?)) ∨
    (polled.result ≠ .finished (.sent (.ok ())) ∧ bus.Untouched polled.bus) := by
  intro polled
  obtain ⟨held, sender⟩ := houses.bare everywhere
  cases queued : (bus.ticketQueue suspended.ticket).holds suspended.ticket.key with
  | true =>
    have board := (houses.refresh sound waker).2.2
    have outcome : polled = _ := resume_of_queued queued waker
    rw [outcome]
    refine .inr ⟨nofun, untouched_setTicketQueue sender fun address parcel found => ?_⟩
    rwa [board] at found
  | false =>
    have clears := houses.clears_forget sound queued
    have forgets := untouched_setTicketQueue sender clears.known
    have outcome : polled = _ :=
      resume_of_dequeued queued ((houses.parcel?_ticketQueue sound).trans held) waker
    obtain ⟨call, ticket⟩ := suspended
    subst everywhere
    rw [wakeUp_broadcast] at outcome
    rcases clears.sound.spread_broadcastTry value (some (ticket.handle, ticket.generation)) waker
      with ⟨sent, spread⟩ | ⟨unsent, untouched⟩
    · rw [outcome]
      exact .inl ⟨sent, spread.of_untouched forgets (config_setTicketQueue _ _ _) clears.known⟩
    · rw [outcome]
      exact .inr ⟨unsent, forgets.trans untouched⟩

end Waiting

end Bus

end ChannelBus
