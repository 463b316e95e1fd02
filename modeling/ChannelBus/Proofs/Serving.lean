import ChannelBus.Proofs.Hints
import ChannelBus.Proofs.Lines

/-!
# Waiters are served in the order of their arrival

Every operation on a bus wakes from the front of a line, or hands a value to its first receiver; so
`Bus.ServesFirst` holds of nearly all of them. A receiver that takes an offer may skip senders, and
`Bus.Skips` says which: those that were queued before the operation and offer nothing, which are
broadcasters. A waiter that is dropped while it is queued leaves from where it is.

The proofs follow the operations. What carries them through a sequence of operations is that the
happenings of a queue are put one after the other, each befalling the queue that those before it
left.
-/

namespace ChannelBus

variable {α β γ : Type}

/-- Every notice of a dequeued wait is one. -/
theorem filter_wokenNotice (waits : List (Wait α)) :
    (waits.map (·.wokenNotice)).filter Notice.isWoke = waits.map (·.wokenNotice) := by
  apply List.filter_eq_self.mpr
  intro notice listed
  obtain ⟨wait, _, rfl⟩ := List.mem_map.mp listed
  rfl

namespace Bus

/-- The queue on one side of the channel of a generation; nobody waits in it before the channel is
opened. -/
def queue (bus : Bus α) (generation : Nat) (side : Side) : WaitQueue α :=
  (bus.identity? generation).elim .new (·.queue side)

/-- The line on one side of the channel of a generation. -/
def line (bus : Bus α) (generation : Nat) (side : Side) : List (Wait α) :=
  (bus.queue generation side).waiting

/-- The queues of a channel are those of its generation. -/
theorem queue_of_identity? {bus : Bus α} {channel : Channel α} {generation : Nat}
    (named : bus.identity? generation = some channel) (side : Side) :
    bus.queue generation side = channel.queue side := by
  rw [queue, named]
  rfl

/-- Counting moves nobody. -/
@[simp] theorem queue_note (bus : Bus α) (update : Stats → Stats) (generation : Nat) (side : Side) :
    (bus.note update).queue generation side = bus.queue generation side := by
  rw [queue, identity?_note, queue]

/-- Counting moves nobody. -/
@[simp] theorem line_note (bus : Bus α) (update : Stats → Stats) (generation : Nat) (side : Side) :
    (bus.note update).line generation side = bus.line generation side := by
  rw [line, queue_note, line]

/-- What replacing a channel does to its queues it does to those of the bus. -/
theorem Replaces.queues {bus after : Bus α} {old new : Channel α}
    (replaces : bus.Replaces after old new) (sound : bus.Sound) {log : List (Occurrence α)}
    (serves : old.Serves new log) (generation : Nat) (side : Side)
    (ascends : ByKey (bus.line generation side)) :
    InTurn side (bus.queue generation side) (happeningsAt log generation side)
      (after.queue generation side) := by
  have named : bus.identity? old.generation = some old := by
    obtain ⟨rest, original, _⟩ := replaces.known
    exact sound.identity?_eq_some_iff.mpr ⟨original.mem_iff.mpr List.mem_cons_self, rfl⟩
  have now := replaces.identity? sound generation
  by_cases same : generation = old.generation
  · subst same
    rw [if_pos rfl] at now
    rw [line, queue_of_identity? named] at ascends
    rw [queue_of_identity? named, queue_of_identity? now]
    exact serves.queues side ascends
  · rw [if_neg same] at now
    have nothing : happeningsAt log generation side = [] := by
      apply happeningsAt_eq_nil
      intro occurrence listed equal
      exact same (equal.symm.trans (serves.home occurrence listed))
    rw [nothing, queue, queue, now]
    exact .done

/-! ## Complete logs -/

/-- A log of an operation that leaves nothing out: it lists the dequeued waits in the order of the
notices, and what it lists for a queue leads from the queue before to the queue after. -/
structure Serves (bus : Bus α) (outcome : Outcome α β) (log : List (Occurrence α)) : Prop where
  /-- The dequeued waits are those that the notices tell, in their order. -/
  told : outcome.notices.filter Notice.isWoke = noticesOf log
  /-- Every queue becomes what the log makes of it. -/
  queues : ∀ generation side, ByKey (bus.line generation side) →
    InTurn side (bus.queue generation side) (happeningsAt log generation side)
      (outcome.bus.queue generation side)

/-- An operation that dequeues nobody but the first in line. -/
def ServesFirst (bus : Bus α) (outcome : Outcome α β) : Prop :=
  ∃ log, bus.Serves outcome log ∧ ∀ occurrence ∈ log, occurrence.happening.isPlain = true

/-- An offer is taken past senders that were in line before and offer nothing. -/
def Skips (bus : Bus α) (occurrence : Occurrence α) : Prop :=
  ∃ skipped wait value, occurrence.happening = .taken skipped wait value ∧
    ∀ other ∈ skipped, other ∈ bus.line occurrence.generation .senders ∧
      other.parcel.offer? = none

/-- An operation that dequeues the first in line, or the first sender that has an offer. What its
own call does to its wait comes first. -/
def ServesFairly (bus : Bus α) (own : List (Occurrence α)) (outcome : Outcome α β) : Prop :=
  ∃ log, bus.Serves outcome (own ++ log) ∧
    ∀ occurrence ∈ log, occurrence.happening.isPlain = true ∨ bus.Skips occurrence

/-- Whatever serves whoever is first, or skips somebody, does not take away a wait. -/
theorem not_leaves_of_fair {bus : Bus α} {occurrence : Occurrence α}
    (fair : occurrence.happening.isPlain = true ∨ bus.Skips occurrence) (key : Nat) :
    occurrence.happening ≠ .withdrawn key ∧ occurrence.happening ≠ .forgotten key := by
  rcases fair with plain | ⟨_, _, _, taken, _⟩
  · constructor <;> intro same <;> rw [same] at plain <;> contradiction
  · constructor <;> intro same <;> rw [same] at taken <;> contradiction

/-- Nobody is skipped where only the first are dequeued. -/
theorem ServesFirst.fairly {bus : Bus α} {outcome : Outcome α β}
    (serves : bus.ServesFirst outcome) : bus.ServesFairly [] outcome := by
  obtain ⟨log, complete, plain⟩ := serves
  exact ⟨log, complete, fun occurrence listed => .inl (plain occurrence listed)⟩

/-- An operation that does one thing, and takes nobody out of the line but the first. -/
theorem Serves.first {bus : Bus α} {outcome : Outcome α β} {occurrence : Occurrence α}
    (serves : bus.Serves outcome [occurrence]) (plain : occurrence.happening.isPlain = true) :
    bus.ServesFirst outcome :=
  ⟨_, serves, fun _ listed => List.mem_singleton.mp listed ▸ plain⟩

/-- An operation that moves nobody, and tells of nobody. -/
theorem servesFirst_of_still {bus : Bus α} {outcome : Outcome α β}
    (silent : outcome.notices.filter Notice.isWoke = [])
    (still : ∀ generation side, outcome.bus.queue generation side = bus.queue generation side) :
    bus.ServesFirst outcome := by
  refine ⟨[], ⟨silent, fun generation side _ => ?_⟩, nofun⟩
  rw [still]
  exact .done

/-- Doing nothing moves nobody. -/
theorem servesFirst_unchanged (bus : Bus α) (result : β) :
    bus.ServesFirst (bus.unchanged result) :=
  servesFirst_of_still rfl fun _ _ => rfl

/-- Failing moves nobody. -/
theorem servesFirst_failing (bus : Bus α) (error : BusError) (result : β) :
    bus.ServesFirst (bus.failing error result) :=
  servesFirst_of_still rfl fun _ _ => queue_note _ _ _ _

/-- Failing moves nobody. -/
theorem servesFirst_fail (bus : Bus α) (error : BusError) :
    bus.ServesFirst (bus.fail error : Outcome α (Result β)) :=
  bus.servesFirst_failing error (Except.error error : Result β)

/-- The answer makes no difference. -/
theorem ServesFirst.map {bus : Bus α} {outcome : Outcome α β} (serves : bus.ServesFirst outcome)
    (change : β → γ) : bus.ServesFirst (outcome.map change) := by
  obtain ⟨log, complete, plain⟩ := serves
  exact ⟨log, ⟨complete.told, complete.queues⟩, plain⟩

/-- The answer makes no difference. -/
theorem ServesFairly.map {bus : Bus α} {own : List (Occurrence α)} {outcome : Outcome α β}
    (serves : bus.ServesFairly own outcome) (change : β → γ) :
    bus.ServesFairly own (outcome.map change) := by
  obtain ⟨log, complete, fair⟩ := serves
  exact ⟨log, ⟨complete.told, complete.queues⟩, fair⟩

/-- Notices of other things make no difference. -/
theorem ServesFairly.after {bus : Bus α} {own : List (Occurrence α)} {outcome : Outcome α β}
    (serves : bus.ServesFairly own outcome) {notices : List Notice}
    (silent : notices.filter Notice.isWoke = []) :
    bus.ServesFairly own (outcome.after notices) := by
  obtain ⟨log, complete, fair⟩ := serves
  refine ⟨log, ⟨?_, complete.queues⟩, fair⟩
  rw [Outcome.after, List.filter_append, silent, List.nil_append, complete.told]

/-- An operation that comes after something that dequeues nobody. -/
theorem ServesFairly.afterOwn {bus other : Bus α} {own : List (Occurrence α)} {before : β}
    {outcome : Outcome α γ} (serves : other.ServesFairly [] outcome)
    (leads : bus.Serves { result := before, bus := other, notices := [] } own)
    (same : ∀ generation side, other.line generation side = bus.line generation side) :
    bus.ServesFairly own outcome := by
  obtain ⟨log, complete, fair⟩ := serves
  refine ⟨log, ⟨?_, fun generation side ascends => ?_⟩, fun occurrence listed => ?_⟩
  · rw [noticesOf_append, ← leads.told, complete.told]
    rfl
  · have first := leads.queues generation side ascends
    have second := complete.queues generation side
    rw [same] at second
    rw [happeningsAt_append]
    exact first.append (second ascends)
  · rcases fair occurrence listed with plain | ⟨skipped, wait, value, taken, queued⟩
    · exact .inl plain
    · refine .inr ⟨skipped, wait, value, taken, fun other inside => ?_⟩
      rw [← same]
      exact queued other inside

/-- An operation on a bus after counting. -/
theorem ServesFairly.of_note {bus : Bus α} {update : Stats → Stats} {outcome : Outcome α β}
    (serves : (bus.note update).ServesFairly [] outcome) : bus.ServesFairly [] outcome := by
  have leads : bus.Serves { result := (), bus := bus.note update, notices := [] } [] := by
    refine ⟨rfl, fun generation side _ => ?_⟩
    rw [queue_note]
    exact .done
  exact serves.afterOwn leads (line_note bus update)

/-- One operation after another. -/
theorem ServesFirst.andThen {bus : Bus α} {outcome : Outcome α β}
    (first : bus.ServesFirst outcome) {next : β → Bus α → Outcome α γ}
    (second : outcome.bus.ServesFirst (next outcome.result outcome.bus)) :
    bus.ServesFirst (outcome.andThen next) := by
  obtain ⟨log, complete, plain⟩ := first
  obtain ⟨logNext, completeNext, plainNext⟩ := second
  refine ⟨log ++ logNext, ⟨?_, fun generation side ascends => ?_⟩, fun occurrence listed => ?_⟩
  · rw [Outcome.andThen, List.filter_append, complete.told, completeNext.told, noticesOf_append]
  · have half := complete.queues generation side ascends
    rw [happeningsAt_append]
    exact half.append (completeNext.queues generation side (half.byKey ascends))
  · rcases List.mem_append.mp listed with earlier | later
    · exact plain occurrence earlier
    · exact plainNext occurrence later

/-- Replacing an open channel, counting, and telling whom that dequeues. -/
theorem Sound.serves_setChannel {bus : Bus α} (sound : bus.Sound) {handle : Handle}
    {channel new : Channel α} (here : bus.channel? handle = some channel)
    {log : List (Occurrence α)} (serves : channel.Serves new log) (update : Stats → Stats)
    {notices : List Notice} (told : notices.filter Notice.isWoke = noticesOf log) (result : β) :
    bus.Serves { result, bus := (bus.setChannel handle new).note update, notices } log := by
  refine ⟨told, fun generation side ascends => ?_⟩
  rw [queue_note]
  exact (replaces_setChannel here serves.generation).queues sound serves generation side ascends

/-! ## Moving values -/

/-- Values that move at once wake the first in line. -/
theorem MovesAtOnce.servesFirst {bus : Bus α} {outcome : Outcome α β}
    (moves : bus.MovesAtOnce outcome) (sound : bus.Sound) : bus.ServesFirst outcome := by
  cases moves with
  | failed error result => exact bus.servesFirst_failing error result
  | idle result => exact bus.servesFirst_unchanged result
  | @moved handle channel filled here same queues side count update result =>
    have fills := Channel.serves_of_queues same queues
    have serves := fills.trans (filled.serves_wake side count)
    refine ⟨_, sound.serves_setChannel here serves update ?_ result, fun _ listed => ?_⟩
    · rw [filter_wokenNotice, List.nil_append, Channel.noticesOf_wakings]
    · exact Channel.isPlain_of_wakings listed

/-- A stuck sender hands its value to the first receiver, or joins the line of the senders. -/
theorem Sound.servesFirst_offer {bus : Bus α} (sound : bus.Sound) (handle : Handle)
    (generation : Nat) (value : α) (waker : TaskId) (call : Call α)
    (reply : Result Unit → Reply α) :
    bus.ServesFirst (bus.offer handle generation value waker call reply) := by
  cases pinned : bus.pinned? handle generation with
  | none =>
    simp only [offer, pinned]
    exact (bus.servesFirst_fail _).map _
  | some channel =>
    have here := (pinned?_eq_some_iff.mp pinned).1
    have channelSound := sound.of_channel? here
    cases handed : channel.handOff value with
    | some outcome =>
      obtain ⟨served, after⟩ := outcome
      obtain ⟨wait, _, same, serves⟩ := channelSound.serves_handOff handed
      simp only [offer, pinned, handed, same]
      exact (sound.serves_setChannel here serves _ rfl _).first rfl
    | none =>
      have serves := channelSound.serves_park .senders (.offered value) (some waker)
      simp only [offer, pinned, handed]
      exact (sound.serves_setChannel here serves (·.countSuspended 0) rfl _).first rfl

/-- A stuck receiver takes the first offer, or it gives the first sender a hint and joins the line
of the receivers. -/
theorem Sound.servesFairly_await {bus : Bus α} (sound : bus.Sound) (handle : Handle)
    (generation : Nat) (waker : TaskId) (call : Call α) (reply : Result α → Reply α) :
    bus.ServesFairly [] (bus.await handle generation waker call reply) := by
  cases pinned : bus.pinned? handle generation with
  | none =>
    simp only [await, pinned]
    exact ((bus.servesFirst_fail _).map _).fairly
  | some channel =>
    have here := (pinned?_eq_some_iff.mp pinned).1
    cases taken : channel.takeOffer with
    | some outcome =>
      obtain ⟨value, settled, after⟩ := outcome
      obtain ⟨skipped, wait, same, passed, serves⟩ := Channel.serves_takeOffer taken
      simp only [await, pinned, taken, same]
      refine ⟨_, sound.serves_setChannel here serves _ rfl _, fun occurrence listed => ?_⟩
      rw [List.mem_singleton.mp listed]
      refine .inr ⟨skipped, wait, value, rfl, fun other inside => ?_⟩
      have queued : bus.line channel.generation .senders = channel.senders.waiting := by
        rw [line, queue_of_identity? (sound.identity?_of_channel? here)]
        rfl
      show other ∈ bus.line channel.generation .senders ∧ other.parcel.offer? = none
      rw [queued]
      exact passed other inside
    | none =>
      simp only [await, pinned, taken]
      generalize (if channel.isRendezvous then 1 else 0) = hints
      have hinted := channel.serves_wake .senders hints
      have parks := ((sound.of_channel? here).wake .senders hints).serves_park .receivers .empty
        (some waker)
      have told : ((channel.front .senders hints).map (·.wokenNotice) ++
          [Notice.queued channel.receivers.nextKey] ++ [Notice.receiverParked handle]).filter
            Notice.isWoke = noticesOf (channel.wakings .senders (channel.front .senders hints) ++
              [(channel.wake .senders hints).occurrence .receivers
                (.joined ⟨channel.receivers.nextKey, some waker, .empty⟩)]) := by
        rw [List.append_assoc, List.filter_append, filter_wokenNotice, noticesOf_append,
          Channel.noticesOf_wakings]
        rfl
      refine ServesFirst.fairly ⟨_, sound.serves_setChannel here (hinted.trans parks)
        (·.countSuspended (channel.front .senders hints).length) told (Progress.parked
          ⟨call, ⟨handle, channel.generation, .receivers, channel.receivers.nextKey⟩⟩),
        fun occurrence listed => ?_⟩
      rcases List.mem_append.mp listed with hint | joins
      · exact Channel.isPlain_of_wakings hint
      · rw [List.mem_singleton.mp joins]
        rfl

/-- An attempt of a call on a handle serves whoever is first. -/
theorem Sound.servesFairly_attempt {bus : Bus α} (sound : bus.Sound) (generation : Nat)
    (waker : TaskId) {call : Call α} {handle : Handle} (named : call.handle? = some handle) :
    bus.ServesFairly [] (bus.attempt generation waker call) := by
  have counted : (bus.note (·.countError .wouldBlock)).Sound := (sound_note bus _).mpr sound
  have attempted := bus.attemptedOnce_attempt generation waker named
  generalize bus.attempt generation waker call = outcome at attempted
  cases attempted with
  | ended moves => exact (moves.servesFirst sound).fairly
  | offers _ value reply =>
    have serves := (counted.servesFirst_offer handle generation value waker call reply).fairly
    exact serves.of_note.after rfl
  | awaits _ reply =>
    have serves := counted.servesFairly_await handle generation waker call reply
    exact serves.of_note.after rfl

/-! ## Broadcasting -/

/-- A broadcaster that stands by joins the line of the senders. -/
theorem Sound.servesFirst_standBy {bus : Bus α} (sound : bus.Sound) (handle : Handle)
    (generation : Nat) (value : α) (waker : TaskId) :
    bus.ServesFirst (bus.standBy handle generation value waker) := by
  cases pinned : bus.pinned? handle generation with
  | none =>
    simp only [standBy, pinned]
    exact (bus.servesFirst_fail _).map _
  | some channel =>
    have here := (pinned?_eq_some_iff.mp pinned).1
    have serves := (sound.of_channel? here).serves_park .senders .empty (some waker)
    simp only [standBy, pinned]
    exact (sound.serves_setChannel here serves (·.countSuspended 0) rfl _).first rfl

/-- A wakeup that is passed on goes to the first sender. -/
theorem Sound.servesFirst_settleWakeup {bus : Bus α} (sound : bus.Sound)
    (previous : Option (Handle × Nat)) (stall : Option Stall) :
    bus.ServesFirst (bus.settleWakeup previous stall) := by
  unfold settleWakeup
  split
  case h_1 => exact bus.servesFirst_unchanged ()
  case h_2 handle generation =>
    split
    case isTrue => exact bus.servesFirst_unchanged ()
    case isFalse =>
      unfold passWakeupOn
      cases pinned : bus.pinned? handle generation with
      | none => exact bus.servesFirst_unchanged ()
      | some channel =>
        by_cases nobody :
            (if channel.canAccept then channel.front .senders 1 else []).isEmpty = true
        · simp only [nobody, if_true]
          exact bus.servesFirst_unchanged ()
        · have ready : channel.canAccept = true := by
            by_contra unready
            simp [unready] at nobody
          simp only [ready, if_true] at nobody ⊢
          rw [if_neg nobody]
          refine ⟨_, sound.serves_setChannel (pinned?_eq_some_iff.mp pinned).1
            (channel.serves_wake .senders 1) _ ?_ (), fun occurrence listed =>
              Channel.isPlain_of_wakings listed⟩
          rw [List.filter_append, filter_wokenNotice, Channel.noticesOf_wakings]
          exact List.append_nil _

/-- When every open channel is changed, what its own log lists happens to its queues. -/
theorem Sound.queues_overOpen {bus : Bus α} (sound : bus.Sound) {change : Channel α → Channel α}
    (keeps : ∀ handle channel, bus.channel? handle = some channel →
      (change channel).Sound ∧ (change channel).generation = channel.generation)
    {logOf : Channel α → List (Occurrence α)}
    (serves : ∀ channel ∈ bus.slots.filterMap id, channel.Serves (change channel) (logOf channel))
    (generation : Nat) (side : Side) (ascends : ByKey (bus.line generation side)) :
    InTurn side (bus.queue generation side)
      (happeningsAt ((bus.slots.filterMap id).flatMap logOf) generation side)
      ((bus.overOpen change).queue generation side) := by
  have home : ∀ channel ∈ bus.slots.filterMap id, ∀ occurrence ∈ logOf channel,
      occurrence.generation = channel.generation :=
    fun channel member => (serves channel member).home
  by_cases known : ∃ channel ∈ bus.slots.filterMap id, channel.generation = generation
  · obtain ⟨channel, member, rfl⟩ := known
    obtain ⟨handle, here⟩ := mem_slots.mp member
    have distinct : ((bus.slots.filterMap id).map (·.generation)).Nodup :=
      sound.distinct.sublist ((List.sublist_append_left _ _).map _)
    have named := sound.identity?_of_channel? here
    rw [line, queue_of_identity? named] at ascends
    rw [queue_of_identity? named, queue_of_identity? (sound.identity?_overOpen keeps here),
      happeningsAt_flatMap distinct home member]
    exact (serves channel member).queues side ascends
  · have closed : ∀ handle channel, bus.channel? handle = some channel →
        channel.generation ≠ generation := by
      intro handle channel here same
      exact known ⟨channel, mem_slots.mpr ⟨handle, here⟩, same⟩
    have nothing : happeningsAt ((bus.slots.filterMap id).flatMap logOf) generation side = [] := by
      apply happeningsAt_eq_nil
      intro occurrence logged same
      obtain ⟨channel, member, inside⟩ := List.mem_flatMap.mp logged
      exact known ⟨channel, member, (home channel member occurrence inside).symm.trans same⟩
    rw [nothing, queue, queue, sound.identity?_overOpen_of_closed keeps closed]
    exact .done

/-- Of the copies that all open channels are given, each goes to the first receiver of its channel,
or it wakes that receiver. -/
theorem Sound.servesFirst_giveAll {bus : Bus α} (sound : bus.Sound)
    (ready : ∀ handle channel, bus.channel? handle = some channel → channel.canAccept = true)
    (value : α) : bus.ServesFirst (bus.giveAll value) := by
  have gives : ∀ channel ∈ bus.slots.filterMap id,
      channel.Serves (channel.give value).2 (channel.given value) ∧
        noticesOf (channel.given value) = (channel.give value).1.map (·.wokenNotice) := by
    intro channel member
    obtain ⟨handle, here⟩ := mem_slots.mp member
    exact (sound.of_channel? here).serves_give (ready handle channel here) value
  refine ⟨(bus.slots.filterMap id).flatMap (·.given value),
    ⟨?_, fun generation side ascends => ?_⟩, fun occurrence listed => ?_⟩
  · have told : ((bus.slots.filterMap id).flatMap fun channel => (channel.give value).1).map
        (·.wokenNotice) = noticesOf ((bus.slots.filterMap id).flatMap (·.given value)) := by
      rw [noticesOf, List.map_flatMap, List.filterMap_flatMap]
      exact List.flatMap_congr fun channel member => (gives channel member).2.symm
    have listed := bus.flatMap_openChannels fun channel => (channel.give value).1
    rw [giveAll, listed, List.filter_append, filter_wokenNotice, told]
    exact List.append_nil _
  · have given : (bus.giveAll value).bus.queue generation side =
        (bus.overOpen fun channel => (channel.give value).2).queue generation side :=
      queue_note _ _ _ _
    rw [given]
    exact sound.queues_overOpen (sound.keeps_give ready value)
      (fun channel member => (gives channel member).1) generation side ascends
  · obtain ⟨channel, _, inside⟩ := List.mem_flatMap.mp listed
    exact Channel.isPlain_of_given inside

/-- A try of a broadcast serves whoever is first. -/
theorem Sound.servesFirst_broadcastTry {bus : Bus α} (sound : bus.Sound) (value : α)
    (previous : Option (Handle × Nat)) (waker : TaskId) :
    bus.ServesFirst (bus.broadcastTry value previous waker) := by
  rcases bus.broadcastOnce_cases Channel.canAccept value with
    ⟨_, once⟩ | ⟨handle, channel, _, _, once⟩ | ⟨ready, _, once⟩
  · rw [broadcastTry, once, unchanged_andThen]
    exact (sound.servesFirst_settleWakeup previous _).andThen ((servesFirst_fail _ _).map _)
  · have settled := sound.tries_settleWakeup previous
      (some (.refused handle channel.generation)) (.broadcast value)
    rw [broadcastTry, once, unchanged_andThen]
    exact (sound.servesFirst_settleWakeup previous _).andThen
      (settled.1.sound.servesFirst_standBy handle channel.generation value waker)
  · have given := (sound.tries_giveAll ready value (.broadcast value)).sound
    have first := (sound.servesFirst_giveAll ready value).map fun _ => (none : Option Stall)
    rw [broadcastTry, once]
    apply first.andThen
    exact (given.servesFirst_settleWakeup previous none).andThen (servesFirst_unchanged _ _)

/-- A broadcast that never waits serves whoever is first. -/
theorem Sound.servesFirst_tryBroadcast {bus : Bus α} (sound : bus.Sound) (value : α) :
    bus.ServesFirst (bus.tryBroadcast value) := by
  unfold tryBroadcast ensure
  split
  case isFalse => exact bus.servesFirst_fail _
  case isTrue =>
    rcases bus.broadcastOnce_cases (fun channel => !channel.isFull) value with
      ⟨_, once⟩ | ⟨handle, channel, _, _, once⟩ | ⟨spare, _, once⟩
    · rw [once, unchanged_andThen]
      exact bus.servesFirst_fail _
    · rw [once, unchanged_andThen]
      exact bus.servesFirst_fail _
    · have ready : ∀ handle channel, bus.channel? handle = some channel →
          channel.canAccept = true := by
        intro handle channel here
        simp [Channel.canAccept, spare handle channel here]
      have first := (sound.servesFirst_giveAll ready value).map fun _ => (none : Option Stall)
      rw [once]
      exact first.andThen (servesFirst_unchanged _ _)

/-! ## Starting, polling and dropping calls -/

/-- The first poll of a call serves whoever is first. -/
theorem Sound.servesFairly_start {bus : Bus α} (sound : bus.Sound) (call : Call α)
    (waker : TaskId) : bus.ServesFairly [] (bus.start call waker) := by
  cases enabled : bus.config.enables call with
  | false =>
    rw [start_of_disabled enabled]
    exact (bus.servesFirst_failing _ _).fairly
  | true =>
    cases named : call.handle? with
    | none =>
      obtain ⟨value, rfl⟩ := Call.eq_broadcast named
      rw [start_broadcast enabled]
      exact (sound.servesFirst_broadcastTry value none waker).fairly
    | some handle =>
      cases here : bus.channel? handle with
      | none =>
        rw [start_of_closed enabled named here]
        exact (bus.servesFirst_failing _ _).fairly
      | some channel =>
        rw [start_of_open enabled named here]
        exact sound.servesFairly_attempt channel.generation waker named

/-- A later try of a call that was woken serves whoever is first. -/
theorem Sound.servesFairly_wakeUp {bus : Bus α} (sound : bus.Sound) {suspended : Suspended α}
    {parcel : Parcel α} (finds : suspended.call.Finds parcel) (waker : TaskId) :
    bus.ServesFairly [] (bus.wakeUp suspended parcel waker) := by
  cases settled : suspended.call.settledReply parcel with
  | some reply =>
    rw [wakeUp_of_settled finds settled]
    exact (bus.servesFirst_unchanged _).fairly
  | none =>
    have unsettled := Call.unsettled_of_settledReply settled
    cases named : suspended.call.handle? with
    | none =>
      obtain ⟨call, ticket⟩ := suspended
      obtain ⟨value, rfl⟩ := Call.eq_broadcast named
      rw [wakeUp_broadcast]
      exact (sound.servesFirst_broadcastTry value _ waker).fairly
    | some handle =>
      obtain ⟨notices, woken, _, silent⟩ := wakeUp_of_unsettled finds unsettled named waker
      rw [woken]
      exact (sound.servesFairly_attempt suspended.ticket.generation waker named).after silent

section Parked

variable {bus : Bus α} {suspended : Suspended α}

/-- What happens to the queue that a ticket names when it is replaced. -/
theorem Houses.serves_setTicketQueue (houses : bus.Houses suspended) (sound : bus.Sound)
    {queue : WaitQueue α} {happenings : List (Happening α)}
    (inTurn : ByKey (bus.ticketQueue suspended.ticket).waiting →
      InTurn suspended.ticket.side (bus.ticketQueue suspended.ticket) happenings queue)
    {notices : List Notice}
    (told : notices.filter Notice.isWoke = happenings.filterMap Happening.notice?) (result : β) :
    bus.Serves { result, bus := bus.setTicketQueue suspended.ticket queue, notices }
      (happenings.map suspended.ticket.occurrence) := by
  obtain ⟨channel, found, named, _, queueHere⟩ := houses.ticketed sound
  have same := (sound.identity?_eq_some_iff.mp named).2
  have replaces := sound.replaces_setTicketQueue found queue
  rw [queueHere] at inTurn
  have serves := Channel.serves_setQueue inTurn
  have log : happenings.map (channel.occurrence suspended.ticket.side) =
      happenings.map suspended.ticket.occurrence := by
    apply congrArg (happenings.map ·)
    funext happening
    rw [Channel.occurrence, Ticket.occurrence, same]
  refine ⟨?_, fun generation side ascends => ?_⟩
  · rw [← log, Channel.noticesOf_occurrence]
    exact told
  · rw [← log]
    exact replaces.queues sound serves generation side ascends

/-- Resuming a woken call moves nobody. -/
theorem Houses.line_forget (houses : bus.Houses suspended) (sound : bus.Sound) (generation : Nat)
    (side : Side) : (bus.setTicketQueue suspended.ticket ((bus.ticketQueue suspended.ticket).forget
      suspended.ticket.key)).line generation side = bus.line generation side := by
  obtain ⟨channel, found, named, _, queueHere⟩ := houses.ticketed sound
  have same := (sound.identity?_eq_some_iff.mp named).2
  have replaces := sound.replaces_setTicketQueue found
    ((bus.ticketQueue suspended.ticket).forget suspended.ticket.key)
  rw [line, queue, replaces.identity? sound, line, queue]
  by_cases here : generation = channel.generation
  · rw [if_pos here, here, same, named]
    show ((channel.setQueue _ _).queue side).waiting = (channel.queue side).waiting
    rw [Channel.queue_setQueue_eq, queueHere]
    by_cases there : side = suspended.ticket.side
    · rw [if_pos there, there]
      rfl
    · rw [if_neg there]
  · rw [if_neg here]

/-- A woken call forgets its own wait. -/
theorem Houses.serves_forget (houses : bus.Houses suspended) (sound : bus.Sound)
    (dequeued : (bus.ticketQueue suspended.ticket).holds suspended.ticket.key = false) :
    bus.Serves
      { result := ()
        bus := (bus.setTicketQueue suspended.ticket
          ((bus.ticketQueue suspended.ticket).forget suspended.ticket.key))
        notices := [] }
      [suspended.ticket.occurrence (.forgotten suspended.ticket.key)] :=
  houses.serves_setTicketQueue sound
    (fun _ => .single (Happening.befalls_forget suspended.ticket.side dequeued)) rfl ()

/-- A poll of a parked call serves whoever is first, after it has forgotten its wait if that was
woken. -/
theorem Houses.servesFairly_resume (houses : bus.Houses suspended) (sound : bus.Sound)
    (waker : TaskId) :
    ∃ own : List (Occurrence α), bus.ServesFairly own (bus.resume suspended waker) ∧
      ∀ occurrence ∈ own,
        occurrence = suspended.ticket.occurrence (.forgotten suspended.ticket.key) := by
  cases queued : (bus.ticketQueue suspended.ticket).holds suspended.ticket.key with
  | true =>
    have renames : ByKey (bus.ticketQueue suspended.ticket).waiting →
        InTurn suspended.ticket.side (bus.ticketQueue suspended.ticket)
          [.renamed suspended.ticket.key waker]
          ((bus.ticketQueue suspended.ticket).refresh suspended.ticket.key waker) :=
      fun _ => .single (.renamed (WaitQueue.holds_iff.mp queued))
    refine ⟨[], ?_, fun _ listed => absurd listed List.not_mem_nil⟩
    rw [resume_of_queued queued]
    exact ((houses.serves_setTicketQueue sound renames rfl _).first rfl).fairly
  | false =>
    obtain ⟨parcel, held, finds⟩ := houses.parcel
    have lies := (houses.parcel?_ticketQueue sound).trans held
    have clears := houses.clears_forget sound queued
    refine ⟨_, ?_, fun _ listed => List.mem_singleton.mp listed⟩
    rw [resume_of_dequeued queued lies]
    exact (clears.sound.servesFairly_wakeUp finds waker).afterOwn
      (houses.serves_forget sound queued) (houses.line_forget sound)

/-- A drop of a call that is queued takes it out of its line. -/
theorem Houses.servesFairly_cancel_of_queued (houses : bus.Houses suspended) (sound : bus.Sound)
    (queued : (bus.ticketQueue suspended.ticket).holds suspended.ticket.key = true) :
    bus.ServesFairly [suspended.ticket.occurrence (.withdrawn suspended.ticket.key)]
      (bus.cancel suspended) := by
  have withdrawn : (bus.ticketQueue suspended.ticket).departure suspended.ticket.key =
      .withdrawn := by simp [WaitQueue.departure, queued]
  have leaves : ByKey (bus.ticketQueue suspended.ticket).waiting →
      InTurn suspended.ticket.side (bus.ticketQueue suspended.ticket)
        [.withdrawn suspended.ticket.key]
        ((bus.ticketQueue suspended.ticket).leave suspended.ticket.key) := by
    intro _
    rw [WaitQueue.leave, withdrawn]
    exact .single (.withdrawn (WaitQueue.holds_iff.mp queued))
  refine ⟨[], ?_, fun _ listed => absurd listed List.not_mem_nil⟩
  rw [cancel, withdrawn]
  exact houses.serves_setTicketQueue sound leaves rfl ()

/-- A drop of a call that was woken passes its wakeup on to the first in line, or to nobody. -/
theorem Houses.servesFairly_cancel_of_dequeued (houses : bus.Houses suspended) (sound : bus.Sound)
    (dequeued : (bus.ticketQueue suspended.ticket).holds suspended.ticket.key = false) :
    bus.ServesFairly [suspended.ticket.occurrence (.forgotten suspended.ticket.key)]
      (bus.cancel suspended) := by
  have forgets := Happening.befalls_forget suspended.ticket.side dequeued
  -- Whatever the wait held, its task forgets it; only an unused wakeup goes on to somebody else.
  have settles : ∀ departure, (bus.ticketQueue suspended.ticket).departure suspended.ticket.key =
      departure → (bus.ticketQueue suspended.ticket).leave suspended.ticket.key =
        (bus.ticketQueue suspended.ticket).forget suspended.ticket.key →
      (departureNotices suspended.ticket.key departure).filter Notice.isWoke = [] →
      bus.ServesFairly [suspended.ticket.occurrence (.forgotten suspended.ticket.key)]
        (bus.cancel suspended) := by
    intro departure departs left silent
    rw [cancel, departs, left]
    exact ⟨[], houses.serves_setTicketQueue sound (fun _ => .single forgets) silent (),
      fun _ listed => absurd listed List.not_mem_nil⟩
  rcases WaitQueue.departure_of_dequeued dequeued with departs | ⟨value, departs⟩ | departs
  · exact settles _ departs (by rw [WaitQueue.leave, departs]) rfl
  · exact settles _ departs (by rw [WaitQueue.leave, departs]) rfl
  · rw [cancel, departs, WaitQueue.leave, departs]
    have wakes : ByKey (bus.ticketQueue suspended.ticket).waiting →
        InTurn suspended.ticket.side (bus.ticketQueue suspended.ticket)
          (.forgotten suspended.ticket.key :: (((bus.ticketQueue suspended.ticket).forget
            suspended.ticket.key).front 1).map .woken)
          (((bus.ticketQueue suspended.ticket).forget suspended.ticket.key).wake 1) := by
      intro ascends
      have still : ByKey ((bus.ticketQueue suspended.ticket).forget
          suspended.ticket.key).waiting := ascends
      exact .next forgets (still.wake suspended.ticket.side 1)
    refine ⟨_, houses.serves_setTicketQueue sound wakes ?_ (), fun occurrence listed => ?_⟩
    · show _ = (((bus.ticketQueue suspended.ticket).waiting.take 1).map Happening.woken).filterMap
        Happening.notice?
      cases line : (bus.ticketQueue suspended.ticket).waiting with
      | nil => rfl
      | cons first rest => rfl
    · simp only [List.map_map, List.mem_map] at listed
      obtain ⟨wait, _, rfl⟩ := listed
      exact .inl rfl

/-- A drop of a parked call serves whoever is first, after its own wait is gone. -/
theorem Houses.servesFairly_cancel (houses : bus.Houses suspended) (sound : bus.Sound) :
    ∃ own : List (Occurrence α), bus.ServesFairly own (bus.cancel suspended) ∧
      ∀ occurrence ∈ own,
        occurrence = suspended.ticket.occurrence (.forgotten suspended.ticket.key) ∨
          occurrence = suspended.ticket.occurrence (.withdrawn suspended.ticket.key) := by
  cases queued : (bus.ticketQueue suspended.ticket).holds suspended.ticket.key with
  | true =>
    exact ⟨_, houses.servesFairly_cancel_of_queued sound queued,
      fun _ listed => .inr (List.mem_singleton.mp listed)⟩
  | false =>
    exact ⟨_, houses.servesFairly_cancel_of_dequeued sound queued,
      fun _ listed => .inl (List.mem_singleton.mp listed)⟩

end Parked

/-! ## Opening and closing -/

/-- Opening a channel moves nobody. -/
theorem Sound.servesFirst_openChannel [Stored α] {bus : Bus α} (sound : bus.Sound)
    (capacity : Nat) : bus.ServesFirst (bus.openChannel capacity) := by
  have silent : (bus.openChannel capacity).notices.filter Notice.isWoke = [] := by
    unfold openChannel
    simp only
    split
    · rfl
    · rfl
  refine servesFirst_of_still silent fun generation side => ?_
  rcases bus.openChannel_cases capacity with ⟨_, handle, _, opens⟩ | ⟨_, _, skipped⟩
  · rw [queue, opens.identity? sound, queue]
    by_cases new : generation = bus.nextGeneration
    · rw [if_pos new, new, sound.identity?_next (Nat.le_refl _)]
      cases side <;> rfl
    · rw [if_neg new]
  · rw [skipped]
    rfl

/-- The notices of a closing tell all senders in the order of their line, and then all receivers. -/
theorem filter_notices_close {bus : Bus α} {handle : Handle} {channel : Channel α}
    (here : bus.channel? handle = some channel) :
    (bus.close handle).notices.filter Notice.isWoke =
      (channel.senders.waiting ++ channel.receivers.waiting).map (·.wokenNotice) := by
  simp only [close, here]
  rw [List.filter_append, filter_wokenNotice]
  exact List.append_nil _

/-- Closing serves whoever is first, until nobody is left. -/
theorem Sound.servesFirst_close {bus : Bus α} (sound : bus.Sound) (handle : Handle) :
    bus.ServesFirst (bus.close handle) := by
  cases here : bus.channel? handle with
  | none =>
    rw [close, here]
    exact bus.servesFirst_unchanged ()
  | some channel =>
    refine ⟨_, ⟨?_, fun generation side ascends =>
      (replaces_close here).queues sound channel.serves_closed generation side ascends⟩,
      fun occurrence listed => ?_⟩
    · rw [filter_notices_close here, noticesOf_append, Channel.noticesOf_wakings,
        Channel.noticesOf_wakings, List.map_append]
    · rcases List.mem_append.mp listed with sender | receiver
      · exact Channel.isPlain_of_wakings sender
      · exact Channel.isPlain_of_wakings receiver

/-- Closing several channels serves whoever is first. -/
theorem Sound.servesFirst_closeAll {bus : Bus α} (sound : bus.Sound) (handles : List Handle) :
    bus.ServesFirst (bus.closeAll handles) := by
  induction handles generalizing bus with
  | nil => exact bus.servesFirst_unchanged ()
  | cons handle rest ih =>
    exact (sound.servesFirst_close handle).andThen (ih (sound.shuts_close handle).sound)

/-- Deleting serves whoever is first. -/
theorem Sound.servesFirst_delete {bus : Bus α} (sound : bus.Sound) :
    bus.ServesFirst bus.delete := by
  rw [delete]
  apply (sound.servesFirst_closeAll ((List.range bus.slots.length).map Handle.mk)).andThen
  refine servesFirst_of_still ?_ fun generation side => ?_
  · show (if bus.slots.length = 0 then [] else [Notice.released _]).filter _ = []
    by_cases none : bus.slots.length = 0
    · rw [if_pos none, List.filter_nil]
    · rw [if_neg none]
      rfl
  · have kept := known_release bus.channel?_closeAll_slots
    rw [queue, queue, identity?, identity?, kept]

/-- A request serves whoever is first. -/
theorem Sound.servesFirst_perform [Stored α] {bus : Bus α} (sound : bus.Sound)
    (request : Request α) : bus.ServesFirst (bus.perform request) := by
  cases request with
  | isOpen | capacity | length | waiting | channelCount | handles | stats =>
    exact bus.servesFirst_unchanged _
  | openChannel capacity =>
    rw [perform]
    exact (sound.servesFirst_openChannel capacity).map _
  | close handle =>
    rw [perform]
    exact (sound.servesFirst_close handle).map _
  | delete =>
    rw [perform]
    exact sound.servesFirst_delete.map _
  | trySend | tryReceive | trySendMany | tryReceiveMany =>
    exact MovesAtOnce.servesFirst (bus.movesAtOnce_perform rfl rfl) sound
  | tryBroadcast value =>
    rw [perform]
    exact (sound.servesFirst_tryBroadcast value).map _

end Bus

end ChannelBus
