import ChannelBus.Proofs.Attempts
import ChannelBus.Proofs.Exclusion
import ChannelBus.Proofs.Parcels

/-!
# Whom a waiting receiver wakes

A receiver that waits for a rendezvous is room for a broadcaster. Two operations wake a sender on
its behalf: the receiver gives a hint when it parks, and a broadcaster that needs its wakeup no
longer passes it on. A receiver parks only if nothing is on offer, and a broadcaster passes its
wakeup on only while a receiver waits, so neither of them ever wakes a plain sender.

Whom an operation wakes is read off its notices. Every other operation is `Outcome.Quiet`: it passes
no wakeup on.
-/

namespace ChannelBus

variable {α : Type}

namespace Session

variable {session : Session α}

/-- Whether a call that broadcasts is queued at this address. -/
def Broadcaster (session : Session α) (address : Address) : Prop :=
  ∃ id parked value, session.waiting? id = some parked ∧ parked.call = .broadcast value ∧
    parked.ticket.address = address ∧
    (session.bus.ticketQueue parked.ticket).holds address.key = true

/-- A queued sender of any channel that offers nothing is a broadcaster. -/
theorem Lawful.broadcaster_of_known (lawful : session.Lawful) {channel : Channel α}
    (known : channel ∈ session.bus.known) {wait : Wait α}
    (queued : wait ∈ channel.senders.waiting) (nothing : wait.parcel.offer? = none) :
    session.Broadcaster ⟨channel.generation, .senders, wait.key⟩ := by
  obtain ⟨id, parked, waits, same, queueHere, sends, finds, unsettled⟩ :=
    lawful.owner known .senders queued
  rcases finds.left sends unsettled with ⟨_, value, broadcasts⟩ | ⟨value, _, offered⟩
  · refine ⟨id, parked, value, waits, broadcasts, same, ?_⟩
    rw [queueHere]
    exact WaitQueue.holds_iff.mpr ⟨wait, queued, rfl⟩
  · rw [offered] at nothing
    contradiction

/-- A queued sender of an open channel that offers nothing is a broadcaster. -/
theorem Lawful.broadcaster (lawful : session.Lawful) {handle : Handle} {channel : Channel α}
    (here : session.bus.channel? handle = some channel) {wait : Wait α}
    (queued : wait ∈ channel.senders.waiting) (nothing : wait.parcel.offer? = none) :
    session.Broadcaster ⟨channel.generation, .senders, wait.key⟩ :=
  lawful.broadcaster_of_known (Bus.mem_known.mpr (.inl ⟨handle, here⟩)) queued nothing

end Session

namespace Bus

/-- Whom a parking receiver wakes: queued senders of its channel that offer nothing. -/
def Hints (bus : Bus α) (handle : Handle) (outcome : Outcome α (Progress α)) : Prop :=
  ∀ suspended, outcome.result = .parked suspended → ∃ channel,
    bus.channel? handle = some channel ∧ channel.generation = suspended.ticket.generation ∧
    ∀ key waker, .woke key waker ∈ outcome.notices →
      ∃ wait ∈ channel.senders.waiting, wait.key = key ∧ wait.parcel.offer? = none

/-- An outcome that does not park a call hints at nobody. -/
theorem hints_of_finished {bus : Bus α} {handle : Handle} {outcome : Outcome α (Progress α)}
    (ends : outcome.result.suspended? = none) : bus.Hints handle outcome := by
  intro suspended parks
  rw [parks] at ends
  contradiction

/-- Notices that wake nobody make no difference. -/
theorem Hints.after {bus : Bus α} {handle : Handle} {outcome : Outcome α (Progress α)}
    (hints : bus.Hints handle outcome) {notices : List Notice}
    (silent : ∀ key waker, .woke key waker ∉ notices) :
    bus.Hints handle (outcome.after notices) := by
  intro suspended parks
  obtain ⟨channel, here, generation, wakes⟩ := hints suspended parks
  refine ⟨channel, here, generation, fun key waker woken => ?_⟩
  rcases List.mem_append.mp woken with before | within
  · exact absurd before (silent key waker)
  · exact wakes key waker within

/-- A receiver that parks hints at a sender only if nothing is on offer. -/
theorem hints_await (bus : Bus α) (handle : Handle) (generation : Nat) (waker : TaskId)
    (call : Call α) (reply : Result α → Reply α) :
    bus.Hints handle (bus.await handle generation waker call reply) := by
  cases pinned : bus.pinned? handle generation with
  | none =>
    exact hints_of_finished (by simp [await, pinned, fail, Outcome.map, Progress.suspended?])
  | some channel =>
    have here := (pinned?_eq_some_iff.mp pinned).1
    cases taken : channel.takeOffer with
    | some outcome => exact hints_of_finished (by simp [await, pinned, taken, Progress.suspended?])
    | none =>
      simp only [await, pinned, taken]
      intro suspended parks
      obtain rfl := Progress.parked.inj parks
      refine ⟨channel, here, by simp, fun key other woken => ?_⟩
      simp only [Outcome.andThen, Outcome.after, park, List.mem_append, List.mem_map,
        List.mem_singleton, reduceCtorEq, or_false] at woken
      obtain ⟨wait, front, same⟩ := woken
      obtain ⟨rfl, _⟩ := Notice.woke.inj same
      have queued : wait ∈ channel.senders.waiting := List.mem_of_mem_take front
      refine ⟨wait, queued, rfl, ?_⟩
      cases rendezvous : channel.isRendezvous with
      | true => exact Channel.offer?_of_takeOffer taken rendezvous wait queued
      | false => simp [rendezvous, Channel.front, WaitQueue.front] at front

/-- A try of a receiving call hints at nobody but senders that offer nothing. -/
theorem hints_attempt (bus : Bus α) {handle : Handle} {call : Call α}
    (named : call.handle? = some handle) (receives : call.side = .receivers) (generation : Nat)
    (waker : TaskId) : bus.Hints handle (bus.attempt generation waker call) := by
  have attempted := bus.attemptedOnce_attempt generation waker named
  generalize bus.attempt generation waker call = outcome at attempted
  cases attempted with
  | ended moves ends => exact hints_of_finished (by rw [ends, Progress.suspended?])
  | offers sends =>
    rw [receives] at sends
    contradiction
  | awaits _ reply =>
    refine Hints.after (fun suspended parks => ?_) (by simp)
    obtain ⟨channel, here, rest⟩ :=
      (bus.note (·.countError .wouldBlock)).hints_await handle generation waker call reply
        suspended parks
    rw [channel?_note] at here
    exact ⟨channel, here, rest⟩

/-- The first poll of a receiving call hints at nobody but senders that offer nothing. -/
theorem hints_start (bus : Bus α) {handle : Handle} {call : Call α}
    (named : call.handle? = some handle) (receives : call.side = .receivers) (waker : TaskId) :
    bus.Hints handle (bus.start call waker) := by
  cases enabled : bus.config.enables call with
  | false =>
    rw [start_of_disabled enabled]
    exact hints_of_finished rfl
  | true =>
    cases here : bus.channel? handle with
    | none =>
      rw [start_of_closed enabled named here]
      exact hints_of_finished rfl
    | some channel =>
      rw [start_of_open enabled named here]
      exact bus.hints_attempt named receives _ waker

/-- A woken receiving call hints at nobody but senders that offer nothing. -/
theorem hints_wakeUp (bus : Bus α) {handle : Handle} {suspended : Suspended α}
    (named : suspended.call.handle? = some handle) (receives : suspended.call.side = .receivers)
    (parcel : Parcel α) (waker : TaskId) :
    bus.Hints handle (bus.wakeUp suspended parcel waker) := by
  obtain ⟨call, ticket⟩ := suspended
  have tried := bus.hints_attempt named receives ticket.generation waker
  cases call with
  | send | sendMany | broadcast => contradiction
  | receive target =>
    cases parcel with
    | delivered value => exact hints_of_finished rfl
    | empty | offered | taken => exact tried.after (by simp)
  | receiveMany target max =>
    cases parcel with
    | delivered value => exact hints_of_finished rfl
    | empty | offered | taken => exact tried

end Bus

/-! ## Wakeups that are passed on -/

/-- Whether an operation passes no wakeup on. -/
def Outcome.Quiet {β : Type} (outcome : Outcome α β) : Prop :=
  ∀ handle, Notice.wakeupPassedOn handle ∉ outcome.notices

namespace Outcome

variable {β γ : Type}

/-- To wake some waits is not yet to pass a wakeup on. -/
theorem passes_wokenNotice (waits : List (Wait α)) (handle : Handle) :
    Notice.wakeupPassedOn handle ∉ waits.map (·.wokenNotice) := by
  simp [Wait.wokenNotice]

/-- The answer makes no difference. -/
theorem Quiet.map {outcome : Outcome α β} (quiet : outcome.Quiet) (change : β → γ) :
    (outcome.map change).Quiet := quiet

/-- Other notices before those of an operation make no difference. -/
theorem Quiet.after {outcome : Outcome α β} (quiet : outcome.Quiet) {notices : List Notice}
    (silent : ∀ handle, Notice.wakeupPassedOn handle ∉ notices) :
    (outcome.after notices).Quiet := by
  intro handle passes
  rcases List.mem_append.mp passes with before | within
  · exact silent handle before
  · exact quiet handle within

/-- One quiet operation after another. -/
theorem Quiet.andThen {outcome : Outcome α β} (quiet : outcome.Quiet)
    {next : β → Bus α → Outcome α γ} (quietNext : (next outcome.result outcome.bus).Quiet) :
    (outcome.andThen next).Quiet := by
  intro handle passes
  rcases List.mem_append.mp passes with first | second
  · exact quiet handle first
  · exact quietNext handle second

end Outcome

namespace Bus

section Quietness

variable (bus : Bus α)

/-- Failing passes no wakeup on. -/
theorem quiet_fail {β : Type} (error : BusError) :
    (bus.fail error : Outcome α (Result β)).Quiet := by
  simp [Outcome.Quiet, fail]

/-- Doing nothing passes no wakeup on. -/
theorem quiet_unchanged {β : Type} (result : β) : (bus.unchanged result).Quiet := by
  simp [Outcome.Quiet, unchanged]

/-- Values that move at once pass no wakeup on. -/
theorem MovesAtOnce.quiet {bus : Bus α} {outcome : Outcome α β} (moves : bus.MovesAtOnce outcome) :
    outcome.Quiet := by
  cases moves with
  | failed => simp [Outcome.Quiet, failing]
  | idle => exact bus.quiet_unchanged _
  | moved => exact Outcome.passes_wokenNotice _

/-- A stuck sender passes no wakeup on. -/
theorem quiet_offer (handle : Handle) (generation : Nat) (value : α) (waker : TaskId)
    (call : Call α) (reply : Result Unit → Reply α) :
    (bus.offer handle generation value waker call reply).Quiet := by
  unfold offer
  split
  · exact (bus.quiet_fail _).map _
  · split
    · simp [Outcome.Quiet, Wait.wokenNotice]
    · simp [Outcome.Quiet, Outcome.andThen, park]

/-- A stuck receiver passes no wakeup on. -/
theorem quiet_await (handle : Handle) (generation : Nat) (waker : TaskId) (call : Call α)
    (reply : Result α → Reply α) : (bus.await handle generation waker call reply).Quiet := by
  unfold await
  split
  · exact (bus.quiet_fail _).map _
  · split
    · simp [Outcome.Quiet, Wait.wokenNotice]
    · simp [Outcome.Quiet, Outcome.andThen, Outcome.after, park, Wait.wokenNotice]

/-- A call on a handle passes no wakeup on. -/
theorem quiet_attempt {call : Call α} (named : call.handle?.isSome = true) (generation : Nat)
    (waker : TaskId) : (bus.attempt generation waker call).Quiet := by
  obtain ⟨handle, target⟩ := Option.isSome_iff_exists.mp named
  have attempted := bus.attemptedOnce_attempt generation waker target
  generalize bus.attempt generation waker call = outcome at attempted
  cases attempted with
  | ended moves => exact moves.quiet
  | offers _ value reply => exact (quiet_offer _ _ _ _ _ _ reply).after (by simp)
  | awaits _ reply => exact (quiet_await _ _ _ _ _ reply).after (by simp)

/-- The first poll of a call on a handle passes no wakeup on. -/
theorem quiet_start {call : Call α} (named : call.handle?.isSome = true) (waker : TaskId) :
    (bus.start call waker).Quiet := by
  obtain ⟨handle, handled⟩ := Option.isSome_iff_exists.mp named
  cases enabled : bus.config.enables call with
  | false =>
    rw [start_of_disabled enabled]
    simp [Outcome.Quiet, failing]
  | true =>
    cases here : bus.channel? handle with
    | none =>
      rw [start_of_closed enabled handled here]
      simp [Outcome.Quiet, failing]
    | some channel =>
      rw [start_of_open enabled handled here]
      exact bus.quiet_attempt named _ waker

/-- A woken call on a handle passes no wakeup on. -/
theorem quiet_wakeUp {suspended : Suspended α} (named : suspended.call.handle?.isSome = true)
    (parcel : Parcel α) (waker : TaskId) : (bus.wakeUp suspended parcel waker).Quiet := by
  have tried (call : Call α) (handled : call.handle?.isSome = true) :=
    bus.quiet_attempt handled suspended.ticket.generation waker
  obtain ⟨call, ticket⟩ := suspended
  cases call with
  | broadcast => contradiction
  | send target value =>
    cases parcel with
    | taken => exact bus.quiet_unchanged _
    | empty | delivered => exact (tried (.send target value) rfl).after (by simp)
    | offered offer => exact (tried (.send target offer) rfl).after (by simp)
  | sendMany target values =>
    cases parcel with
    | taken => exact bus.quiet_unchanged _
    | empty | delivered | offered => exact tried (.sendMany target values) rfl
  | receive target =>
    cases parcel with
    | delivered value => exact bus.quiet_unchanged _
    | empty | taken | offered => exact (tried (.receive target) rfl).after (by simp)
  | receiveMany target max =>
    cases parcel with
    | delivered value => exact bus.quiet_unchanged _
    | empty | taken | offered => exact tried (.receiveMany target max) rfl

/-- Giving every channel its copy passes no wakeup on. -/
theorem quiet_giveAll (value : α) : (bus.giveAll value).Quiet := by
  simp [Outcome.Quiet, giveAll, Wait.wokenNotice]

/-- Asking all channels, and giving them their copies, passes no wakeup on. -/
theorem quiet_broadcastOnce (ready : Channel α → Bool) (value : α) :
    (bus.broadcastOnce ready value).Quiet := by
  unfold broadcastOnce
  split
  · exact bus.quiet_unchanged _
  · exact (bus.quiet_giveAll value).map _

/-- Closing channels passes no wakeup on. -/
theorem quiet_closeAll (bus : Bus α) (handles : List Handle) : (bus.closeAll handles).Quiet := by
  induction handles generalizing bus with
  | nil => exact bus.quiet_unchanged ()
  | cons handle rest ih =>
    have closes : (bus.close handle).Quiet := by
      unfold close
      split
      · exact bus.quiet_unchanged ()
      · simp [Outcome.Quiet, Wait.wokenNotice]
    exact closes.andThen (ih _)

/-- A request passes no wakeup on. -/
theorem quiet_perform [Stored α] (request : Request α) : (bus.perform request).Quiet := by
  cases request with
  | isOpen | capacity | length | waiting | channelCount | handles | stats =>
    exact bus.quiet_unchanged _
  | openChannel capacity =>
    refine Outcome.Quiet.map ?_ _
    unfold openChannel
    simp only
    split
    · simp [Outcome.Quiet]
    · exact quiet_unchanged _ _
  | close handle =>
    intro other passes
    refine bus.quiet_closeAll [handle] other ?_
    rw [closeAll, Outcome.andThen]
    exact List.mem_append_left _ passes
  | delete =>
    refine Outcome.Quiet.map (Outcome.Quiet.andThen (bus.quiet_closeAll _) ?_) _
    simp only [Outcome.Quiet]
    split <;> simp
  | trySend | tryReceive | trySendMany | tryReceiveMany =>
    exact MovesAtOnce.quiet (bus.movesAtOnce_perform rfl rfl)
  | tryBroadcast value =>
    refine Outcome.Quiet.map ?_ _
    unfold tryBroadcast ensure
    split
    case isFalse => exact bus.quiet_fail _
    case isTrue =>
      refine (bus.quiet_broadcastOnce _ value).andThen ?_
      split
      · exact quiet_unchanged _ _
      · exact quiet_fail _ _
      · exact quiet_fail _ _

/-- Dropping a call passes no wakeup on as a broadcaster does. -/
theorem quiet_cancel (suspended : Suspended α) : (bus.cancel suspended).Quiet := by
  intro handle passes
  simp only [cancel] at passes
  cases departs : (bus.ticketQueue suspended.ticket).departure suspended.ticket.key with
  | settled | withdrawn | discarded => simp [departs, departureNotices] at passes
  | passedOn next => simp [departs, departureNotices, Wait.wokenNotice] at passes

end Quietness

/-- The same senders are queued on the channels that are open afterwards. -/
def SameSenders (bus after : Bus α) : Prop :=
  ∀ handle new, after.channel? handle = some new → ∃ channel, bus.channel? handle = some channel ∧
    channel.generation = new.generation ∧ channel.capacity = new.capacity ∧
    channel.senders.waiting = new.senders.waiting

/-- Giving every ready channel its copy keeps the queued senders. -/
theorem Sound.sameSenders_giveAll {bus : Bus α} (sound : bus.Sound)
    (ready : ∀ handle channel, bus.channel? handle = some channel → channel.canAccept = true)
    (value : α) : bus.SameSenders (bus.giveAll value).bus := by
  obtain ⟨update, given⟩ := bus.bus_giveAll value
  rw [given]
  intro handle new here
  rw [channel?_note, channel?_overOpen, Option.map_eq_some_iff] at here
  obtain ⟨channel, there, rfl⟩ := here
  have channelSound := sound.of_channel? there
  obtain ⟨_, generation, capacity⟩ := channelSound.give (ready handle channel there) value
  refine ⟨channel, there, generation.symm, capacity.symm, ?_⟩
  rcases channelSound.give_cases (ready handle channel there) value with
    ⟨_, gives⟩ | ⟨_, served, after, handed, gives⟩
  · rw [gives]
    rfl
  · obtain ⟨_, wait, later, _, _, _, rfl⟩ := channelSound.handOff_eq_some handed
    rw [gives]
    rfl

/-- Resuming a woken call keeps the queued senders. -/
theorem sameSenders_forget {bus : Bus α} {ticket : Ticket} (homed : bus.Homes ticket) (key : Nat) :
    bus.SameSenders (bus.setTicketQueue ticket ((bus.ticketQueue ticket).forget key)) := by
  intro handle new here
  rw [channel?_setTicketQueue homed, Option.map_eq_some_iff] at here
  obtain ⟨channel, there, rfl⟩ := here
  refine ⟨channel, there, ?_⟩
  split
  case isFalse => exact ⟨rfl, rfl, rfl⟩
  case isTrue same =>
    obtain rfl := homed handle channel there same
    have queueHere : bus.ticketQueue ticket = channel.queue ticket.side := by
      simp [ticketQueue, ticketed?, pinned?_eq_some_iff.mpr ⟨there, same⟩]
    refine ⟨(Channel.generation_setQueue _ _ _).symm, (Channel.capacity_setQueue _ _ _).symm, ?_⟩
    rw [queueHere]
    cases ticket.side with
    | senders => rfl
    | receivers => rfl

/-- Where a wakeup is passed on, the notice before tells whom it wakes: a queued sender, which on a
rendezvous channel offers nothing. -/
def PassesOn {β : Type} (bus : Bus α) (outcome : Outcome α β) : Prop :=
  ∀ before handle after, outcome.notices = before ++ .wakeupPassedOn handle :: after →
    ∃ earlier channel, ∃ wait ∈ channel.senders.waiting, before = earlier ++ [wait.wokenNotice] ∧
      bus.channel? handle = some channel ∧ (channel.capacity = 0 → wait.parcel.offer? = none)

section Passing

variable {β γ : Type} {bus : Bus α} {outcome : Outcome α β}

/-- A quiet operation has nothing to show. -/
theorem passesOn_of_quiet (quiet : outcome.Quiet) (bus : Bus α) : bus.PassesOn outcome := by
  intro before handle after notices
  refine absurd ?_ (quiet handle)
  rw [notices]
  exact List.mem_append_right _ List.mem_cons_self

/-- The answer makes no difference. -/
theorem PassesOn.map (passes : bus.PassesOn outcome) (change : β → γ) :
    bus.PassesOn (outcome.map change) := passes

/-- Whom a wakeup goes to can be told from the senders that were queued before. -/
theorem PassesOn.of_sameSenders {middle : Bus α} (passes : middle.PassesOn outcome)
    (same : bus.SameSenders middle) : bus.PassesOn outcome := by
  intro before handle after notices
  obtain ⟨earlier, new, wait, queued, split, here, nothing⟩ := passes before handle after notices
  obtain ⟨channel, there, _, capacity, senders⟩ := same handle new here
  exact ⟨earlier, channel, wait, senders ▸ queued, split, there, capacity ▸ nothing⟩

/-- A wakeup is passed on, and then nothing else is. -/
theorem PassesOn.andThen (passes : bus.PassesOn outcome) {next : β → Bus α → Outcome α γ}
    (quiet : (next outcome.result outcome.bus).Quiet) : bus.PassesOn (outcome.andThen next) := by
  intro before handle after notices
  rcases List.append_eq_append_iff.mp notices with ⟨middle, rfl, later⟩ | ⟨middle, first, later⟩
  · refine absurd ?_ (quiet handle)
    rw [later]
    exact List.mem_append_right _ List.mem_cons_self
  · cases middle with
    | nil =>
      refine absurd ?_ (quiet handle)
      rw [List.nil_append] at later
      rw [← later]
      exact List.mem_cons_self
    | cons notice middle =>
      obtain ⟨rfl, _⟩ := List.cons.inj later
      exact passes before handle middle first

/-- After a quiet operation a wakeup is passed on. -/
theorem PassesOn.after_quiet (quiet : outcome.Quiet) (same : bus.SameSenders outcome.bus)
    {next : β → Bus α → Outcome α γ}
    (passes : outcome.bus.PassesOn (next outcome.result outcome.bus)) :
    bus.PassesOn (outcome.andThen next) := by
  have passesLater : outcome.bus.PassesOn (outcome.andThen next) := by
    intro before handle after notices
    rcases List.append_eq_append_iff.mp notices with ⟨middle, rfl, later⟩ | ⟨middle, first, later⟩
    · obtain ⟨earlier, channel, wait, queued, rfl, rest⟩ := passes middle handle after later
      exact ⟨outcome.notices ++ earlier, channel, wait, queued, (List.append_assoc _ _ _).symm,
        rest⟩
    · cases middle with
      | nil =>
        rw [List.append_nil] at first
        rw [List.nil_append] at later
        obtain ⟨earlier, channel, wait, _, split, _⟩ := passes [] handle after later.symm
        simp at split
      | cons notice middle =>
        obtain ⟨rfl, _⟩ := List.cons.inj later
        refine absurd ?_ (quiet handle)
        rw [first]
        exact List.mem_append_right _ List.mem_cons_self
  exact passesLater.of_sameSenders same

end Passing

/-- Settling the wakeup of a broadcaster passes it on to the first sender, which on a rendezvous
channel offers nothing: the channel is ready, so a receiver waits there. -/
theorem Exclusive.passesOn_settleWakeup {bus : Bus α} (exclusive : bus.Exclusive)
    (previous : Option (Handle × Nat)) (stall : Option Stall) :
    bus.PassesOn (bus.settleWakeup previous stall) := by
  cases previous with
  | none => exact passesOn_of_quiet (bus.quiet_unchanged ()) bus
  | some previous =>
    obtain ⟨handle, generation⟩ := previous
    rw [Bus.settleWakeup]
    split
    case isTrue => exact passesOn_of_quiet (bus.quiet_unchanged ()) bus
    case isFalse =>
      unfold passWakeupOn
      split
      case h_1 => exact passesOn_of_quiet (bus.quiet_unchanged ()) bus
      case h_2 channel pinned =>
        have here := (pinned?_eq_some_iff.mp pinned).1
        cases ready : channel.canAccept with
        | false => exact passesOn_of_quiet (bus.quiet_unchanged ()) bus
        | true =>
          cases queued : channel.senders.waiting with
          | nil =>
            have nobody : channel.front .senders 1 = [] := by
              simp [Channel.front, WaitQueue.front, Channel.queue, queued]
            simp only [nobody, if_true, List.isEmpty_nil]
            exact passesOn_of_quiet (bus.quiet_unchanged ()) bus
          | cons first later =>
            have front : channel.front .senders 1 = [first] := by
              simp [Channel.front, WaitQueue.front, Channel.queue, queued]
            simp only [front, if_true, List.isEmpty_cons, Bool.false_eq_true, if_false]
            intro before target after notices
            have member : first ∈ channel.senders.waiting := by simp [queued]
            obtain ⟨rfl, rfl⟩ : before = [first.wokenNotice] ∧ target = handle := by
              cases before with
              | nil => simp [Wait.wokenNotice] at notices
              | cons head tail =>
                cases tail with
                | nil => simp_all
                | cons second others => simp at notices
            refine ⟨[], channel, first, member, rfl, here, fun zero => ?_⟩
            have rendezvous : channel.isRendezvous = true := by simp [Channel.isRendezvous, zero]
            refine exclusive _ channel here rendezvous (fun nobody => ?_) first member
            simp [Channel.canAccept, Channel.isFull, zero, nobody, WaitQueue.isEmpty] at ready

/-- A broadcaster that needs its wakeup no longer passes it on to a queued sender, which on a
rendezvous channel offers nothing. -/
theorem Exclusive.passesOn_broadcastTry {bus : Bus α} (exclusive : bus.Exclusive)
    (sound : bus.Sound) (value : α) (previous : Option (Handle × Nat)) (waker : TaskId) :
    bus.PassesOn (bus.broadcastTry value previous waker) := by
  have asked : bus.SameSenders (bus.broadcastOnce Channel.canAccept value).bus ∧
      (bus.broadcastOnce Channel.canAccept value).bus.Exclusive := by
    have untouched : bus.SameSenders bus := fun handle new here => ⟨new, here, rfl, rfl, rfl⟩
    rcases bus.broadcastOnce_cases Channel.canAccept value with
      ⟨_, once⟩ | ⟨handle, channel, _, _, once⟩ | ⟨ready, _, once⟩
    · rw [once]
      exact ⟨untouched, exclusive⟩
    · rw [once]
      exact ⟨untouched, exclusive⟩
    · rw [once]
      exact ⟨sound.sameSenders_giveAll ready value, exclusive.giveAll sound ready value⟩
  refine PassesOn.after_quiet (bus.quiet_broadcastOnce _ value) asked.1
    ((asked.2.passesOn_settleWakeup previous _).andThen ?_)
  split
  · exact quiet_unchanged _ _
  · exact (quiet_fail _ _).map _
  · unfold standBy
    split
    · exact (quiet_fail _ _).map _
    · simp [Outcome.Quiet, Outcome.andThen, park]

end Bus

/-- A receiving call names a handle. -/
theorem Call.named_of_receives {call : Call α} (receives : call.side = .receivers) :
    ∃ handle, call.handle? = some handle := by
  cases call with
  | send | sendMany | broadcast => contradiction
  | receive handle | receiveMany handle => exact ⟨handle, rfl⟩

/-- A call that waits after a poll was parked by it. -/
theorem Progress.eq_parked {progress : Progress α} {suspended : Suspended α}
    (waits : progress.status = .waiting suspended) : progress = .parked suspended := by
  cases progress with
  | finished reply => simp [Progress.status] at waits
  | parked other => rw [Status.waiting.inj waits]

namespace Session

variable {session : Session α}

/-- A move that parks a receiving call wakes nobody but queued senders that offer nothing. -/
theorem Lawful.hints_act [Stored α] (lawful : session.Lawful) {move : Move α}
    {suspended : Suspended α} (parks : (session.act move).result = some (.waiting suspended))
    (receives : suspended.call.side = .receivers) {key : Nat} {waker : Option TaskId}
    (woken : .woke key waker ∈ (session.act move).notices) :
    ∃ handle channel, ∃ wait ∈ channel.senders.waiting,
      session.bus.channel? handle = some channel ∧
      channel.generation = suspended.ticket.generation ∧ wait.key = key ∧
      wait.parcel.offer? = none := by
  have sound := lawful.housed.sound
  cases move with
  | request request =>
    simp only [act, Outcome.map, Option.bind_eq_some_iff] at parks
    obtain ⟨answer, _, ends⟩ := parks
    cases answer <;> simp [Answer.status?] at ends
  | overwrite code => contradiction
  | drop id =>
    simp only [act] at parks
    split at parks <;> simp [Bus.unchanged, Outcome.map] at parks
  | start call other =>
    have parked := Progress.eq_parked (Option.some.inj parks)
    have tries := (session.bus.acts_start call other).tries sound
    rw [parked] at tries
    have same := (tries.parked suspended rfl).2.1
    rw [same] at receives
    obtain ⟨handle, handled⟩ := Call.named_of_receives receives
    obtain ⟨channel, here, generation, wakes⟩ :=
      session.bus.hints_start handled receives other suspended parked
    obtain ⟨wait, queued, keyed, nothing⟩ := wakes key waker woken
    exact ⟨handle, channel, wait, queued, here, generation, keyed, nothing⟩
  | poll id other =>
    cases waits : session.waiting? id with
    | none => simp [act, waits, Bus.unchanged] at parks
    | some former =>
      simp only [act, waits, Outcome.map] at parks woken
      have parked := Progress.eq_parked (Option.some.inj parks)
      have houses := lawful.housed.houses id former waits
      cases queued : (session.bus.ticketQueue former.ticket).holds former.ticket.key with
      | true =>
        rw [Bus.resume_of_queued queued] at woken
        contradiction
      | false =>
        obtain ⟨parcel, held, finds⟩ := houses.parcel
        rw [Bus.resume_of_dequeued queued ((houses.parcel?_ticketQueue sound).trans held)]
          at woken parked
        cases settled : former.call.settledReply parcel with
        | some reply =>
          rw [Bus.wakeUp_of_settled finds settled] at parked
          contradiction
        | none =>
          have tries := (Bus.acts_wakeUp _ finds (Call.unsettled_of_settledReply settled)
            houses.handle other).tries (houses.clears_forget sound queued).sound
          rw [parked] at tries
          have same := (tries.parked suspended rfl).2.1
          rw [same] at receives
          obtain ⟨handle, handled⟩ := Call.named_of_receives receives
          obtain ⟨new, now, generation, wakes⟩ :=
            Bus.hints_wakeUp _ handled receives parcel other suspended parked
          obtain ⟨wait, queuedNow, keyed, nothing⟩ := wakes key waker woken
          obtain ⟨channel, here, before, _, senders⟩ :=
            Bus.sameSenders_forget houses.homes _ handle new now
          exact ⟨handle, channel, wait, senders ▸ queuedNow, here, before.trans generation, keyed,
            nothing⟩

/-- A move that passes a wakeup on wakes a queued sender, which on a rendezvous channel offers
nothing. -/
theorem Lawful.passesOn_act [Stored α] (lawful : session.Lawful)
    (exclusive : session.bus.Exclusive) (move : Move α) :
    session.bus.PassesOn (session.act move) := by
  have sound := lawful.housed.sound
  cases move with
  | request request => exact Bus.passesOn_of_quiet ((session.bus.quiet_perform request).map _) _
  | overwrite code => exact Bus.passesOn_of_quiet (session.bus.quiet_unchanged _) _
  | drop id =>
    refine Bus.passesOn_of_quiet ?_ _
    simp only [act]
    split
    · exact session.bus.quiet_unchanged _
    · exact (session.bus.quiet_cancel _).map _
  | start call waker =>
    refine Bus.PassesOn.map ?_ _
    cases named : call.handle? with
    | some handle =>
      exact Bus.passesOn_of_quiet (session.bus.quiet_start (by simp [named]) waker) _
    | none =>
      obtain ⟨value, rfl⟩ := Call.eq_broadcast named
      cases enabled : session.bus.config.enables (.broadcast value) with
      | false =>
        rw [Bus.start_of_disabled enabled]
        exact Bus.passesOn_of_quiet (by simp [Outcome.Quiet, Bus.failing]) _
      | true =>
        rw [Bus.start_broadcast enabled]
        exact exclusive.passesOn_broadcastTry sound value none waker
  | poll id waker =>
    cases waits : session.waiting? id with
    | none =>
      simp only [act, waits]
      exact Bus.passesOn_of_quiet (session.bus.quiet_unchanged _) _
    | some suspended =>
      simp only [act, waits]
      refine Bus.PassesOn.map ?_ _
      have houses := lawful.housed.houses id suspended waits
      cases queued : (session.bus.ticketQueue suspended.ticket).holds suspended.ticket.key with
      | true =>
        rw [Bus.resume_of_queued queued]
        exact Bus.passesOn_of_quiet (by simp [Outcome.Quiet, Bus.unchanged]) _
      | false =>
        obtain ⟨parcel, held, _⟩ := houses.parcel
        rw [Bus.resume_of_dequeued queued ((houses.parcel?_ticketQueue sound).trans held)]
        cases named : suspended.call.handle? with
        | some handle =>
          exact Bus.passesOn_of_quiet (Bus.quiet_wakeUp _ (by simp [named]) parcel waker) _
        | none =>
          obtain ⟨call, ticket⟩ := suspended
          obtain ⟨value, rfl⟩ := Call.eq_broadcast named
          rw [Bus.wakeUp_broadcast]
          have resumed := exclusive.setTicketQueue houses.homes
            (WaitQueue.thins_forget _ ticket.key)
          have afterSound := (houses.clears_forget sound queued).sound
          exact (resumed.passesOn_broadcastTry afterSound value _ waker).of_sameSenders
            (Bus.sameSenders_forget houses.homes _)

/-- An offer and a waiting receiver never meet on a rendezvous channel. After any run, no open
channel of capacity zero has a value on offer among its senders while a receiver waits. So whoever
is woken by the hint of a receiver that parks, and whoever a broadcaster passes its wakeup on to on
a rendezvous channel, is a parked broadcaster. -/
theorem offer_excludes_receiver [Stored α] (config : Config) (moves : List (Move α)) :
    let session := (new config : Session α).run moves
    (∀ handle channel, session.bus.channel? handle = some channel → channel.capacity = 0 →
      ¬ ((∃ wait ∈ channel.senders.waiting, ∃ value, wait.parcel = .offered value) ∧
        channel.receivers.waiting ≠ [])) ∧
    (∀ move suspended key waker, (session.act move).result = some (.waiting suspended) →
      suspended.call.side = .receivers → .woke key waker ∈ (session.act move).notices →
      session.Broadcaster ⟨suspended.ticket.generation, .senders, key⟩) ∧
    (∀ move before handle after channel,
      (session.act move).notices = before ++ .wakeupPassedOn handle :: after →
      session.bus.channel? handle = some channel → channel.capacity = 0 →
      ∃ earlier key waker, before = earlier ++ [.woke key waker] ∧
        session.Broadcaster ⟨channel.generation, .senders, key⟩) := by
  intro session
  have lawful : session.Lawful := (lawful_new config).run moves
  have exclusive : session.bus.Exclusive :=
    (lawful_new config).exclusive_run (fun handle channel here => by
      simp [new, Bus.new, Bus.channel?] at here) moves
  refine ⟨fun handle channel here zero both => ?_,
    fun move suspended key waker parks receives woken => ?_,
    fun move before handle after channel notices here zero => ?_⟩
  · obtain ⟨⟨wait, queued, value, offered⟩, waiting⟩ := both
    have rendezvous : channel.isRendezvous = true := by simp [Channel.isRendezvous, zero]
    have nothing := exclusive handle channel here rendezvous waiting wait queued
    simp [offered, Parcel.offer?] at nothing
  · obtain ⟨handle, channel, wait, queued, here, generation, rfl, nothing⟩ :=
      lawful.hints_act parks receives woken
    rw [← generation]
    exact lawful.broadcaster here queued nothing
  · obtain ⟨earlier, found, wait, queued, split, there, nothing⟩ :=
      lawful.passesOn_act exclusive move before handle after notices
    obtain rfl : channel = found := Option.some.inj (here.symm.trans there)
    exact ⟨earlier, wait.key, wait.waker, split, lawful.broadcaster here queued (nothing zero)⟩

/-- Three broadcasters wait for a rendezvous when two receivers come. The second receiver finds the
first broadcaster woken and hints at the second; the first one serves one receiver when it is
polled, and passes its wakeup on to the third. -/
theorem offer_excludes_receiver_of_crowd :
    let hinting : Session UInt32 := (new {}).run
      [.request (.openChannel 0), .start (.broadcast 5) 1, .start (.broadcast 6) 2,
        .start (.broadcast 7) 3, .start (.receive ⟨0⟩) 4]
    let passing := hinting.step (.start (.receive ⟨0⟩) 5)
    (hinting.act (.start (.receive ⟨0⟩) 5)).notices =
        [.raised .wouldBlock, .woke 1 (some 2), .queued 1, .receiverParked ⟨0⟩] ∧
      hinting.Broadcaster ⟨0, .senders, 1⟩ ∧
      (passing.act (.poll 0 1)).notices =
        [.woke 0 (some 4), .broadcastSent 1, .woke 2 (some 3), .wakeupPassedOn ⟨0⟩] ∧
      passing.Broadcaster ⟨0, .senders, 2⟩ := by
  intro hinting passing
  refine ⟨by decide +kernel, ?_, by decide +kernel, ?_⟩
  · exact (offer_excludes_receiver (α := UInt32) {} _).2.1 (.start (.receive ⟨0⟩) 5)
      ⟨.receive ⟨0⟩, ⟨⟨0⟩, 0, .receivers, 1⟩⟩ 1 (some 2) rfl rfl (by decide)
  · let channel : Channel UInt32 :=
      { capacity := 0, generation := 0, buffer := []
        senders := ⟨[⟨2, some 3, .empty⟩], [⟨0, some 1, .empty⟩, ⟨1, some 2, .empty⟩], 3⟩
        receivers := ⟨[⟨0, some 4, .empty⟩, ⟨1, some 5, .empty⟩], [], 2⟩ }
    obtain ⟨earlier, key, waker, split, broadcaster⟩ :=
      (offer_excludes_receiver (α := UInt32) {} [.request (.openChannel 0),
        .start (.broadcast 5) 1, .start (.broadcast 6) 2, .start (.broadcast 7) 3,
        .start (.receive ⟨0⟩) 4, .start (.receive ⟨0⟩) 5]).2.2 (.poll 0 1)
        [.woke 0 (some 4), .broadcastSent 1, .woke 2 (some 3)] ⟨0⟩ [] channel rfl rfl rfl
    obtain ⟨rfl, _⟩ : 2 = key ∧ some 3 = waker := by
      simpa using congrArg List.getLast? split
    exact broadcaster

end Session

end ChannelBus
