import ChannelBus.Proofs.Generations

/-!
# Exactly once, first in first out

What a channel has accepted and what was returned from it are read off the replies of a run alone:
`Session.accepted` and `Session.returned`. For a channel that buffers values, every move keeps the
balance between the two and the buffer, so over a whole run the accepted values are the returned
ones, in order, followed by those still buffered. A rendezvous channel has no buffer to speak of and
is treated on its own.
-/

namespace ChannelBus

variable {α : Type}

/-! ## Reading replies -/

namespace Call

/-- The values that a call has sent, by its reply. -/
def sentBy (call : Call α) (reply : Reply α) : List α :=
  match call, reply with
  | .send _ value, .sent (.ok _) | .broadcast value, .sent (.ok _) => [value]
  | .sendMany _ values, .sentMany (.ok count) => values.take count
  | _, _ => []

/-- The values that a call has received, by its reply. -/
def receivedBy (call : Call α) (reply : Reply α) : List α :=
  match call, reply with
  | .receive _, .received (.ok value) => [value]
  | .receiveMany _ _, .receivedMany (.ok values) => values
  | _, _ => []

/-- A reply that is an error has sent nothing. -/
theorem sentBy_of_error (call : Call α) {reply : Reply α} (failed : reply.error?.isSome = true) :
    call.sentBy reply = [] := by
  cases call <;> cases reply with
  | sent result | sentMany result | received result | receivedMany result =>
    cases result <;> first | rfl | contradiction

/-- A reply that is an error has received nothing. -/
theorem receivedBy_of_error (call : Call α) {reply : Reply α}
    (failed : reply.error?.isSome = true) : call.receivedBy reply = [] := by
  cases call <;> cases reply with
  | sent result | sentMany result | received result | receivedMany result =>
    cases result <;> first | rfl | contradiction

end Call

namespace Bus

/-- Whether a call reaches the channel of a generation: a call on a handle reaches the one to which
it is pinned, a broadcast all that are open. -/
def reaches (bus : Bus α) (call : Call α) (pin : Option Nat) (generation : Nat) : Bool :=
  match call with
  | .broadcast _ => bus.isOpenAs generation
  | .send _ _ | .receive _ | .sendMany _ _ | .receiveMany _ _ => pin = some generation

/-- The values that a call puts into the channel of a generation, by its reply if it has one. -/
def puts (bus : Bus α) (call : Call α) (pin : Option Nat) (generation : Nat)
    (reply? : Option (Reply α)) : List α :=
  if bus.reaches call pin generation then reply?.elim [] call.sentBy else []

/-- The values that a call takes from the channel of a generation, by its reply if it has one. -/
def takes (bus : Bus α) (call : Call α) (pin : Option Nat) (generation : Nat)
    (reply? : Option (Reply α)) : List α :=
  if bus.reaches call pin generation then reply?.elim [] call.receivedBy else []

end Bus

namespace Session

/-- The call that a move makes or goes on with, and the generation to which it is pinned. -/
def called? (session : Session α) : Move α → Option (Call α × Option Nat)
  | .request request => request.call?.map fun call => (call, session.pin? call)
  | .start call _ => some (call, session.pin? call)
  | .poll id _ => (session.calls[id]?).map fun record => (record.call, record.pinned)
  | .drop _ | .overwrite _ => none

/-- The values that the channel of a generation accepts at a move with the given reply. -/
def accepts (session : Session α) (move : Move α) (generation : Nat)
    (reply? : Option (Reply α)) : List α :=
  (session.called? move).elim [] fun (call, pin) => session.bus.puts call pin generation reply?

/-- The values that are returned from the channel of a generation at a move with the given reply. -/
def returns (session : Session α) (move : Move α) (generation : Nat)
    (reply? : Option (Reply α)) : List α :=
  (session.called? move).elim [] fun (call, pin) => session.bus.takes call pin generation reply?

/-- The values that the channel of a generation accepts in a run, in the order of acceptance. -/
def accepted [Stored α] (session : Session α) (moves : List (Move α)) (generation : Nat) :
    List α :=
  (session.trail moves).flatMap fun (session, move) =>
    session.accepts move generation (session.reply? move)

/-- The values that are returned from the channel of a generation in a run, in the order in which
they are taken. -/
def returned [Stored α] (session : Session α) (moves : List (Move α)) (generation : Nat) :
    List α :=
  (session.trail moves).flatMap fun (session, move) =>
    session.returns move generation (session.reply? move)

end Session

/-! ## The buffer of a generation -/

namespace Bus

/-- The values buffered by the channel of a generation. -/
def content (bus : Bus α) (generation : Nat) : List α :=
  (bus.identity? generation).elim [] (·.buffer)

/-- Whether the channel of a generation, if it was given out, buffers values. -/
def Buffers (bus : Bus α) (generation : Nat) : Prop :=
  ∀ channel, bus.identity? generation = some channel → channel.isRendezvous = false

/-- Whether a generation buffers values is a matter of its capacity. -/
theorem Buffers.of_capacity {bus after : Bus α} {generation : Nat}
    (buffers : bus.Buffers generation) (same : (after.identity? generation).map (·.capacity) =
      (bus.identity? generation).map (·.capacity)) : after.Buffers generation := by
  intro channel named
  rw [named, Option.map_some, eq_comm, Option.map_eq_some_iff] at same
  obtain ⟨former, namedBefore, equal⟩ := same
  have plain := buffers former namedBefore
  rwa [Channel.isRendezvous, equal] at plain

/-- A generation with a capacity buffers values. -/
theorem buffers_of_capacity {bus : Bus α} {generation capacity : Nat}
    (named : (bus.identity? generation).map (·.capacity) = some capacity)
    (positive : 0 < capacity) : bus.Buffers generation := by
  intro channel here
  rw [here] at named
  obtain rfl : channel.capacity = capacity := Option.some.inj named
  simp [Channel.isRendezvous]
  omega

/-- A rendezvous channel has nothing in its buffer. -/
theorem Sound.content_of_rendezvous {bus : Bus α} (sound : bus.Sound) {generation : Nat}
    (named : (bus.identity? generation).map (·.capacity) = some 0) :
    bus.content generation = [] := by
  obtain ⟨channel, here, zero⟩ := Option.map_eq_some_iff.mp named
  have member := (sound.identity?_eq_some_iff.mp here).1
  have bounded := (sound.channels channel member).bounded
  rw [zero, Nat.le_zero, Channel.length, List.length_eq_zero_iff] at bounded
  rw [content, here]
  exact bounded

/-- Counting keeps the buffers. -/
@[simp] theorem content_note (bus : Bus α) (update : Stats → Stats) (generation : Nat) :
    (bus.note update).content generation = bus.content generation := by
  simp [content]

/-- An open channel has the buffer of its generation. -/
theorem Sound.content_of_channel? {bus : Bus α} (sound : bus.Sound) {handle : Handle}
    {channel : Channel α} (here : bus.channel? handle = some channel) :
    bus.content channel.generation = channel.buffer := by
  simp [content, sound.identity?_of_channel? here]

/-- A generation that is not open has no buffered values. -/
theorem Sound.content_of_closed {bus : Bus α} (sound : bus.Sound) {generation : Nat}
    (closed : bus.isOpenAs generation = false) : bus.content generation = [] := by
  unfold content
  cases named : bus.identity? generation with
  | none => rfl
  | some channel =>
    obtain ⟨member, same⟩ := sound.identity?_eq_some_iff.mp named
    rcases mem_known.mp member with ⟨handle, here⟩ | retired
    · rw [isOpenAs_iff.mpr ⟨handle, channel, here, same⟩] at closed
      contradiction
    · exact (sound.drained channel retired).buffer

/-- Replacing an open channel changes the buffer of its generation only. -/
theorem Becomes.content {bus after : Bus α} {handle : Handle} {channel new : Channel α}
    (becomes : bus.Becomes after handle new) (sound : bus.Sound)
    (here : bus.channel? handle = some channel) (same : new.generation = channel.generation)
    (generation : Nat) : after.content generation =
      if generation = channel.generation then new.buffer else bus.content generation := by
  obtain ⟨update, rfl⟩ := becomes
  rw [content_note, Bus.content, (replaces_setChannel here same).identity? sound]
  split <;> rfl

/-- Replacing the queue of a parked call keeps the buffers. -/
theorem Houses.content_setTicketQueue {bus : Bus α} {suspended : Suspended α}
    (houses : bus.Houses suspended) (sound : bus.Sound) (queue : WaitQueue α)
    (generation : Nat) :
    (bus.setTicketQueue suspended.ticket queue).content generation = bus.content generation := by
  obtain ⟨channel, found, named, _, _⟩ := houses.ticketed sound
  have same := (sound.identity?_eq_some_iff.mp named).2
  have replaces := sound.replaces_setTicketQueue found queue
  rw [content, replaces.identity? sound]
  split
  case isTrue equal =>
    rw [equal, same, content, named]
    exact Channel.buffer_setQueue _ _ _
  case isFalse => rfl

/-- Opening a channel adds no values. -/
theorem Opens.content {bus after : Bus α} {handle : Handle} {capacity : Nat}
    (opens : bus.Opens after handle capacity) (sound : bus.Sound) (generation : Nat) :
    after.content generation = bus.content generation := by
  rw [Bus.content, opens.identity? sound, Bus.content]
  split
  case isTrue same =>
    rw [same, sound.identity?_next (Nat.le_refl _)]
    rfl
  case isFalse => rfl

/-- Settling the wakeup of a broadcaster keeps the buffers. -/
theorem Sound.content_settleWakeup {bus : Bus α} (sound : bus.Sound)
    (previous : Option (Handle × Nat)) (stall : Option Stall) (generation : Nat) :
    (bus.settleWakeup previous stall).bus.content generation = bus.content generation := by
  rcases bus.settleWakeup_cases previous stall with
    ⟨same, _⟩ | ⟨handle, number, channel, _, _, pinned, billed⟩
  · rw [same]
  · have becomes := billed.becomes
    have here := (Bus.pinned?_eq_some_iff.mp pinned).1
    rw [becomes.content sound here (channel.generation_wake .senders 1)]
    split
    case isTrue equal => rw [equal, sound.content_of_channel? here, Channel.buffer_wake]
    case isFalse => rfl

/-- A copy given to every open channel is appended to the buffers of those that buffer values. -/
theorem Sound.content_giveAll {bus : Bus α} (sound : bus.Sound)
    (ready : ∀ handle channel, bus.channel? handle = some channel → channel.canAccept = true)
    (value : α) {generation : Nat} (buffers : bus.Buffers generation) :
    (bus.giveAll value).bus.content generation =
      bus.content generation ++ if bus.isOpenAs generation then [value] else [] := by
  have tries := sound.tries_giveAll ready value (.broadcast value)
  cases opened : bus.isOpenAs generation with
  | false =>
    have still := isOpenAs_of_generations tries.generations generation
    rw [opened] at still
    rw [tries.sound.content_of_closed still, sound.content_of_closed opened]
    rfl
  | true =>
    obtain ⟨handle, channel, here, rfl⟩ := isOpenAs_iff.mp opened
    have plain := buffers channel (sound.identity?_of_channel? here)
    have channelSound := sound.of_channel? here
    have kept := channelSound.give (ready handle channel here) value
    have there : (bus.giveAll value).bus.channel? handle = some (channel.give value).2 := by
      obtain ⟨update, given⟩ := bus.bus_giveAll value
      rw [given, channel?_note, channel?_overOpen, here]
      rfl
    have buffer : (channel.give value).2.buffer = channel.buffer ++ [value] := by
      rcases channelSound.give_cases (ready handle channel here) value with
        ⟨spare, given⟩ | ⟨_, served, after, handed, _⟩
      · rw [given, Channel.buffer_acceptMany, Channel.fitting_singleton spare]
      · rw [(channelSound.handOff_eq_some handed).1] at plain
        contradiction
    rw [← kept.2.1, tries.sound.content_of_channel? there, buffer, kept.2.1,
      sound.content_of_channel? here]
    rfl

end Bus

/-! ## The balance of one try -/

namespace Channel

/-- What a call moves through the buffer is what its reply says. -/
theorem Moves.balance {channel after : Channel α} {call : Call α} {reply : Reply α}
    (moves : channel.Moves call reply after) (named : call.handle?.isSome = true) :
    channel.buffer ++ call.sentBy reply = call.receivedBy reply ++ after.buffer := by
  cases moves with
  | sentNothing sender nothing =>
    cases call with
    | sendMany target values => simp [Call.sent, Call.sentBy, Call.receivedBy]
    | send | receive | receiveMany | broadcast => contradiction
  | tookNothing receiver nothing =>
    cases call with
    | receiveMany target max => simp [Call.sentBy, Call.receivedBy]
    | send | receive | sendMany | broadcast => contradiction
  | accepted given spare =>
    rw [buffer_acceptMany]
    cases call with
    | send target value =>
      simp [Call.sent, Call.sentBy, Call.receivedBy, Call.offers, fitting_singleton spare]
    | sendMany target values =>
      simp [Call.sent, Call.sentBy, Call.receivedBy, Call.offers, fitting]
    | receive | receiveMany | broadcast => exact absurd rfl given
  | released first rest held =>
    have split := channel.oldest_append_popMany call.wants
    rw [held] at split
    have drained : (channel.releaseMany call.wants).2.buffer =
        (channel.popMany call.wants).buffer := rfl
    rw [drained]
    cases call with
    | receive target =>
      have short := congrArg List.length held
      have none : rest = [] := by
        simp only [oldest, Call.wants, List.length_take, List.length_cons] at short
        exact List.length_eq_zero_iff.mp (by omega)
      subst none
      simpa [Call.received, Call.sentBy, Call.receivedBy] using split.symm
    | receiveMany target max =>
      simpa [Call.received, Call.sentBy, Call.receivedBy] using split.symm
    | send | sendMany | broadcast => simp [oldest, Call.wants] at held

/-- On a channel that buffers values, what a try moves through the buffer is what its reply says,
and a call that parks has moved nothing. -/
theorem Tried.balance {channel after : Channel α} {waker : TaskId} {call : Call α}
    {reply? : Option (Reply α)} (tried : channel.Tried waker call reply? after)
    (sound : channel.Sound) (plain : channel.isRendezvous = false)
    (named : call.handle?.isSome = true) :
    channel.buffer ++ reply?.elim [] call.sentBy =
      reply?.elim [] call.receivedBy ++ after.buffer := by
  cases tried with
  | moved moves => exact moves.balance named
  | handedOff stuck offered handed =>
    rw [(sound.handOff_eq_some handed).1] at plain
    contradiction
  | tookOffer stuck wanted taken =>
    rw [(Sound.takeOffer_eq_some taken).1] at plain
    contradiction
  | offering => simp
  | awaiting => simp

end Channel

namespace Bus

/-- A call on a handle reaches the channel to which it is pinned. -/
theorem reaches_of_named {bus : Bus α} {call : Call α} (named : call.handle?.isSome = true)
    (pin : Option Nat) (generation : Nat) :
    bus.reaches call pin generation = decide (pin = some generation) := by
  cases call with
  | broadcast value => contradiction
  | send | receive | sendMany | receiveMany => rfl

/-- Which channel a call reaches depends on its pin only if it names a handle. -/
theorem reaches_congr {bus middle : Bus α} {call : Call α} {pin other : Option Nat}
    {generation : Nat} (same : middle.isOpenAs generation = bus.isOpenAs generation)
    (pinned : call.handle?.isSome = true → pin = other) :
    middle.reaches call pin generation = bus.reaches call other generation := by
  cases call with
  | broadcast value => exact same
  | send | receive | sendMany | receiveMany => simp [reaches, pinned rfl]

/-- The balance of a try for a generation. -/
structure Balances (bus after : Bus α) (call : Call α) (pin : Option Nat) (generation : Nat)
    (reply? : Option (Reply α)) : Prop where
  /-- What was buffered and what was put in are what was taken out and what is buffered. -/
  balance : bus.content generation ++ bus.puts call pin generation reply? =
    bus.takes call pin generation reply? ++ after.content generation
  /-- Nothing is put into a channel that is not open, and nothing is taken from it. -/
  quiet : bus.isOpenAs generation = false →
    bus.puts call pin generation reply? = [] ∧ bus.takes call pin generation reply? = []

/-- A balance depends on the pin of a call only if the call names a handle. -/
theorem Balances.congr {bus middle after : Bus α} {call : Call α} {pin other : Option Nat}
    {generation : Nat} {reply? : Option (Reply α)}
    (balances : middle.Balances after call pin generation reply?)
    (content : middle.content generation = bus.content generation)
    (same : middle.isOpenAs generation = bus.isOpenAs generation)
    (pinned : call.handle?.isSome = true → pin = other) :
    bus.Balances after call other generation reply? := by
  obtain ⟨balance, quiet⟩ := balances
  unfold puts takes at balance quiet
  rw [content, reaches_congr same pinned] at balance
  rw [same, reaches_congr same pinned] at quiet
  exact ⟨balance, quiet⟩

/-- Nothing is put into a channel that the call does not reach, or without a reply, or when the call
fails; and nothing is taken from it. -/
theorem balances_of_none {bus after : Bus α} {call : Call α} {pin : Option Nat}
    {generation : Nat} {reply? : Option (Reply α)}
    (nothing : bus.reaches call pin generation = true → ∀ reply, reply? = some reply →
      reply.error?.isSome = true) (same : after.content generation = bus.content generation) :
    bus.Balances after call pin generation reply? := by
  have unmoved : bus.puts call pin generation reply? = [] ∧
      bus.takes call pin generation reply? = [] := by
    unfold puts takes
    cases reached : bus.reaches call pin generation with
    | false => exact ⟨rfl, rfl⟩
    | true =>
      cases reply? with
      | none => exact ⟨rfl, rfl⟩
      | some reply =>
        have failed := nothing reached reply rfl
        exact ⟨call.sentBy_of_error failed, call.receivedBy_of_error failed⟩
  refine ⟨?_, fun _ => unmoved⟩
  rw [unmoved.1, unmoved.2, same, List.append_nil, List.nil_append]

/-- A call that failed has moved nothing. -/
theorem balances_failed (bus : Bus α) (update : Stats → Stats) (call : Call α)
    (pin : Option Nat) (generation : Nat) (error : BusError) :
    bus.Balances (bus.note update) call pin generation (some (call.failed error)) := by
  refine balances_of_none (fun _ reply same => ?_) (content_note _ _ _)
  obtain rfl := Option.some.inj same
  rw [Call.error?_failed]
  rfl

/-- A change of one channel balances if the change of its buffer is what the reply says. -/
theorem Becomes.balances {bus after : Bus α} {handle : Handle} {channel new : Channel α}
    (becomes : bus.Becomes after handle new) (sound : bus.Sound)
    (here : bus.channel? handle = some channel) (same : new.generation = channel.generation)
    {call : Call α} (named : call.handle?.isSome = true) {reply? : Option (Reply α)}
    {generation : Nat} (buffer : channel.generation = generation →
      channel.buffer ++ reply?.elim [] call.sentBy =
        reply?.elim [] call.receivedBy ++ new.buffer) :
    bus.Balances after call (some channel.generation) generation reply? := by
  have reached : bus.reaches call (some channel.generation) generation =
      decide (some channel.generation = some generation) := reaches_of_named named _ _
  have content := becomes.content sound here same generation
  by_cases equal : channel.generation = generation
  · subst equal
    have change := buffer rfl
    rw [if_pos rfl] at content
    refine ⟨?_, fun closed => absurd rfl (generation_ne_of_closed closed here)⟩
    rw [puts, takes, reached, content, sound.content_of_channel? here]
    simpa using change
  · rw [if_neg (Ne.symm equal)] at content
    refine balances_of_none (fun reaches => ?_) content
    rw [reached, decide_eq_true_eq] at reaches
    exact absurd (Option.some.inj reaches) equal

/-- A copy given to every open channel balances for every generation that buffers values. -/
theorem Sound.balances_giveAll {bus : Bus α} (sound : bus.Sound)
    (ready : ∀ handle channel, bus.channel? handle = some channel → channel.canAccept = true)
    (value : α) {generation : Nat} (buffers : bus.Buffers generation) (pin : Option Nat) :
    bus.Balances (bus.giveAll value).bus (.broadcast value) pin generation
      (some (.sent (.ok ()))) := by
  have given := sound.content_giveAll ready value buffers
  cases opened : bus.isOpenAs generation with
  | true =>
    rw [opened, if_pos rfl] at given
    refine ⟨?_, fun closed => absurd (opened.symm.trans closed) (by decide)⟩
    simp [puts, takes, reaches, opened, Call.sentBy, Call.receivedBy, given]
  | false =>
    rw [opened, if_neg (by decide), List.append_nil] at given
    refine balances_of_none (fun reached => ?_) given
    exact absurd (opened.symm.trans reached) (by decide)

/-- A try of a broadcast balances for every generation that buffers values. -/
theorem BroadcastTried.balances {bus after : Bus α} {value : α}
    {previous : Option (Handle × Nat)} {waker : TaskId} {progress : Progress α}
    (tried : bus.BroadcastTried value previous waker progress after) (sound : bus.Sound)
    {generation : Nat} (buffers : bus.Buffers generation) (pin : Option Nat) :
    bus.Balances after (.broadcast value) pin generation progress.status.reply? := by
  cases tried with
  | noChannel nothing => exact balances_failed bus _ (.broadcast value) pin generation .noChannel
  | sent ready something =>
    have given := sound.tries_giveAll ready value (.broadcast value)
    obtain ⟨balance, quiet⟩ := sound.balances_giveAll ready value buffers pin
    refine ⟨?_, quiet⟩
    rwa [given.sound.content_settleWakeup]
  | @stalled handle channel middle _ here unready settled still billed =>
    have becomes := billed.becomes
    subst settled
    have passed := (sound.tries_settleWakeup previous
      (some (.refused handle channel.generation)) (.broadcast value)).1.sound
    refine balances_of_none (fun _ reply parks => by contradiction) ?_
    rw [becomes.content passed still (channel.generation_park _ _ _), sound.content_settleWakeup]
    split
    case isTrue equal => rw [equal, sound.content_of_channel? here, Channel.buffer_park]
    case isFalse => rfl

/-- A try of a call balances for every generation that buffers values. -/
theorem Acts.balances {bus after : Bus α} {waker : TaskId} {call : Call α} {pin : Option Nat}
    {previous : Option (Handle × Nat)} {progress : Progress α}
    (acts : bus.Acts waker call pin previous progress after) (sound : bus.Sound)
    {generation : Nat} (buffers : bus.Buffers generation) :
    bus.Balances after call pin generation progress.status.reply? := by
  cases acts with
  | failed error gone => exact balances_failed bus _ call pin generation error
  | broadcast everywhere tried =>
    subst everywhere
    exact tried.balances sound buffers pin
  | @attempted handle channel outcome named here pinned attempted =>
    obtain ⟨reply?, new, tried, billed, result⟩ := attempted
    have becomes := billed.becomes
    have channelSound := sound.of_channel? here
    obtain ⟨_, same, _⟩ := tried.keeps channelSound
    have isNamed : call.handle?.isSome = true := by simp [named]
    have reply : outcome.result.status.reply? = reply? := by
      rw [result]
      cases reply? <;> rfl
    rw [reply, pinned]
    refine becomes.balances sound here same isNamed fun equal => ?_
    have plain := buffers channel (equal ▸ sound.identity?_of_channel? here)
    exact tried.balance channelSound plain isNamed

end Bus

/-! ## The balance of one move -/

namespace Session

variable {session : Session α}

/-- The balance of a move for a generation, by its reply. -/
structure Balanced (session : Session α) (move : Move α) (reply? : Option (Reply α))
    (after : Bus α) (generation : Nat) : Prop where
  /-- Unless the move closes the channel, what was buffered and is accepted is what is returned and
  is still buffered. -/
  balance : (after.Spent generation → session.bus.Spent generation) →
    session.bus.content generation ++ session.accepts move generation reply? =
      session.returns move generation reply? ++ after.content generation
  /-- A channel that is not open accepts nothing, and nothing is returned from it. -/
  quiet : session.bus.isOpenAs generation = false →
    session.accepts move generation reply? = [] ∧ session.returns move generation reply? = []

/-- A poll goes on with the call that waits, and the pin of its record is where it waits. -/
theorem Lawful.called?_poll (lawful : session.Lawful) {id : Nat} {suspended : Suspended α}
    (waits : session.waiting? id = some suspended) (waker : TaskId) : ∃ pin,
      session.called? (.poll id waker) = some (suspended.call, pin) ∧
      (suspended.call.handle?.isSome = true → pin = some suspended.ticket.generation) := by
  obtain ⟨record, here, status⟩ := record_of_waiting? waits
  have keeps := lawful.recorded id record suspended here status
  refine ⟨record.pinned, ?_, fun named => keeps.pinned (keeps.call ▸ named)⟩
  rw [called?, here, keeps.call]
  rfl

/-- A move balances as its call does. -/
theorem balanced_of_called {move : Move α} {call : Call α} {pin : Option Nat}
    {reply? : Option (Reply α)} {after : Bus α} {generation : Nat}
    (called : session.called? move = some (call, pin))
    (balances : session.bus.Balances after call pin generation reply?) :
    session.Balanced move reply? after generation := by
  have accepts : session.accepts move generation reply? =
      session.bus.puts call pin generation reply? := by
    simp [Session.accepts, called]
  have returns : session.returns move generation reply? =
      session.bus.takes call pin generation reply? := by
    simp [Session.returns, called]
  refine ⟨fun _ => ?_, fun closed => ?_⟩
  · rw [accepts, returns, balances.balance]
  · rw [accepts, returns]
    exact balances.quiet closed

/-- A move without a reply balances if it closes the channel or keeps its buffer. -/
theorem balanced_of_none {move : Move α} {after : Bus α} {generation : Nat}
    (same : (after.Spent generation → session.bus.Spent generation) →
      after.content generation = session.bus.content generation) :
    session.Balanced move none after generation := by
  have accepts : session.accepts move generation none = [] := by
    unfold Session.accepts Bus.puts
    cases session.called? move <;> simp
  have returns : session.returns move generation none = [] := by
    unfold Session.returns Bus.takes
    cases session.called? move <;> simp
  refine ⟨fun kept => ?_, fun _ => ⟨accepts, returns⟩⟩
  rw [accepts, returns, same kept, List.append_nil, List.nil_append]

/-- Every effect of a move balances for every generation that buffers values. -/
theorem Effect.balanced {move : Move α} {result : Option (Status α)} {after : Bus α}
    (effect : session.Effect move result after) (lawful : session.Lawful) {generation : Nat}
    (buffers : session.bus.Buffers generation) :
    session.Balanced move (result.bind (·.reply?)) after generation := by
  have sound := lawful.housed.sound
  cases effect with
  | idle => exact balanced_of_none fun _ => rfl
  | skipped => exact balanced_of_none fun _ => rfl
  | opened opens => exact balanced_of_none fun _ => opens.content sound generation
  | shut shuts =>
    refine balanced_of_none fun kept => ?_
    rcases shuts.identity?_cases sound generation with same | closing
    · rw [Bus.content, Bus.content, same]
    · obtain ⟨handle, inside, channel, here, rfl, _⟩ := closing
      have spent := kept (shuts.spent sound inside here)
      exact absurd rfl (Bus.generation_ne_of_closed spent.2 here)
  | @refused _ call asked error =>
    exact balanced_of_called (by rw [called?, asked]; rfl)
      (Bus.balances_failed _ _ call _ generation error)
  | @moved _ call handle channel new reply _ asked named here moves becomes =>
    have isNamed : call.handle?.isSome = true := by simp [named]
    have pin : session.pin? call = some channel.generation := by simp [pin?, named, here]
    obtain ⟨_, same, _⟩ := moves.keeps (sound.of_channel? here)
    refine balanced_of_called (by rw [called?, asked, Option.map_some, pin]) ?_
    exact becomes.balances sound here same isNamed fun _ => moves.balance isNamed
  | @spread value spare =>
    refine balanced_of_called rfl (sound.balances_giveAll (fun handle channel here => ?_) value
      buffers _)
    simp [Channel.canAccept, spare handle channel here]
  | started acts => exact balanced_of_called rfl (acts.balances sound buffers)
  | @refreshed id waker suspended waits queued =>
    have houses := lawful.housed.houses id suspended waits
    exact balanced_of_none fun _ => houses.content_setTicketQueue sound _ generation
  | @settled id waker suspended parcel reply waits dequeued held happened =>
    have houses := lawful.housed.houses id suspended waits
    obtain ⟨found, heldToo, finds⟩ := houses.parcel
    obtain rfl : parcel = found := Option.some.inj (held.symm.trans heldToo)
    have settled := Call.isSettled_of_settledReply happened
    have named := finds.named_of_settled settled
    obtain ⟨pin, called, pinned⟩ := lawful.called?_poll waits waker
    refine balanced_of_called called (Bus.balances_of_none ?_
      (houses.content_setTicketQueue sound _ generation))
    intro reached
    rw [Bus.reaches_of_named named, pinned named, decide_eq_true_eq] at reached
    obtain rfl := Option.some.inj reached
    obtain ⟨channel, known, rendezvous⟩ := sound.rendezvous_of_parcel? held settled
    exact absurd (rendezvous.symm.trans (buffers channel known)) (by decide)
  | @retried id waker suspended parcel progress _ waits dequeued held unsettled acts =>
    have houses := lawful.housed.houses id suspended waits
    have clears := houses.clears_forget sound dequeued
    obtain ⟨pin, called, pinned⟩ := lawful.called?_poll waits waker
    refine balanced_of_called called ?_
    exact (acts.balances clears.sound (buffers.of_capacity (clears.capacities generation))).congr
      (houses.content_setTicketQueue sound _ generation)
      (Bus.isOpenAs_of_generations clears.generations generation) fun named => (pinned named).symm
  | @dropped id suspended waits =>
    have houses := lawful.housed.houses id suspended waits
    exact balanced_of_none fun _ => houses.content_setTicketQueue sound _ generation

/-- A call that goes on waiting, is dropped, or fails leaves every buffer as it is. -/
theorem Effect.content_of_failed {move : Move α} {status : Status α} {after : Bus α}
    (effect : session.Effect move (some status) after) (lawful : session.Lawful)
    (failed : ∀ reply, status.reply? = some reply → reply.error?.isSome = true)
    (generation : Nat) : after.content generation = session.bus.content generation := by
  have stays := effect.stays lawful
  by_cases buffers : session.bus.Buffers generation
  · have balance := (effect.balanced lawful buffers).balance (stays.spent_iff generation).mp
    have accepts : session.accepts move generation status.reply? = [] := by
      unfold Session.accepts Bus.puts
      cases session.called? move with
      | none => rfl
      | some called =>
        cases reply : status.reply? with
        | none => simp
        | some reply' => simp [called.1.sentBy_of_error (failed reply' reply)]
    have returns : session.returns move generation status.reply? = [] := by
      unfold Session.returns Bus.takes
      cases session.called? move with
      | none => rfl
      | some called =>
        cases reply : status.reply? with
        | none => simp
        | some reply' => simp [called.1.receivedBy_of_error (failed reply' reply)]
    rw [Option.bind_some, accepts, returns, List.append_nil, List.nil_append] at balance
    exact balance.symm
  · obtain ⟨channel, here, rendezvous⟩ : ∃ channel,
        session.bus.identity? generation = some channel ∧ channel.isRendezvous = true := by
      simpa [Bus.Buffers] using buffers
    have before : (session.bus.identity? generation).map (·.capacity) = some 0 := by
      simpa [here, Channel.isRendezvous] using rendezvous
    have now := (stays.capacities generation).trans before
    have afterSound := (effect.lawful lawful session.lastError).housed.sound
    rw [lawful.housed.sound.content_of_rendezvous before, afterSound.content_of_rendezvous now]

/-! ## The balance of a run -/

section Running

variable [Stored α]

/-- Every move balances for every generation that buffers values. -/
theorem Lawful.balanced (lawful : session.Lawful) (move : Move α) {generation : Nat}
    (buffers : session.bus.Buffers generation) :
    session.Balanced move (session.reply? move) (session.step move).bus generation :=
  (effect lawful move).balanced lawful buffers

/-- A generation that buffers values at the end of a run has done so throughout. -/
theorem Lawful.buffers_of_run (lawful : session.Lawful) {generation : Nat}
    {moves : List (Move α)} (buffers : (session.run moves).bus.Buffers generation) :
    session.bus.Buffers generation := by
  intro channel here
  have named : (session.bus.identity? generation).map (·.capacity) = some channel.capacity := by
    rw [here, Option.map_some]
  obtain ⟨last, there, same⟩ := Option.map_eq_some_iff.mp (lawful.capacity_run named moves)
  have plain := buffers last there
  rwa [Channel.isRendezvous, same] at plain

/-- As long as the channel of a generation is not closed, a run balances for it. -/
theorem Lawful.balance_run (lawful : session.Lawful) {generation : Nat} {moves : List (Move α)}
    (buffers : (session.run moves).bus.Buffers generation)
    (unspent : ¬ (session.run moves).bus.Spent generation) :
    session.bus.content generation ++ session.accepted moves generation =
      session.returned moves generation ++ (session.run moves).bus.content generation := by
  induction moves generalizing session with
  | nil => exact List.append_nil _
  | cons move rest ih =>
    have next := lawful.step move
    have balanced := lawful.balanced move (lawful.buffers_of_run buffers)
    have first := balanced.balance fun spent => absurd (next.spent_run spent rest) unspent
    have later := ih next buffers unspent
    calc session.bus.content generation ++ (session.accepts move generation (session.reply? move) ++
          (session.step move).accepted rest generation)
        = (session.returns move generation (session.reply? move) ++
            (session.step move).bus.content generation) ++
              (session.step move).accepted rest generation := by
          rw [← List.append_assoc, ← first]
      _ = (session.returns move generation (session.reply? move) ++
            (session.step move).returned rest generation) ++
              ((session.step move).run rest).bus.content generation := by
          rw [List.append_assoc, later, List.append_assoc]

/-- From a closed channel that buffered values, nothing is returned any more. -/
theorem Lawful.returned_of_spent (lawful : session.Lawful) {generation capacity : Nat}
    (named : (session.bus.identity? generation).map (·.capacity) = some capacity)
    (positive : 0 < capacity) (spent : session.bus.Spent generation) (moves : List (Move α)) :
    session.returned moves generation = [] := by
  induction moves generalizing session with
  | nil => rfl
  | cons move rest ih =>
    have buffers := Bus.buffers_of_capacity named positive
    have first := ((lawful.balanced move buffers).quiet spent.2).2
    have kept := (lawful.evolves move).capacity lawful.housed.sound named
    have later := ih (lawful.step move) kept ((lawful.evolves move).spent spent)
    show session.returns move generation (session.reply? move) ++ _ = []
    rw [List.append_eq_nil_iff]
    exact ⟨first, later⟩

/-- What a move leaves where it was if its call or request fails. -/
theorem Lawful.content_of_failed (lawful : session.Lawful) {move : Move α} {status : Status α}
    (result : (session.act move).result = some status)
    (failed : ∀ reply, status.reply? = some reply → reply.error?.isSome = true)
    (generation : Nat) :
    (session.step move).bus.content generation = session.bus.content generation := by
  have effect := effect lawful move
  rw [result] at effect
  exact effect.content_of_failed lawful failed generation

/-- The balance of an open channel with a capacity after a run from empty buffers. -/
theorem Lawful.balance_of_open (lawful : session.Lawful)
    (empty : ∀ generation, session.bus.content generation = []) (moves : List (Move α))
    {handle : Handle} {channel : Channel α}
    (here : (session.run moves).bus.channel? handle = some channel)
    (positive : 0 < channel.capacity) : session.accepted moves channel.generation =
      session.returned moves channel.generation ++ channel.buffer := by
  have sound := (lawful.run moves).housed.sound
  have known : ((session.run moves).bus.identity? channel.generation).map (·.capacity) =
      some channel.capacity := by
    rw [sound.identity?_of_channel? here, Option.map_some]
  have balance := lawful.balance_run (Bus.buffers_of_capacity known positive)
    fun spent => Bus.generation_ne_of_closed spent.2 here rfl
  rw [empty, List.nil_append, sound.content_of_channel? here] at balance
  exact balance

/-- A call that has not succeeded by the end of a run changed no buffer at any of its moves. -/
theorem Lawful.content_of_vain (lawful : session.Lawful) {moves : List (Move α)} {id : Nat}
    {record : Record α} (here : (session.run moves).calls[id]? = some record)
    (vain : ∀ reply, record.status.reply? = some reply → reply.error?.isSome = true)
    {before : Session α} {move : Move α} (made : (before, move) ∈ session.trail moves)
    (calls : before.caller? move = some id) (generation : Nat) :
    (before.step move).bus.content generation = before.bus.content generation := by
  obtain ⟨earlier, rest, rfl, rfl⟩ := session.mem_trail made
  obtain ⟨placed, placedHere, result⟩ := record_of_caller calls
  refine (lawful.run earlier).content_of_failed result (fun reply ended => ?_) generation
  have idle : placed.status.suspended? = none := by
    cases status : placed.status with
    | waiting suspended =>
      rw [status] at ended
      contradiction
    | ended | dropped => rfl
  have stood := record_run placedHere idle rest
  rw [← run_cons, ← run_append, here] at stood
  obtain rfl := Option.some.inj stood
  exact vain reply ended

/-- Values go through a channel exactly once, in order. What an open channel with a capacity has
accepted is what was returned from it followed by its buffer, which never exceeds the capacity. A
call that waits, was dropped or failed has never touched a buffer, nor has a request that failed.
Once such a channel is closed, nothing is returned from it any more. -/
theorem exactly_once_in_order (config : Config) (moves : List (Move α)) :
    let first : Session α := new config
    let last := first.run moves
    (∀ handle channel, last.bus.channel? handle = some channel →
      channel.length ≤ channel.capacity ∧
      (0 < channel.capacity → first.accepted moves channel.generation =
        first.returned moves channel.generation ++ channel.buffer)) ∧
    (∀ id record, last.calls[id]? = some record →
      (∀ reply, record.status.reply? = some reply → reply.error?.isSome = true) →
      ∀ before move, (before, move) ∈ first.trail moves → before.caller? move = some id →
        ∀ generation, (before.step move).bus.content generation = before.bus.content generation) ∧
    (∀ before request reply, (before, .request request) ∈ first.trail moves →
      before.reply? (.request request) = some reply → reply.error?.isSome = true →
        ∀ generation, (before.step (.request request)).bus.content generation =
          before.bus.content generation) ∧
    (∀ generation channel, last.bus.identity? generation = some channel → 0 < channel.capacity →
      last.bus.isOpenAs generation = false →
      ∀ later, last.returned later generation = []) := by
  intro first last
  have lawful : first.Lawful := lawful_new config
  have lastLawful : last.Lawful := lawful.run moves
  have sound := lastLawful.housed.sound
  refine ⟨fun handle channel here => ⟨(sound.of_channel? here).bounded, fun positive => ?_⟩,
    fun id record here failed before move made calls generation => ?_,
    fun before request reply made replied failed generation => ?_,
    fun generation channel named positive closed later => ?_⟩
  · exact lawful.balance_of_open (fun _ => rfl) moves here positive
  · exact lawful.content_of_vain here failed made calls generation
  · obtain ⟨earlier, rest, rfl, rfl⟩ := first.mem_trail made
    obtain ⟨status, result, ended⟩ := Option.bind_eq_some_iff.mp replied
    refine (lawful.run earlier).content_of_failed result (fun other same => ?_) generation
    obtain rfl := Option.some.inj (ended.symm.trans same)
    exact failed
  · have known : (last.bus.identity? generation).map (·.capacity) = some channel.capacity := by
      rw [named, Option.map_some]
    have given : generation < last.bus.nextGeneration := by
      obtain ⟨member, rfl⟩ := sound.identity?_eq_some_iff.mp named
      exact sound.fresh channel member
    exact lastLawful.returned_of_spent known positive ⟨given, closed⟩ later

end Running

/-- A batch that fits in part, a sender that is let in later, one that still waits, and a channel
that is closed with a value in its buffer. -/
def mixedMoves : List (Move UInt32) :=
  [.request (.openChannel 2), .request (.trySend ⟨0⟩ 5), .start (.sendMany ⟨0⟩ [6, 7, 8]) 1,
    .start (.send ⟨0⟩ 9) 2, .request (.tryReceive ⟨0⟩), .poll 1 2, .request (.openChannel 1),
    .request (.trySend ⟨1⟩ 3), .request (.close ⟨1⟩), .start (.send ⟨0⟩ 4) 3]

/-- What went into a channel is what came out and what it holds, the wait of a sender left no trace,
and nothing comes out of the closed channel. -/
theorem exactly_once_in_order_of_mixed :
    let first : Session UInt32 := new {}
    let last := first.run mixedMoves
    let before := first.run (mixedMoves.take 9)
    let move := Move.start (.send ⟨0⟩ 4) 3
    (last.bus.channel? ⟨0⟩).map (·.buffer) = some [6, 9] ∧
      first.accepted mixedMoves 0 = first.returned mixedMoves 0 ++ [6, 9] ∧
      (last.waiting? 2).isSome = true ∧
      (before.step move).bus.content 0 = before.bus.content 0 ∧
      last.bus.isOpenAs 1 = false ∧ ∀ later, last.returned later 1 = [] := by
  obtain ⟨balanced, untouched, _, quiet⟩ := exactly_once_in_order (α := UInt32) {} mixedMoves
  refine ⟨rfl, ?_, rfl, ?_, rfl, ?_⟩
  · exact (balanced ⟨0⟩ ⟨2, 0, [6, 9], ⟨[⟨1, some 3, .offered 4⟩], [], 2⟩, .new⟩ rfl).2 (by decide)
  · refine untouched 2 _ rfl (fun reply ended => by contradiction) _ _ ?_ rfl 0
    exact List.mem_of_getElem? (i := 9) rfl
  · exact quiet 1 ⟨1, 1, [], .new, .new⟩ rfl (by decide) rfl

end Session

end ChannelBus
