import ChannelBus.Proofs.Generations

/-!
# What a try lets pass

On a rendezvous channel a value goes through the parcel of a waiting call while another call is
tried. `Bus.Passed` lists what one try lets pass: nothing, one value between the call that is tried
and one that waits on the other side of its channel, or a copy for one waiting receiver of every
open rendezvous channel. It also says what the call has to show for it.
-/

namespace ChannelBus

variable {α : Type}

/-- The other side of a channel. -/
def Side.opposite : Side → Side
  | .senders => .receivers
  | .receivers => .senders

/-- The opposite of the opposite side is the side itself. -/
theorem Side.opposite_opposite (side : Side) : side.opposite.opposite = side := by
  cases side <;> rfl

/-- No side is its own opposite. -/
theorem Side.opposite_ne (side : Side) : side.opposite ≠ side := by
  cases side <;> decide

namespace Call

/-- Whether a call has nothing to move. -/
def isIdle : Call α → Bool
  | .sendMany _ values => values.isEmpty
  | .receiveMany _ max => max == 0
  | .send _ _ | .receive _ | .broadcast _ => false

/-- Whether a call may move this value on a rendezvous channel: a sender its first one, a receiver
any. -/
def Deals (call : Call α) (value : α) : Prop :=
  match call.side with
  | .senders => call.offers.head? = some value
  | .receivers => call.wants ≠ 0

/-- The reply to a call that moved one value on a rendezvous channel. -/
def dealReply (call : Call α) (value : α) : Reply α :=
  match call.side with
  | .senders => call.sent 1
  | .receivers => call.received value []

/-- A call with values to send is not idle. -/
theorem isIdle_of_offers {call : Call α} (given : call.offers ≠ []) : call.isIdle = false := by
  cases call with
  | sendMany target values => simpa [isIdle, offers] using given
  | send | receive | receiveMany | broadcast => first | rfl | exact absurd rfl given

/-- A call that wants values is not idle. -/
theorem isIdle_of_wants {call : Call α} (wants : call.wants ≠ 0) : call.isIdle = false := by
  cases call with
  | receiveMany target max => simpa [isIdle, Call.wants] using wants
  | send | receive | sendMany | broadcast => first | rfl | exact absurd rfl wants

/-- A sender may move its first value. -/
theorem deals_of_offers {call : Call α} {value : α} {rest : List α}
    (offers : call.offers = value :: rest) :
    call.Deals value ∧ call.dealReply value = call.sent 1 := by
  have side := (side_of_offers (offers ▸ List.cons_ne_nil value rest)).1
  simp [Deals, dealReply, side, offers]

/-- A receiver may move any value. -/
theorem deals_of_wants {call : Call α} (wants : call.wants ≠ 0) (value : α) :
    call.Deals value ∧ call.dealReply value = call.received value [] := by
  have side := (side_of_wants wants).1
  simp [Deals, dealReply, side, wants]

/-- Only calls on a handle take part in a rendezvous on their own. -/
theorem Deals.named {call : Call α} {value : α} (deals : call.Deals value) :
    call.handle?.isSome = true := by
  cases call <;> first | rfl | contradiction

/-- A waiting call through whose parcel a value went has dealt with that value. -/
theorem Finds.dealt {call : Call α} {before now : Parcel α} {value : α}
    (finds : call.Finds before) (passed : before.passed? now = some value)
    (allowed : call.side.mayWake now = true) :
    call.Deals value ∧ call.settledReply now = some (call.dealReply value) := by
  cases finds with
  | taken | delivered => cases now <;> contradiction
  | offered offers =>
    cases now with
    | taken =>
      obtain rfl := Option.some.inj passed
      obtain ⟨deals, reply⟩ := deals_of_offers offers
      exact ⟨deals, congrArg some reply.symm⟩
    | empty | offered | delivered => contradiction
  | empty wants =>
    cases now with
    | delivered given =>
      obtain rfl := Option.some.inj passed
      obtain ⟨deals, reply⟩ := deals_of_wants wants given
      exact ⟨deals, congrArg some reply.symm⟩
    | empty | offered | taken => contradiction
  | unpinned everywhere =>
    cases now with
    | delivered given =>
      cases call with
      | broadcast value => contradiction
      | send | receive | sendMany | receiveMany => contradiction
    | empty | offered | taken => contradiction

/-- A call finds no reply in a parcel that is not settled. -/
theorem settledReply_of_unsettled {call : Call α} {parcel : Parcel α}
    (unsettled : parcel.isSettled = false) : call.settledReply parcel = none := by
  cases parcel with
  | empty | offered => rfl
  | delivered | taken => contradiction

end Call

namespace Bus

/-- The reply that a call has got, or will get because a value went through its parcel. -/
def verdict? (bus : Bus α) : Status α → Option (Reply α)
  | .waiting suspended =>
    (bus.parcel? suspended.ticket.address).bind suspended.call.settledReply
  | .ended reply => some reply
  | .dropped => none

/-- Whether the channel of a generation is a rendezvous channel. -/
def Meets (bus : Bus α) (generation : Nat) : Prop :=
  (bus.identity? generation).map (·.capacity) = some 0

/-- What a reply without a transfer must be: an error, for a broadcast and for a call that can only
meet a partner. -/
def Refuses (bus : Bus α) (call : Call α) (pin : Option Nat) (reply : Reply α) : Prop :=
  (call.handle? = none ∨
      (call.isIdle = false ∧ ∃ generation, pin = some generation ∧ bus.Meets generation)) →
    reply.error?.isSome = true

/-- What passes when every open channel gets a copy of a value. -/
structure Copies (bus after : Bus α) (value : α) : Prop where
  /-- On an open rendezvous channel the copy goes to one waiting receiver. -/
  met : ∀ generation, bus.isOpenAs generation = true → bus.Meets generation → ∃ key,
    ∀ side number, bus.passed? after ⟨generation, side, number⟩ =
      if side = .receivers ∧ number = key then some value else none
  /-- Nothing passes elsewhere. -/
  quiet : ∀ address, ¬ (bus.isOpenAs address.generation = true ∧
    bus.Meets address.generation) → bus.passed? after address = none

/-- What one try of a call lets pass, and where it leaves the call. -/
inductive Passed (bus after : Bus α) (call : Call α) (pin : Option Nat) : Progress α → Prop where
  /-- Nothing. -/
  | nothing {progress : Progress α} (quiet : ∀ address, bus.passed? after address = none)
    (refused : ∀ reply, after.verdict? progress.status = some reply → bus.Refuses call pin reply) :
    Passed bus after call pin progress
  /-- One value, through the parcel of a call that waits on the other side of the same channel. -/
  | through {value : α} {generation : Nat} (key : Nat) (pinned : pin = some generation)
    (opened : bus.isOpenAs generation = true) (passed : ∀ address, bus.passed? after address =
      if address = ⟨generation, call.side.opposite, key⟩ then some value else none)
    (deals : call.Deals value) : Passed bus after call pin (.finished (call.dealReply value))
  /-- A copy for one waiting receiver of every open rendezvous channel. -/
  | copies {value : α} (everywhere : call = .broadcast value)
    (copied : bus.Copies after value) : Passed bus after call pin (.finished (.sent (.ok ())))

/-- An open channel is a rendezvous channel if its generation is one. -/
theorem Sound.meets_iff {bus : Bus α} (sound : bus.Sound) {handle : Handle} {channel : Channel α}
    (here : bus.channel? handle = some channel) :
    bus.Meets channel.generation ↔ channel.isRendezvous = true := by
  simp [Meets, sound.identity?_of_channel? here, Channel.isRendezvous]

/-- Where the channel of a settled parcel is, values meet. -/
theorem Sound.meets_of_settled {bus : Bus α} (sound : bus.Sound) {address : Address}
    {parcel : Parcel α} (held : bus.parcel? address = some parcel)
    (settled : parcel.isSettled = true) : bus.Meets address.generation := by
  obtain ⟨channel, named, rendezvous⟩ := sound.rendezvous_of_parcel? held settled
  rw [Meets, named, Option.map_some]
  simpa [Channel.isRendezvous] using rendezvous

/-- A wait on a parcel that is not settled has no verdict. -/
theorem verdict?_of_unsettled {bus : Bus α} {suspended : Suspended α} {parcel : Parcel α}
    (held : bus.parcel? suspended.ticket.address = some parcel)
    (unsettled : parcel.isSettled = false) : bus.verdict? (.waiting suspended) = none := by
  rw [verdict?, held]
  exact Call.settledReply_of_unsettled unsettled

end Bus

/-! ## Trying a call on a handle -/

/-- Only a channel with a capacity moves values through its buffer. -/
theorem Channel.Moves.plain {channel after : Channel α} {call : Call α} {reply : Reply α}
    (moves : channel.Moves call reply after) (sound : channel.Sound)
    (named : call.handle?.isSome = true) (busy : call.isIdle = false) :
    channel.isRendezvous = false := by
  refine Bool.eq_false_iff.mpr fun rendezvous => ?_
  have zero : channel.capacity = 0 := by simpa [Channel.isRendezvous] using rendezvous
  cases moves with
  | sentNothing sender nothing =>
    cases call with
    | sendMany target values =>
      obtain rfl : values = [] := nothing
      contradiction
    | send | receive | receiveMany | broadcast => contradiction
  | tookNothing receiver nothing =>
    cases call with
    | receiveMany target max =>
      obtain rfl : max = 0 := nothing
      contradiction
    | send | receive | sendMany | broadcast => contradiction
  | accepted given spare => simp [Channel.isFull, zero] at spare
  | released first rest held =>
    have bounded := sound.bounded
    rw [zero, Nat.le_zero, Channel.length, List.length_eq_zero_iff] at bounded
    simp [Channel.oldest, bounded] at held

namespace Bus

/-- Nothing passes while a call parks, and its parcel lies on the board afterwards. -/
theorem Becomes.quiet_of_parks {bus after : Bus α} {handle : Handle} {channel new : Channel α}
    (becomes : bus.Becomes after handle new) (sound : bus.Sound)
    (here : bus.channel? handle = some channel) (same : new.generation = channel.generation)
    {side : Side} {parcel : Parcel α} (board : ∀ other key, new.parcel? other key =
      if other = side ∧ key = (channel.queue side).nextKey then some parcel
      else channel.parcel? other key) :
    (∀ address, bus.passed? after address = none) ∧
      after.parcel? ⟨channel.generation, side, (channel.queue side).nextKey⟩ = some parcel := by
  have unused := ((sound.of_channel? here).orderly side).keyed.parcel?_nextKey
  refine ⟨fun address => ?_, ?_⟩
  · obtain ⟨generation, other, key⟩ := address
    by_cases equal : generation = channel.generation
    · subst equal
      by_cases place : other = side ∧ key = (channel.queue side).nextKey
      · obtain ⟨rfl, rfl⟩ := place
        exact passed?_of_absent ((sound.parcel?_of_channel? here _ _).trans unused)
      · refine passed?_of_same ?_
        rw [becomes.parcel? sound here same, if_pos rfl, board, if_neg place,
          sound.parcel?_of_channel? here]
    · refine passed?_of_same ?_
      rw [becomes.parcel? sound here same, if_neg equal]
  · rw [becomes.parcel? sound here same, if_pos rfl, board, if_pos ⟨rfl, rfl⟩]

/-- A try of a call on an open channel lets at most one value pass. -/
theorem Attempted.passed {bus : Bus α} {handle : Handle} {channel : Channel α} {waker : TaskId}
    {call : Call α} {outcome : Outcome α (Progress α)}
    (attempted : bus.Attempted handle channel waker call outcome) (sound : bus.Sound)
    (here : bus.channel? handle = some channel) (named : call.handle? = some handle) :
    bus.Passed outcome.bus call (some channel.generation) outcome.result := by
  obtain ⟨reply?, new, tried, billed, result⟩ := attempted
  have becomes := billed.becomes
  have channelSound := sound.of_channel? here
  obtain ⟨_, same, _⟩ := tried.keeps channelSound
  have opened := isOpenAs_iff.mpr ⟨handle, channel, here, rfl⟩
  rw [result]
  cases reply? with
  | none =>
    obtain ⟨parcel, _, unsettled, board⟩ := tried.parks channelSound
    obtain ⟨quiet, held⟩ := becomes.quiet_of_parks sound here same board
    refine .nothing quiet fun reply verdict => ?_
    have parked : outcome.bus.verdict? (.waiting ⟨call, ⟨handle, channel.generation, call.side,
        (channel.queue call.side).nextKey⟩⟩) = none := verdict?_of_unsettled held unsettled
    exact absurd (parked.symm.trans verdict) (by simp)
  | some reply =>
    cases tried with
    | moved moves =>
      obtain ⟨_, _, _, board⟩ := moves.keeps channelSound
      refine .nothing (fun address => passed?_of_same (becomes.sameBoard sound here same board _))
        fun other _ alone => ?_
      rcases alone with unnamed | ⟨busy, generation, pin, meets⟩
      · simp [named] at unnamed
      · obtain rfl := Option.some.inj pin
        have plain := moves.plain channelSound (by simp [named]) busy
        exact absurd ((sound.meets_iff here).mp meets) (by simp [plain])
    | handedOff stuck offered handed =>
      obtain ⟨key, passes⟩ := channelSound.passes_handOff handed
      obtain ⟨deals, reply⟩ := Call.deals_of_offers offered
      have side : call.side = .senders :=
        (Call.side_of_offers (offered ▸ List.cons_ne_nil _ _)).1
      rw [← reply]
      refine .through key rfl opened (fun address => ?_) deals
      rw [side]
      exact (becomes.passes sound here same passes).passed? address
    | tookOffer stuck wanted taken =>
      obtain ⟨key, passes⟩ := channelSound.passes_takeOffer taken
      obtain ⟨deals, reply⟩ := Call.deals_of_wants wanted _
      have side : call.side = .receivers := (Call.side_of_wants wanted).1
      rw [← reply]
      refine .through key rfl opened (fun address => ?_) deals
      rw [side]
      exact (becomes.passes sound here same passes).passed? address

/-! ## Trying a broadcast -/

/-- What passes on a bus whose board is the same afterwards. -/
theorem passed?_congr {bus after final : Bus α}
    (board : ∀ address, final.parcel? address = after.parcel? address) (address : Address) :
    bus.passed? final address = bus.passed? after address := by
  rw [passed?, passed?, board]

/-- A copy given to every open channel goes to one waiting receiver of each that is a rendezvous
channel. -/
theorem Sound.met_giveAll {bus : Bus α} (sound : bus.Sound)
    (ready : ∀ handle channel, bus.channel? handle = some channel → channel.canAccept = true)
    (value : α) {generation : Nat} (opened : bus.isOpenAs generation = true)
    (meets : bus.Meets generation) : ∃ key, ∀ side number,
      bus.passed? (bus.giveAll value).bus ⟨generation, side, number⟩ =
        if side = .receivers ∧ number = key then some value else none := by
  obtain ⟨handle, channel, here, rfl⟩ := isOpenAs_iff.mp opened
  obtain ⟨key, empty, board⟩ :=
    (sound.passes_giveAll ready value here).2 ((sound.meets_iff here).mp meets)
  refine ⟨key, fun side number => ?_⟩
  by_cases place : side = .receivers ∧ number = key
  · obtain ⟨rfl, rfl⟩ := place
    simp [passed?, empty, board, Parcel.passed?]
  · rw [if_neg place]
    refine passed?_of_same ?_
    rw [board, if_neg place]

/-- Nothing passes elsewhere when a copy is given to every open channel. -/
theorem Sound.quiet_giveAll {bus : Bus α} (sound : bus.Sound)
    (ready : ∀ handle channel, bus.channel? handle = some channel → channel.canAccept = true)
    (value : α) {address : Address} (elsewhere : ¬ (bus.isOpenAs address.generation = true ∧
      bus.Meets address.generation)) : (bus.giveAll value).bus.parcel? address =
        bus.parcel? address := by
  cases opened : bus.isOpenAs address.generation with
  | false =>
    exact sound.parcel?_giveAll_of_closed ready value fun _ _ => generation_ne_of_closed opened
  | true =>
    obtain ⟨handle, channel, here, same⟩ := isOpenAs_iff.mp opened
    obtain ⟨generation, side, key⟩ := address
    obtain rfl : channel.generation = generation := same
    refine (sound.passes_giveAll ready value here).1 (Bool.eq_false_iff.mpr fun rendezvous => ?_)
      side key
    exact elsewhere ⟨opened, (sound.meets_iff here).mpr rendezvous⟩

/-- A try of a broadcast lets a copy pass to every open rendezvous channel, or nothing. -/
theorem BroadcastTried.passed {bus after : Bus α} {value : α}
    {previous : Option (Handle × Nat)} {waker : TaskId} {progress : Progress α}
    (tried : bus.BroadcastTried value previous waker progress after) (sound : bus.Sound)
    (pin : Option Nat) : bus.Passed after (.broadcast value) pin progress := by
  cases tried with
  | noChannel nothing =>
    refine .nothing (fun address => passed?_of_same (parcel?_note _ _ _)) fun reply verdict _ => ?_
    obtain rfl := Option.some.inj verdict
    rfl
  | sent ready something =>
    have given := sound.tries_giveAll ready value (.broadcast value)
    obtain ⟨_, board⟩ := given.sound.tries_settleWakeup previous none (.broadcast value)
    refine .copies rfl ⟨fun generation opened meets => ?_, fun address elsewhere => ?_⟩
    · obtain ⟨key, met⟩ := sound.met_giveAll ready value opened meets
      exact ⟨key, fun side number => (passed?_congr board _).trans (met side number)⟩
    · rw [passed?_congr board]
      exact passed?_of_same (sound.quiet_giveAll ready value elsewhere)
  | @stalled handle channel middle _ here unready settled still billed =>
    have becomes := billed.becomes
    subst settled
    obtain ⟨first, board⟩ := sound.tries_settleWakeup previous
      (some (.refused handle channel.generation)) (.broadcast value)
    have channelSound := sound.of_channel? here
    obtain ⟨quiet, held⟩ := becomes.quiet_of_parks first.sound still
      (channel.generation_park _ _ _)
      (fun side key => channelSound.parcel?_park .senders side .empty (some waker) key)
    refine .nothing (fun address => ?_) fun reply verdict => ?_
    · have silent := quiet address
      rwa [passed?, board] at silent
    · have parked : after.verdict? (.waiting ⟨.broadcast value, ⟨handle, channel.generation,
          .senders, channel.senders.nextKey⟩⟩) = none := verdict?_of_unsettled held rfl
      exact absurd (parked.symm.trans verdict) (by simp)

/-- One try of a call lets the listed things pass. -/
theorem Acts.passed {bus after : Bus α} {waker : TaskId} {call : Call α} {pin : Option Nat}
    {previous : Option (Handle × Nat)} {progress : Progress α}
    (acts : bus.Acts waker call pin previous progress after) (sound : bus.Sound) :
    bus.Passed after call pin progress := by
  cases acts with
  | failed error gone =>
    refine .nothing (fun address => passed?_of_same (parcel?_note _ _ _)) fun reply verdict _ => ?_
    obtain rfl := Option.some.inj verdict
    rw [Call.error?_failed]
    rfl
  | attempted named here pinned attempted =>
    rw [pinned]
    exact attempted.passed sound here named
  | broadcast everywhere tried =>
    subst everywhere
    exact tried.passed sound pin

/-- Nothing passes on a channel that is not open. -/
theorem Passed.quiet_of_closed {bus after : Bus α} {call : Call α} {pin : Option Nat}
    {progress : Progress α} (passed : bus.Passed after call pin progress) {address : Address}
    (closed : bus.isOpenAs address.generation = false) : bus.passed? after address = none := by
  cases passed with
  | nothing quiet => exact quiet address
  | through key pinned opened passed =>
    rw [passed, if_neg]
    rintro rfl
    exact absurd (opened.symm.trans closed) (by decide)
  | copies everywhere copied =>
    exact copied.quiet address fun meeting => absurd (meeting.1.symm.trans closed) (by decide)

/-- A broadcast that has succeeded has given its copies. -/
theorem Passed.copies_of_sent {bus after : Bus α} {value : α} {pin : Option Nat}
    {progress : Progress α} (passed : bus.Passed after (.broadcast value) pin progress)
    (sent : progress.status.reply? = some (.sent (.ok ()))) : bus.Copies after value := by
  cases passed with
  | through key pinned opened passed deals => exact absurd deals.named (by simp [Call.handle?])
  | copies everywhere copied =>
    obtain rfl := Call.broadcast.inj everywhere
    exact copied
  | nothing quiet refused =>
    cases progress with
    | parked suspended => contradiction
    | finished reply =>
      obtain rfl := Option.some.inj sent
      have failed := refused _ rfl (.inl rfl)
      contradiction

end Bus

end ChannelBus
