import ChannelBus.Proofs.Bill
import ChannelBus.Proofs.Lifecycle
import ChannelBus.Proofs.Session

/-!
# Everything that a try can do

A call that waits and a request that does not are tried alike. First the values move if they can;
`Channel.Moves` lists the ways. A call that is stuck then looks for a partner on a rendezvous
channel or parks; `Channel.Tried` lists these ways too. The theorems of this module say that each
operation on a bus does one of the listed things to one channel and nothing but counting besides,
so that whatever is to be shown of every operation is shown of the listed ways alone. What is
counted is `Channel.bill`, which the call and the channel that it finds determine.
-/

namespace ChannelBus

variable {α : Type}

namespace Call

/-- The queue on which a call parks. -/
def side : Call α → Side
  | .send _ _ | .sendMany _ _ | .broadcast _ => .senders
  | .receive _ | .receiveMany _ _ => .receivers

/-- The values that a call has for its channel. -/
def offers : Call α → List α
  | .send _ value => [value]
  | .sendMany _ values => values
  | .receive _ | .receiveMany _ _ | .broadcast _ => []

/-- How many values a call takes from its channel at most. -/
def wants : Call α → Nat
  | .receive _ => 1
  | .receiveMany _ max => max
  | .send _ _ | .sendMany _ _ | .broadcast _ => 0

/-- A call with values to send is on the side of the senders and names a handle. -/
theorem side_of_offers {call : Call α} (given : call.offers ≠ []) :
    call.side = .senders ∧ call.handle?.isSome = true := by
  cases call <;> first | exact ⟨rfl, rfl⟩ | exact absurd rfl given

/-- A call that wants values is on the side of the receivers and names a handle. -/
theorem side_of_wants {call : Call α} (wants : call.wants ≠ 0) :
    call.side = .receivers ∧ call.handle?.isSome = true := by
  cases call <;> first | exact ⟨rfl, rfl⟩ | exact absurd rfl wants

/-- A call that wants values has none to send. -/
theorem offers_of_wants {call : Call α} (wants : call.wants ≠ 0) : call.offers = [] := by
  cases call <;> first | rfl | exact absurd rfl wants

/-- Only a broadcast names no handle. -/
theorem eq_broadcast {call : Call α} (everywhere : call.handle? = none) :
    ∃ value, call = .broadcast value := by
  cases call with
  | broadcast value => exact ⟨value, rfl⟩
  | send | receive | sendMany | receiveMany => contradiction

/-- The reply to a call that failed. -/
def failed (call : Call α) (error : BusError) : Reply α :=
  match call with
  | .send _ _ | .broadcast _ => .sent (.error error)
  | .sendMany _ _ => .sentMany (.error error)
  | .receive _ => .received (.error error)
  | .receiveMany _ _ => .receivedMany (.error error)

/-- The reply to a call that failed is an error. -/
@[simp] theorem error?_failed (call : Call α) (error : BusError) :
    (call.failed error).error? = some error := by
  cases call <;> rfl

/-- The reply to a call of which this many values were sent. -/
def sent (call : Call α) (count : Nat) : Reply α :=
  match call with
  | .sendMany _ _ => .sentMany (.ok count)
  | .send _ _ | .receive _ | .receiveMany _ _ | .broadcast _ => .sent (.ok ())

/-- The reply to a call that received a value and perhaps more. -/
def received (call : Call α) (first : α) (rest : List α) : Reply α :=
  match call with
  | .receiveMany _ _ => .receivedMany (.ok (first :: rest))
  | .send _ _ | .sendMany _ _ | .receive _ | .broadcast _ => .received (.ok first)

/-- What a call leads to: its reply, or the wait that its ticket names. -/
def progress (call : Call α) (ticket : Ticket) : Option (Reply α) → Progress α
  | some reply => .finished reply
  | none => .parked { call, ticket }

end Call

/-- Whether the settings enable a call. -/
def Config.enables (config : Config) : Call α → Bool
  | .send _ _ | .receive _ => true
  | .sendMany _ _ | .receiveMany _ _ => config.batch
  | .broadcast _ => config.broadcast

namespace Channel

/-- What a call that need not wait does to its channel, and its reply. -/
inductive Moves (channel : Channel α) (call : Call α) : Reply α → Channel α → Prop where
  /-- There is nothing to send. -/
  | sentNothing (sender : call.side = .senders) (nothing : call.offers = []) :
    Moves channel call (call.sent 0) channel
  /-- Nothing is wanted. -/
  | tookNothing (receiver : call.side = .receivers) (nothing : call.wants = 0) :
    Moves channel call (.receivedMany (.ok [])) channel
  /-- Values go into the buffer. -/
  | accepted (given : call.offers ≠ []) (spare : channel.isFull = false) :
    Moves channel call (call.sent (channel.fitting call.offers).length)
      (channel.acceptMany call.offers).2
  /-- Values come out of the buffer. -/
  | released (first : α) (rest : List α) (held : channel.oldest call.wants = first :: rest) :
    Moves channel call (call.received first rest) (channel.releaseMany call.wants).2

/-- Whether a call cannot go ahead: a full buffer for a sender, an empty one for a receiver. -/
structure Stuck (channel : Channel α) (call : Call α) : Prop where
  /-- The call wants to move values. -/
  busy : call.offers ≠ [] ∨ call.wants ≠ 0
  /-- A sender finds no room. -/
  full : call.offers ≠ [] → channel.isFull = true
  /-- A receiver finds no value. -/
  empty : call.wants ≠ 0 → channel.buffer = []

/-- What one try of a call does to its channel; without a reply, the call parks. -/
inductive Tried (channel : Channel α) (waker : TaskId) (call : Call α) :
    Option (Reply α) → Channel α → Prop where
  /-- The call need not wait. -/
  | moved {reply : Reply α} {after : Channel α} (moves : channel.Moves call reply after) :
    Tried channel waker call (some reply) after
  /-- A sender hands its first value to a waiting receiver. -/
  | handedOff {value : α} {rest : List α} {served : Wait α} {after : Channel α}
    (stuck : channel.Stuck call) (offered : call.offers = value :: rest)
    (handed : channel.handOff value = some (served, after)) :
    Tried channel waker call (some (call.sent 1)) after
  /-- A receiver takes the value that a waiting sender offers. -/
  | tookOffer {value : α} {settled : Wait α} {after : Channel α}
    (stuck : channel.Stuck call) (wanted : call.wants ≠ 0)
    (taken : channel.takeOffer = some (value, settled, after)) :
    Tried channel waker call (some (call.received value [])) after
  /-- A sender parks with its first value on offer. -/
  | offering {value : α} {rest : List α} (stuck : channel.Stuck call)
    (offered : call.offers = value :: rest) (nobody : channel.handOff value = none) :
    Tried channel waker call none (channel.park .senders (.offered value) (some waker))
  /-- A receiver parks, on a rendezvous channel after a hint to the first waiting sender. -/
  | awaiting (stuck : channel.Stuck call) (wanted : call.wants ≠ 0)
    (nothing : channel.takeOffer = none) :
    Tried channel waker call none
      ((channel.wake .senders (if channel.isRendezvous then 1 else 0)).park .receivers .empty
        (some waker))

/-- The bill of one try of a call on a channel. A request that never waits runs up the same bill
when it moves values. -/
def bill (channel : Channel α) (call : Call α) : Bill :=
  match call.offers, call.wants with
  | [], 0 => {}
  | value :: rest, _ =>
    if channel.isFull then
      match channel.handOff value with
      | some _ => { given := 1, woken := 1, blocked := 1 }
      | none => { parked := 1, blocked := 1 }
    else
      { accepted := (channel.fitting (value :: rest)).length
        woken := (channel.acceptMany (value :: rest)).1.length }
  | [], wants + 1 =>
    match channel.oldest (wants + 1), channel.takeOffer with
    | [], some _ => { taken := 1, woken := 1, blocked := 1 }
    | [], none =>
      { parked := 1
        woken := (channel.front .senders (if channel.isRendezvous then 1 else 0)).length
        blocked := 1 }
    | first :: rest, _ =>
      { released := (first :: rest).length
        woken := (channel.releaseMany (wants + 1)).1.length }

section Bills

variable {channel : Channel α} {call : Call α}

/-- A call that moves nothing costs nothing. -/
theorem bill_of_idle (noOffers : call.offers = []) (noWants : call.wants = 0) :
    channel.bill call = {} := by
  simp [bill, noOffers, noWants]

/-- The bill of values that go into the buffer. -/
theorem bill_of_accepted (given : call.offers ≠ []) (spare : channel.isFull = false) :
    channel.bill call =
      { accepted := (channel.fitting call.offers).length
        woken := (channel.acceptMany call.offers).1.length } := by
  obtain ⟨value, rest, offers⟩ := List.exists_cons_of_ne_nil given
  simp [bill, offers, spare]

/-- A call that finds values wants some. -/
theorem wants_of_oldest {first : α} {rest : List α}
    (held : channel.oldest call.wants = first :: rest) : call.wants ≠ 0 := by
  intro none
  simp [none, oldest] at held

/-- The bill of values that come out of the buffer. -/
theorem bill_of_released {first : α} {rest : List α}
    (held : channel.oldest call.wants = first :: rest) :
    channel.bill call =
      { released := (first :: rest).length
        woken := (channel.releaseMany call.wants).1.length } := by
  have wanted := wants_of_oldest held
  obtain ⟨count, wants⟩ := Nat.exists_eq_succ_of_ne_zero wanted
  rw [wants] at held
  simp [bill, Call.offers_of_wants wanted, wants, held]

/-- The bill of a value that is handed to a waiting receiver. -/
theorem bill_of_handedOff {value : α} {rest : List α} {served : Wait α} {after : Channel α}
    (stuck : channel.Stuck call) (offered : call.offers = value :: rest)
    (handed : channel.handOff value = some (served, after)) :
    channel.bill call = { given := 1, woken := 1, blocked := 1 } := by
  have full := stuck.full (offered ▸ List.cons_ne_nil _ _)
  simp [bill, offered, full, handed]

/-- The bill of a sender that parks. -/
theorem bill_of_offering {value : α} {rest : List α} (stuck : channel.Stuck call)
    (offered : call.offers = value :: rest) (nobody : channel.handOff value = none) :
    channel.bill call = { parked := 1, blocked := 1 } := by
  have full := stuck.full (offered ▸ List.cons_ne_nil _ _)
  simp [bill, offered, full, nobody]

/-- A stuck receiver finds nothing in the buffer. -/
theorem Stuck.oldest (stuck : channel.Stuck call) (wanted : call.wants ≠ 0) (max : Nat) :
    channel.oldest max = [] := by
  simp [Channel.oldest, stuck.empty wanted]

/-- The bill of a value that is taken from a waiting sender. -/
theorem bill_of_tookOffer {value : α} {settled : Wait α} {after : Channel α}
    (stuck : channel.Stuck call) (wanted : call.wants ≠ 0)
    (taken : channel.takeOffer = some (value, settled, after)) :
    channel.bill call = { taken := 1, woken := 1, blocked := 1 } := by
  obtain ⟨count, wants⟩ := Nat.exists_eq_succ_of_ne_zero wanted
  simp [bill, Call.offers_of_wants wanted, wants, stuck.oldest wanted, taken]

/-- The bill of a receiver that parks. -/
theorem bill_of_awaiting (stuck : channel.Stuck call) (wanted : call.wants ≠ 0)
    (nothing : channel.takeOffer = none) :
    channel.bill call =
      { parked := 1
        woken := (channel.front .senders (if channel.isRendezvous then 1 else 0)).length
        blocked := 1 } := by
  obtain ⟨count, wants⟩ := Nat.exists_eq_succ_of_ne_zero wanted
  simp [bill, Call.offers_of_wants wanted, wants, stuck.oldest wanted, nothing]

end Bills

end Channel

namespace Bus

/-! ## Counting -/

/-- Two counts are one. -/
@[simp] theorem note_note (bus : Bus α) (first second : Stats → Stats) :
    (bus.note first).note second = bus.note (second ∘ first) := by
  unfold note
  cases telemetry : bus.config.telemetry <;> simp [telemetry]

/-- Counting nothing. -/
theorem note_id (bus : Bus α) : bus.note id = bus := by
  unfold note
  split <;> rfl

/-- Replacing a channel by itself. -/
theorem setChannel_self {bus : Bus α} {handle : Handle} {channel : Channel α}
    (here : bus.channel? handle = some channel) : bus.setChannel handle channel = bus := by
  have slot := channel?_eq_some_iff.mp here
  have same : bus.slots.set handle.id (some channel) = bus.slots := by
    refine List.ext_getElem? fun index => ?_
    rw [List.getElem?_set]
    split
    case isTrue equal =>
      subst equal
      rw [slot]
      simp [(List.getElem?_eq_some_iff.mp slot).1]
    case isFalse => rfl
  simp [setChannel, same]

/-- Between two buses one channel was replaced and perhaps something was counted. -/
def Becomes (bus after : Bus α) (handle : Handle) (channel : Channel α) : Prop :=
  ∃ update, after = (bus.setChannel handle channel).note update

/-- A bus that stays as it is, on a bill that lists nothing. -/
theorem billed_self {bus : Bus α} {handle : Handle} {channel : Channel α}
    (here : bus.channel? handle = some channel) : bus.Billed bus handle channel {} := by
  rw [Billed, setChannel_self here]
  exact (note_id bus).symm

/-- What the bill lists does not matter for the channels. -/
theorem Billed.becomes {bus after : Bus α} {handle : Handle} {channel : Channel α} {bill : Bill}
    (billed : bus.Billed after handle channel bill) : bus.Becomes after handle channel :=
  ⟨bill.charge, billed⟩

/-- An attempt that would have blocked goes on the bill of what is done instead. -/
theorem Billed.of_blocked {bus after : Bus α} {handle : Handle} {channel : Channel α} {bill : Bill}
    (billed : (bus.note (·.countError .wouldBlock)).Billed after handle channel bill) :
    bus.Billed after handle channel { bill with blocked := bill.blocked + 1 } := by
  rw [Billed, setChannel_note, note_note] at billed
  rw [billed, Billed]
  congr 1
  funext stats
  simp [Bill.charge, Stats.countError, Nat.add_comm, Nat.add_left_comm]

/-- An operation that does nothing but fail, counting and raising the error. -/
def failing {β : Type} (bus : Bus α) (error : BusError) (result : β) : Outcome α β :=
  { result, bus := bus.note (·.countError error), notices := [.raised error] }

/-! ## Moving without waiting -/

section Moving

variable {bus : Bus α} {handle : Handle} {generation : Option Nat} {channel : Channel α}

/-- A push appends its value or would block. -/
theorem push_cases (found : bus.lookup handle generation = some channel) (value : α) :
    (channel.isFull = false ∧ (bus.push handle generation value).result = .ok () ∧
      bus.Billed (bus.push handle generation value).bus handle (channel.acceptMany [value]).2
        { accepted := (channel.fitting [value]).length
          woken := (channel.acceptMany [value]).1.length }) ∨
    (channel.isFull = true ∧ bus.push handle generation value = bus.fail .wouldBlock) := by
  cases full : channel.isFull with
  | true => exact .inr ⟨rfl, by simp [push, found, Channel.accept_eq, full]⟩
  | false =>
    refine .inl ⟨rfl, by simp [push, found, Channel.accept_eq, full], ?_⟩
    simp only [Billed, push, found, Channel.accept_eq, full, Channel.fitting_singleton full]
    rfl

/-- A pop takes the oldest value or would block. -/
theorem pop_cases (found : bus.lookup handle generation = some channel) :
    (∃ value, channel.oldest 1 = [value] ∧ (bus.pop handle generation).result = .ok value ∧
      bus.Billed (bus.pop handle generation).bus handle (channel.releaseMany 1).2
        { released := 1, woken := (channel.releaseMany 1).1.length }) ∨
    (channel.buffer = [] ∧ bus.pop handle generation = bus.fail .wouldBlock) := by
  cases held : channel.buffer with
  | nil => exact .inr ⟨rfl, by simp [pop, found, Channel.release_eq, held]⟩
  | cons value rest =>
    refine .inl ⟨value, by simp [Channel.oldest, held], ?_, ?_⟩
    · simp [pop, found, Channel.release_eq, held]
    · simp only [Billed, pop, found, Channel.release_eq, held]
      rfl

/-- A batch push has nothing to do, appends what fits, or would block. -/
theorem pushMany_cases (found : bus.lookup handle generation = some channel) (values : List α) :
    (values = [] ∧ bus.pushMany handle generation values = bus.unchanged (.ok 0)) ∨
    (values ≠ [] ∧ channel.isFull = false ∧
      (bus.pushMany handle generation values).result = .ok (channel.fitting values).length ∧
      bus.Billed (bus.pushMany handle generation values).bus handle (channel.acceptMany values).2
        { accepted := (channel.fitting values).length
          woken := (channel.acceptMany values).1.length }) ∨
    (values ≠ [] ∧ channel.isFull = true ∧
      bus.pushMany handle generation values = bus.fail .wouldBlock) := by
  by_cases nothing : values = []
  · exact .inl ⟨nothing, by simp [pushMany, found, nothing]⟩
  · have given : values.isEmpty = false := by simpa using nothing
    right
    cases full : channel.isFull with
    | true =>
      have none : (channel.fitting values).length = 0 := by
        simp [Channel.isFull_iff.mp full]
      exact .inr ⟨nothing, rfl, by simp only [pushMany, found, given, none]; rfl⟩
    | false =>
      have some : (channel.fitting values).length ≠ 0 := fun none =>
        Channel.fitting_ne_nil nothing full (List.length_eq_zero_iff.mp none)
      refine .inl ⟨nothing, rfl, ?_, ?_⟩
      · simp only [pushMany, found, given, if_neg some]
        rfl
      · simp only [Billed, pushMany, found, given, if_neg some]
        rfl

/-- A batch pop has nothing to do, takes the oldest values, or would block. -/
theorem popMany_cases (found : bus.lookup handle generation = some channel) (max : Nat) :
    (max = 0 ∧ bus.popMany handle generation max = bus.unchanged (.ok [])) ∨
    (max ≠ 0 ∧ ∃ first rest, channel.oldest max = first :: rest ∧
      (bus.popMany handle generation max).result = .ok (first :: rest) ∧
      bus.Billed (bus.popMany handle generation max).bus handle (channel.releaseMany max).2
        { released := (first :: rest).length
          woken := (channel.releaseMany max).1.length }) ∨
    (max ≠ 0 ∧ channel.buffer = [] ∧
      bus.popMany handle generation max = bus.fail .wouldBlock) := by
  by_cases nothing : max = 0
  · exact .inl ⟨nothing, by simp [popMany, found, nothing]⟩
  · right
    cases held : channel.oldest max with
    | nil =>
      have empty : channel.buffer = [] := by simpa [Channel.oldest, nothing] using held
      exact .inr ⟨nothing, empty, by simp [popMany, found, nothing, held]⟩
    | cons first rest =>
      refine .inl ⟨nothing, first, rest, rfl, by simp [popMany, found, nothing, held], ?_⟩
      simp only [Billed, popMany, found, if_neg nothing, held]
      rfl

end Moving

/-! ## One try of a call on a handle -/

/-- One try of a call that is pinned to a generation. -/
def attempt (bus : Bus α) (generation : Nat) (waker : TaskId) : Call α → Outcome α (Progress α)
  | .send handle value => bus.sendOnce handle generation value waker
  | .receive handle => bus.receiveOnce handle generation waker
  | .sendMany handle values => bus.sendManyOnce handle generation values waker
  | .receiveMany handle max => bus.receiveManyOnce handle generation max waker
  | .broadcast value => bus.broadcastTry value none waker

section Trying

variable {bus : Bus α} {handle : Handle} {generation : Nat} {channel : Channel α}

/-- A stuck sender hands its value over or parks with it. -/
theorem offer_cases (pinned : bus.pinned? handle generation = some channel) (value : α)
    (waker : TaskId) (call : Call α) (reply : Result Unit → Reply α) :
    (∃ served after, channel.handOff value = some (served, after) ∧
      (bus.offer handle generation value waker call reply).result = .finished (reply (.ok ())) ∧
      bus.Billed (bus.offer handle generation value waker call reply).bus handle after
        { given := 1, woken := 1 }) ∨
    (channel.handOff value = none ∧
      (bus.offer handle generation value waker call reply).result =
        .parked ⟨call, ⟨handle, generation, .senders, channel.senders.nextKey⟩⟩ ∧
      bus.Billed (bus.offer handle generation value waker call reply).bus handle
        (channel.park .senders (.offered value) (some waker)) { parked := 1 }) := by
  cases handed : channel.handOff value with
  | some outcome =>
    obtain ⟨served, after⟩ := outcome
    refine .inl ⟨served, after, rfl, by simp [offer, pinned, handed], ?_⟩
    simp only [Billed, offer, pinned, handed]
    rfl
  | none =>
    have same := (pinned?_eq_some_iff.mp pinned).2
    refine .inr ⟨rfl, ?_, ?_⟩
    · simp [offer, pinned, handed, park, Outcome.andThen, same, Channel.queue]
    · simp only [Billed, offer, pinned, handed]
      rfl

/-- A stuck receiver takes an offered value or parks. -/
theorem await_cases (pinned : bus.pinned? handle generation = some channel) (waker : TaskId)
    (call : Call α) (reply : Result α → Reply α) :
    (∃ value settled after, channel.takeOffer = some (value, settled, after) ∧
      (bus.await handle generation waker call reply).result = .finished (reply (.ok value)) ∧
      bus.Billed (bus.await handle generation waker call reply).bus handle after
        { taken := 1, woken := 1 }) ∨
    (channel.takeOffer = none ∧
      (bus.await handle generation waker call reply).result =
        .parked ⟨call, ⟨handle, generation, .receivers, channel.receivers.nextKey⟩⟩ ∧
      bus.Billed (bus.await handle generation waker call reply).bus handle
        ((channel.wake .senders (if channel.isRendezvous then 1 else 0)).park .receivers .empty
          (some waker))
        { parked := 1
          woken := (channel.front .senders (if channel.isRendezvous then 1 else 0)).length }) := by
  cases taken : channel.takeOffer with
  | some outcome =>
    obtain ⟨value, settled, after⟩ := outcome
    refine .inl ⟨value, settled, after, rfl, by simp [await, pinned, taken], ?_⟩
    simp only [Billed, await, pinned, taken]
    rfl
  | none =>
    have same := (pinned?_eq_some_iff.mp pinned).2
    refine .inr ⟨rfl, ?_, ?_⟩
    · simp [await, pinned, taken, park, Outcome.andThen, Outcome.after, same, Channel.queue,
        Channel.wake, Channel.setQueue]
    · simp only [Billed, await, pinned, taken]
      rfl

/-- A call whose channel is closed fails, and nothing else happens. -/
theorem attempt_gone (gone : bus.pinned? handle generation = none) {call : Call α}
    (named : call.handle? = some handle) (waker : TaskId) : bus.attempt generation waker call =
      bus.failing .noChannel (.finished (call.failed .noChannel)) := by
  cases call with
  | broadcast value => contradiction
  | send target value | receive target | sendMany target values | receiveMany target max =>
    obtain rfl : target = handle := Option.some.inj named
    simp [attempt, sendOnce, receiveOnce, sendManyOnce, receiveManyOnce, push, pop, pushMany,
      popMany, lookup, gone, fail, failing, Outcome.andThen, unchanged, Call.failed]

/-- An outcome of one of the listed tries. -/
def Attempted (bus : Bus α) (handle : Handle) (channel : Channel α) (waker : TaskId)
    (call : Call α) (outcome : Outcome α (Progress α)) : Prop :=
  ∃ reply? after, channel.Tried waker call reply? after ∧
    bus.Billed outcome.bus handle after (channel.bill call) ∧ outcome.result = call.progress
      ⟨handle, channel.generation, call.side, (channel.queue call.side).nextKey⟩ reply?

/-- The notices of an outcome do not matter for what was tried. -/
theorem Attempted.congr {waker : TaskId} {call : Call α} {outcome other : Outcome α (Progress α)}
    (attempted : bus.Attempted handle channel waker call outcome)
    (sameResult : other.result = outcome.result) (sameBus : other.bus = outcome.bus) :
    bus.Attempted handle channel waker call other := by
  unfold Attempted
  rw [sameResult, sameBus]
  exact attempted

/-- A call that moved values is over. -/
theorem attempted_of_moves {waker : TaskId} {call : Call α} {reply : Reply α}
    {after : Channel α} {outcome : Outcome α (Progress α)}
    (moves : channel.Moves call reply after)
    (billed : bus.Billed outcome.bus handle after (channel.bill call))
    (ends : outcome.result = .finished reply) : bus.Attempted handle channel waker call outcome :=
  ⟨some reply, after, .moved moves, billed, ends⟩

/-- A stuck sender goes on as listed. -/
theorem attempted_offer (pinned : bus.pinned? handle generation = some channel) {call : Call α}
    {value : α} {rest : List α} (reply : Result Unit → Reply α) (stuck : channel.Stuck call)
    (offered : call.offers = value :: rest) (sender : call.side = .senders)
    (first : reply (.ok ()) = call.sent 1) (waker : TaskId) :
    bus.Attempted handle channel waker call
      ((bus.note (·.countError .wouldBlock)).offer handle generation value waker call reply) := by
  have same := (pinned?_eq_some_iff.mp pinned).2
  have counted :
      (bus.note (·.countError .wouldBlock)).pinned? handle generation = some channel := by
    rw [pinned?_note, pinned]
  rcases offer_cases counted value waker call reply with
    ⟨served, after, handed, result, billed⟩ | ⟨nobody, result, billed⟩
  · refine ⟨_, _, .handedOff stuck offered handed, ?_, ?_⟩
    · rw [Channel.bill_of_handedOff stuck offered handed]
      exact billed.of_blocked
    · rw [result, first]
      rfl
  · refine ⟨_, _, .offering stuck offered nobody, ?_, ?_⟩
    · rw [Channel.bill_of_offering stuck offered nobody]
      exact billed.of_blocked
    · rw [result, sender, same]
      rfl

/-- A stuck receiver goes on as listed. -/
theorem attempted_await (pinned : bus.pinned? handle generation = some channel) {call : Call α}
    (reply : Result α → Reply α) (stuck : channel.Stuck call) (wanted : call.wants ≠ 0)
    (receiver : call.side = .receivers) (one : ∀ value, reply (.ok value) = call.received value [])
    (waker : TaskId) : bus.Attempted handle channel waker call
      ((bus.note (·.countError .wouldBlock)).await handle generation waker call reply) := by
  have same := (pinned?_eq_some_iff.mp pinned).2
  have counted :
      (bus.note (·.countError .wouldBlock)).pinned? handle generation = some channel := by
    rw [pinned?_note, pinned]
  rcases await_cases counted waker call reply with
    ⟨value, settled, after, taken, result, billed⟩ | ⟨nothing, result, billed⟩
  · refine ⟨_, _, .tookOffer stuck wanted taken, ?_, ?_⟩
    · rw [Channel.bill_of_tookOffer stuck wanted taken]
      exact billed.of_blocked
    · rw [result, one]
      rfl
  · refine ⟨_, _, .awaiting stuck wanted nothing, ?_, ?_⟩
    · rw [Channel.bill_of_awaiting stuck wanted nothing]
      exact billed.of_blocked
    · rw [result, receiver, same]
      rfl

/-- A call whose channel is open does one of the listed things to it. -/
theorem attempted_attempt (pinned : bus.pinned? handle generation = some channel) {call : Call α}
    (named : call.handle? = some handle) (waker : TaskId) :
    bus.Attempted handle channel waker call (bus.attempt generation waker call) := by
  have here := (pinned?_eq_some_iff.mp pinned).1
  have found : bus.lookup handle (some generation) = some channel := pinned
  cases call with
  | broadcast value => contradiction
  | send target value =>
    obtain rfl : target = handle := Option.some.inj named
    rcases push_cases found value with ⟨spare, result, billed⟩ | ⟨full, blocked⟩
    · have given : (Call.send target value).offers ≠ [] := List.cons_ne_nil _ _
      refine attempted_of_moves (.accepted given spare) ?_ ?_
      · rw [Channel.bill_of_accepted given spare]
        simp only [attempt, sendOnce, Outcome.andThen, result]
        exact billed
      · simp [attempt, sendOnce, Outcome.andThen, result, unchanged, Call.sent]
    · have stuck : channel.Stuck (.send target value) :=
        ⟨.inl (List.cons_ne_nil _ _), fun _ => full, fun wanted => absurd rfl wanted⟩
      refine (attempted_offer pinned .sent stuck rfl rfl rfl waker).congr ?_ ?_
      · simp [attempt, sendOnce, Outcome.andThen, blocked, fail]
      · simp [attempt, sendOnce, Outcome.andThen, blocked, fail]
  | sendMany target values =>
    obtain rfl : target = handle := Option.some.inj named
    rcases pushMany_cases found values with ⟨rfl, idle⟩ | ⟨given, spare, result, billed⟩ |
      ⟨given, full, blocked⟩
    · refine attempted_of_moves (.sentNothing rfl rfl) ?_ ?_
      · rw [Channel.bill_of_idle rfl rfl]
        simpa [attempt, sendManyOnce, Outcome.andThen, idle, unchanged] using billed_self here
      · simp [attempt, sendManyOnce, Outcome.andThen, idle, unchanged, Call.sent]
    · have offered : (Call.sendMany target values).offers ≠ [] := given
      refine attempted_of_moves (.accepted offered spare) ?_ ?_
      · rw [Channel.bill_of_accepted offered spare]
        simp only [attempt, sendManyOnce, Outcome.andThen, result]
        exact billed
      · simp [attempt, sendManyOnce, Outcome.andThen, result, unchanged, Call.sent, Call.offers]
    · obtain ⟨first, rest, rfl⟩ := List.exists_cons_of_ne_nil given
      have stuck : channel.Stuck (.sendMany target (first :: rest)) :=
        ⟨.inl given, fun _ => full, fun wanted => absurd rfl wanted⟩
      refine (attempted_offer pinned .sentFirst stuck rfl rfl rfl waker).congr ?_ ?_
      · simp [attempt, sendManyOnce, Outcome.andThen, blocked, fail]
      · simp [attempt, sendManyOnce, Outcome.andThen, blocked, fail]
  | receive target =>
    obtain rfl : target = handle := Option.some.inj named
    rcases pop_cases found with ⟨value, oldest, result, billed⟩ | ⟨empty, blocked⟩
    · refine attempted_of_moves (.released value [] oldest) ?_ ?_
      · rw [Channel.bill_of_released oldest]
        simp only [attempt, receiveOnce, Outcome.andThen, result]
        exact billed
      · simp [attempt, receiveOnce, Outcome.andThen, result, unchanged, Call.received]
    · have stuck : channel.Stuck (.receive target) :=
        ⟨.inr Nat.one_ne_zero, fun offered => absurd rfl offered, fun _ => empty⟩
      refine (attempted_await pinned .received stuck Nat.one_ne_zero rfl
        (fun _ => rfl) waker).congr ?_ ?_
      · simp [attempt, receiveOnce, Outcome.andThen, blocked, fail]
      · simp [attempt, receiveOnce, Outcome.andThen, blocked, fail]
  | receiveMany target max =>
    obtain rfl : target = handle := Option.some.inj named
    rcases popMany_cases found max with ⟨rfl, idle⟩ |
      ⟨wanted, first, rest, oldest, result, billed⟩ | ⟨wanted, empty, blocked⟩
    · refine attempted_of_moves (.tookNothing rfl rfl) ?_ ?_
      · rw [Channel.bill_of_idle rfl rfl]
        simpa [attempt, receiveManyOnce, Outcome.andThen, idle, unchanged] using billed_self here
      · simp [attempt, receiveManyOnce, Outcome.andThen, idle, unchanged]
    · refine attempted_of_moves (.released first rest oldest) ?_ ?_
      · rw [Channel.bill_of_released oldest]
        simp only [attempt, receiveManyOnce, Outcome.andThen, result]
        exact billed
      · simp [attempt, receiveManyOnce, Outcome.andThen, result, unchanged, Call.received]
    · have stuck : channel.Stuck (.receiveMany target max) :=
        ⟨.inr wanted, fun offered => absurd rfl offered, fun _ => empty⟩
      refine (attempted_await pinned .receivedOne stuck wanted rfl
        (fun _ => rfl) waker).congr ?_ ?_
      · simp [attempt, receiveManyOnce, Outcome.andThen, blocked, fail]
      · simp [attempt, receiveManyOnce, Outcome.andThen, blocked, fail]

end Trying

/-! ## Starting a call -/

/-- A disabled call fails. -/
theorem start_of_disabled {bus : Bus α} {call : Call α}
    (disabled : bus.config.enables call = false) (waker : TaskId) : bus.start call waker =
      bus.failing .notImplemented (.finished (call.failed .notImplemented)) := by
  cases call with
  | send | receive => contradiction
  | sendMany | receiveMany | broadcast =>
    simp only [Config.enables] at disabled
    simp [start, ensuring, disabled, fail, failing, Outcome.map, Call.failed]

/-- A call on a handle without a channel fails. -/
theorem start_of_closed {bus : Bus α} {call : Call α} {handle : Handle}
    (enabled : bus.config.enables call = true) (named : call.handle? = some handle)
    (closed : bus.channel? handle = none) (waker : TaskId) : bus.start call waker =
      bus.failing .noChannel (.finished (call.failed .noChannel)) := by
  cases call with
  | broadcast value => contradiction
  | send target value | receive target | sendMany target values | receiveMany target max =>
    obtain rfl : target = handle := Option.some.inj named
    simp only [Config.enables] at enabled
    simp [start, ensuring, enabled, pinning, closed, fail, failing, Outcome.map, Call.failed]

/-- A call on a handle is pinned to the channel that is open under it. -/
theorem start_of_open {bus : Bus α} {call : Call α} {handle : Handle} {channel : Channel α}
    (enabled : bus.config.enables call = true) (named : call.handle? = some handle)
    (here : bus.channel? handle = some channel) (waker : TaskId) :
    bus.start call waker = bus.attempt channel.generation waker call := by
  cases call with
  | broadcast value => contradiction
  | send target value | receive target | sendMany target values | receiveMany target max =>
    obtain rfl : target = handle := Option.some.inj named
    simp only [Config.enables] at enabled
    simp [start, ensuring, enabled, pinning, here, attempt]

/-- A broadcast is pinned to nothing. -/
theorem start_broadcast {bus : Bus α} {value : α} (enabled : bus.config.broadcast = true)
    (waker : TaskId) : bus.start (.broadcast value) waker = bus.broadcastTry value none waker := by
  simp [start, ensuring, enabled]

/-! ## Resuming a call -/

end Bus

/-- What a call may find on its wait: what it left there, or the outcome of a transfer. -/
inductive Call.Finds (call : Call α) : Parcel α → Prop where
  /-- The offer of a sender. -/
  | offered {value : α} {rest : List α} (offers : call.offers = value :: rest) :
    Finds call (.offered value)
  /-- The mark that the offer was taken. -/
  | taken {value : α} {rest : List α} (offers : call.offers = value :: rest) : Finds call .taken
  /-- A receiver leaves nothing. -/
  | empty (wants : call.wants ≠ 0) : Finds call .empty
  /-- A value for the receiver. -/
  | delivered (value : α) (wants : call.wants ≠ 0) : Finds call (.delivered value)
  /-- A broadcaster leaves nothing. -/
  | unpinned (everywhere : call.handle? = none) : Finds call .empty

/-- The reply to a call for which a transfer has happened while it was parked. -/
def Call.settledReply (call : Call α) : Parcel α → Option (Reply α)
  | .taken => some (call.sent 1)
  | .delivered value => some (call.received value [])
  | .empty | .offered _ => none

/-- A call that finds a settled parcel named a handle. -/
theorem Call.Finds.named_of_settled {call : Call α} {parcel : Parcel α} (finds : call.Finds parcel)
    (settled : parcel.isSettled = true) : call.handle?.isSome = true := by
  cases finds with
  | offered | empty | unpinned => contradiction
  | taken offers => exact (Call.side_of_offers (offers ▸ List.cons_ne_nil _ _)).2
  | delivered value wants => exact (Call.side_of_wants wants).2

/-- The reply that a settled parcel holds is a success. -/
theorem Call.error?_of_settledReply {call : Call α} {parcel : Parcel α} {reply : Reply α}
    (happened : call.settledReply parcel = some reply) : reply.error? = none := by
  cases parcel with
  | empty | offered => contradiction
  | delivered value =>
    obtain rfl := Option.some.inj happened
    cases call <;> rfl
  | taken =>
    obtain rfl := Option.some.inj happened
    cases call <;> rfl

/-- Only a settled parcel holds a reply. -/
theorem Call.isSettled_of_settledReply {call : Call α} {parcel : Parcel α} {reply : Reply α}
    (happened : call.settledReply parcel = some reply) : parcel.isSettled = true := by
  cases parcel with
  | delivered | taken => rfl
  | empty | offered => contradiction

/-- A parcel that holds no reply is not settled. -/
theorem Call.unsettled_of_settledReply {call : Call α} {parcel : Parcel α}
    (nothing : call.settledReply parcel = none) : parcel.isSettled = false := by
  cases parcel with
  | empty | offered => rfl
  | delivered | taken => contradiction

/-- Whether a notice tells that a wait was dequeued. -/
def Notice.isWoke : Notice → Bool
  | .woke _ _ => true
  | _ => false

namespace Bus

/-- A call that was settled while it was parked is over. -/
theorem wakeUp_of_settled {bus : Bus α} {suspended : Suspended α} {parcel : Parcel α}
    {reply : Reply α} (finds : suspended.call.Finds parcel)
    (settled : suspended.call.settledReply parcel = some reply) (waker : TaskId) :
    bus.wakeUp suspended parcel waker = bus.unchanged (.finished reply) := by
  obtain ⟨call, ticket⟩ := suspended
  cases finds with
  | offered | empty | unpinned => contradiction
  | taken offers =>
    obtain rfl := Option.some.inj settled
    cases call with
    | send | sendMany => rfl
    | receive | receiveMany | broadcast => contradiction
  | delivered value wants =>
    obtain rfl := Option.some.inj settled
    cases call with
    | receive | receiveMany => rfl
    | send | sendMany | broadcast => exact absurd rfl wants

/-- A call on a handle that was woken without a transfer is tried again. -/
theorem wakeUp_of_unsettled {bus : Bus α} {suspended : Suspended α} {parcel : Parcel α}
    {handle : Handle} (finds : suspended.call.Finds parcel)
    (unsettled : parcel.isSettled = false) (named : suspended.call.handle? = some handle)
    (waker : TaskId) : ∃ notices : List Notice,
      bus.wakeUp suspended parcel waker =
        (bus.attempt suspended.ticket.generation waker suspended.call).after notices ∧
      notices.filterMap Notice.wakes? = [] ∧ notices.filter Notice.isWoke = [] := by
  obtain ⟨call, ticket⟩ := suspended
  cases finds with
  | taken | delivered => contradiction
  | unpinned everywhere => simp [everywhere] at named
  | offered offers =>
    cases call with
    | send target value =>
      obtain ⟨rfl, _⟩ := List.cons.inj offers
      exact ⟨[.senderRetrying target], rfl, rfl, rfl⟩
    | sendMany target values => exact ⟨[], by simp [wakeUp, attempt, Outcome.after], rfl, rfl⟩
    | receive | receiveMany | broadcast => contradiction
  | empty wants =>
    cases call with
    | receive target => exact ⟨[.receiverRetrying target], rfl, rfl, rfl⟩
    | receiveMany target max => exact ⟨[], by simp [wakeUp, attempt, Outcome.after], rfl, rfl⟩
    | send | sendMany | broadcast => exact absurd rfl wants

/-- A broadcaster that was woken regards all channels again. -/
theorem wakeUp_broadcast (bus : Bus α) (ticket : Ticket) (value : α) (parcel : Parcel α)
    (waker : TaskId) : bus.wakeUp ⟨.broadcast value, ticket⟩ parcel waker =
      bus.broadcastTry value (some (ticket.handle, ticket.generation)) waker := by
  cases parcel <;> rfl

/-- Polling a call whose wait is queued only replaces its waker. -/
theorem resume_of_queued {bus : Bus α} {suspended : Suspended α}
    (queued : (bus.ticketQueue suspended.ticket).holds suspended.ticket.key = true)
    (waker : TaskId) : bus.resume suspended waker =
      (bus.setTicketQueue suspended.ticket
        ((bus.ticketQueue suspended.ticket).refresh suspended.ticket.key waker)).unchanged
          (.parked suspended) := by
  simp [resume, WaitQueue.found?, WaitQueue.poll, queued]

/-- Polling a call whose wait was dequeued takes the wait away and goes on with the call. -/
theorem resume_of_dequeued {bus : Bus α} {suspended : Suspended α} {parcel : Parcel α}
    (dequeued : (bus.ticketQueue suspended.ticket).holds suspended.ticket.key = false)
    (held : (bus.ticketQueue suspended.ticket).parcel? suspended.ticket.key = some parcel)
    (waker : TaskId) : bus.resume suspended waker =
      (bus.setTicketQueue suspended.ticket
        ((bus.ticketQueue suspended.ticket).forget suspended.ticket.key)).wakeUp suspended parcel
          waker := by
  have found := (WaitQueue.found?_of_parcel? held dequeued).1
  simp [resume, WaitQueue.poll, found, dequeued]

/-! ## Requests -/

section Performing

variable [Stored α] {bus : Bus α} {request : Request α} {call : Call α} {handle : Handle}

/-- A disabled request fails. -/
theorem perform_of_disabled (asked : request.call? = some call)
    (disabled : bus.config.enables call = false) : bus.perform request =
      bus.failing .notImplemented (.ok (.reply (call.failed .notImplemented))) := by
  cases request <;> simp only [Request.call?, Option.some.injEq, reduceCtorEq] at asked <;>
    subst asked <;> simp_all [Config.enables, perform, trySendMany, tryReceiveMany, tryBroadcast,
      ensure, fail, failing, Outcome.map, Call.failed]

/-- A request on a handle without a channel fails. -/
theorem perform_of_closed (asked : request.call? = some call)
    (enabled : bus.config.enables call = true) (named : call.handle? = some handle)
    (closed : bus.channel? handle = none) : bus.perform request =
      bus.failing .noChannel (.ok (.reply (call.failed .noChannel))) := by
  cases request <;> simp only [Request.call?, Option.some.injEq, reduceCtorEq] at asked <;>
    subst asked <;> simp_all [Config.enables, perform, trySend, tryReceive, trySendMany,
      tryReceiveMany, ensure, fail, failing, Outcome.map, Call.failed, Call.handle?, push, pop,
      pushMany, popMany, lookup]

/-- A request on an open channel moves values, or it would block and does nothing. -/
theorem perform_of_open {channel : Channel α} (asked : request.call? = some call)
    (enabled : bus.config.enables call = true) (named : call.handle? = some handle)
    (here : bus.channel? handle = some channel) :
    (∃ reply after, channel.Moves call reply after ∧
      bus.Billed (bus.perform request).bus handle after (channel.bill call) ∧
      (bus.perform request).result = .ok (.reply reply)) ∨
    (channel.Stuck call ∧ bus.perform request =
      bus.failing .wouldBlock (.ok (.reply (call.failed .wouldBlock)))) := by
  have found : bus.lookup handle none = some channel := here
  cases request with
  | openChannel | close | delete | isOpen | capacity | length | waiting | channelCount | handles
  | stats => contradiction
  | tryBroadcast value =>
    obtain rfl : Call.broadcast value = call := Option.some.inj asked
    contradiction
  | trySend target value =>
    obtain rfl : Call.send target value = call := Option.some.inj asked
    obtain rfl : target = handle := Option.some.inj named
    rcases push_cases found value with ⟨spare, result, billed⟩ | ⟨full, blocked⟩
    · have given : (Call.send target value).offers ≠ [] := List.cons_ne_nil _ _
      refine .inl ⟨_, _, .accepted given spare, ?_, ?_⟩
      · rw [Channel.bill_of_accepted given spare]
        exact billed
      · simp [perform, trySend, Outcome.map, result, Call.sent]
    · refine .inr ⟨⟨.inl (List.cons_ne_nil _ _), fun _ => full, fun wanted => absurd rfl wanted⟩,
        ?_⟩
      simp [perform, trySend, blocked, fail, failing, Outcome.map, Call.failed]
  | tryReceive target =>
    obtain rfl : Call.receive target = call := Option.some.inj asked
    obtain rfl : target = handle := Option.some.inj named
    rcases pop_cases found with ⟨value, oldest, result, billed⟩ | ⟨empty, blocked⟩
    · refine .inl ⟨_, _, .released value [] oldest, ?_, ?_⟩
      · rw [Channel.bill_of_released oldest]
        exact billed
      · simp [perform, tryReceive, Outcome.map, result, Call.received]
    · refine .inr ⟨⟨.inr Nat.one_ne_zero, fun offered => absurd rfl offered, fun _ => empty⟩, ?_⟩
      simp [perform, tryReceive, blocked, fail, failing, Outcome.map, Call.failed]
  | trySendMany target values =>
    obtain rfl : Call.sendMany target values = call := Option.some.inj asked
    obtain rfl : target = handle := Option.some.inj named
    have batch : bus.config.batch = true := enabled
    rcases pushMany_cases found values with ⟨rfl, idle⟩ | ⟨given, spare, result, billed⟩ |
      ⟨given, full, blocked⟩
    · refine .inl ⟨_, _, .sentNothing rfl rfl, ?_, ?_⟩
      · rw [Channel.bill_of_idle rfl rfl]
        simpa [perform, trySendMany, ensure, batch, Outcome.map, idle, unchanged] using
          billed_self here
      · simp [perform, trySendMany, ensure, batch, Outcome.map, idle, unchanged, Call.sent]
    · have offered : (Call.sendMany target values).offers ≠ [] := given
      refine .inl ⟨_, _, .accepted offered spare, ?_, ?_⟩
      · rw [Channel.bill_of_accepted offered spare]
        simp only [perform, trySendMany, ensure, batch, Outcome.map, if_true]
        exact billed
      · simp [perform, trySendMany, ensure, batch, Outcome.map, result, Call.sent, Call.offers]
    · refine .inr ⟨⟨.inl given, fun _ => full, fun wanted => absurd rfl wanted⟩, ?_⟩
      simp [perform, trySendMany, ensure, batch, blocked, fail, failing, Outcome.map, Call.failed]
  | tryReceiveMany target max =>
    obtain rfl : Call.receiveMany target max = call := Option.some.inj asked
    obtain rfl : target = handle := Option.some.inj named
    have batch : bus.config.batch = true := enabled
    rcases popMany_cases found max with ⟨rfl, idle⟩ |
      ⟨wanted, first, rest, oldest, result, billed⟩ | ⟨wanted, empty, blocked⟩
    · refine .inl ⟨_, _, .tookNothing rfl rfl, ?_, ?_⟩
      · rw [Channel.bill_of_idle rfl rfl]
        simpa [perform, tryReceiveMany, ensure, batch, Outcome.map, idle, unchanged] using
          billed_self here
      · simp [perform, tryReceiveMany, ensure, batch, Outcome.map, idle, unchanged]
    · refine .inl ⟨_, _, .released first rest oldest, ?_, ?_⟩
      · rw [Channel.bill_of_released oldest]
        simp only [perform, tryReceiveMany, ensure, batch, Outcome.map, if_true]
        exact billed
      · simp [perform, tryReceiveMany, ensure, batch, Outcome.map, result, Call.received]
    · refine .inr ⟨⟨.inr wanted, fun offered => absurd rfl offered, fun _ => empty⟩, ?_⟩
      simp [perform, tryReceiveMany, ensure, batch, blocked, fail, failing, Outcome.map,
        Call.failed]

end Performing

end Bus

end ChannelBus
