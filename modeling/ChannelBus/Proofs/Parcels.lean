import ChannelBus.Proofs.Effects

/-!
# What lies on the waits

Senders, batch senders and broadcasters share the queue of a channel, and other tasks change what
lies on a parked wait. A call that is resumed opens its parcel without looking for what cannot be
there: a send gives up if it finds neither its offer nor the mark that it was taken, and the other
calls leave behind what they do not expect. Neither is ever put to the test. A queued receiver has
an empty parcel, a queued sender offers the very value that its call has to deliver, unless it is a
broadcaster, which has nothing to offer; and what a resumed call finds is what it left, or the
outcome of the one transfer that it waited for.

The waits on a bus and the waiting calls belong together in every reachable state, so a wait tells
whose it is (`Session.Owns`), and the invariant on the parcels is read off its owner.
-/

namespace ChannelBus

variable {α : Type}

namespace WaitQueue

/-- Takes the first offer the way a search by position does: find the position, remove the wait at
it, and open the parcel. The inner answer is absent if the parcel turns out to hold no offer. -/
def takeSelected (queue : WaitQueue α) : Option (Option (α × Wait α × WaitQueue α)) :=
  (queue.waiting.findIdx? (·.parcel.offer?.isSome)).bind fun position =>
    (queue.waiting[position]?).map fun wait =>
      wait.parcel.offer?.map fun value =>
        let settled := { wait with parcel := .taken }
        (value, settled, { queue with
          waiting := queue.waiting.eraseIdx position
          woken := queue.woken ++ [settled] })

/-- The search by position always finds an offer in the parcel that it selected, and it is the first
offer in the queue. -/
theorem takeSelected_eq (queue : WaitQueue α) :
    queue.takeSelected = queue.takeFirstOffer.map some := by
  cases extracted : extractFirst (·.parcel.offer?) queue.waiting with
  | none =>
    have nobody : queue.waiting.findIdx? (·.parcel.offer?.isSome) = none := by
      rw [List.findIdx?_eq_none_iff]
      intro wait queued
      rw [extractFirst_eq_none_iff.mp extracted wait queued]
      rfl
    simp only [takeSelected, takeFirstOffer, nobody, extracted, Option.bind_none, Option.map_none]
  | some found =>
    obtain ⟨wait, value, others⟩ := found
    obtain ⟨before, later, split, rfl, offers, refused⟩ := extractFirst_eq_some extracted
    have position : queue.waiting.findIdx? (·.parcel.offer?.isSome) = some before.length := by
      have passed : before.findIdx? (·.parcel.offer?.isSome) = none := by
        rw [List.findIdx?_eq_none_iff]
        intro earlier member
        rw [refused earlier member]
        rfl
      rw [split, List.findIdx?_append, passed]
      simp [List.findIdx?_cons, offers]
    have here : queue.waiting[before.length]? = some wait := by simp [split]
    have removed : queue.waiting.eraseIdx before.length = before ++ later := by
      rw [split, List.eraseIdx_append_of_length_le (Nat.le_refl _)]
      simp
    simp only [takeSelected, takeFirstOffer, position, here, removed, extracted, offers,
      Option.bind_some, Option.map_some]

end WaitQueue

namespace Call

/-- What a resumed call can deal with: a send finds the mark that its offer was taken, or its own
value; a batch send the mark, or its first value; a receiver finds nothing, or a value for it; and a
broadcaster finds nothing. -/
def Resumes : Call α → Parcel α → Prop
  | .send _ value, parcel => parcel = .taken ∨ parcel = .offered value
  | .sendMany _ values, parcel =>
    parcel = .taken ∨ ∃ first, values.head? = some first ∧ parcel = .offered first
  | .receive _, parcel | .receiveMany _ _, parcel =>
    parcel = .empty ∨ ∃ value, parcel = .delivered value
  | .broadcast _, parcel => parcel = .empty

/-- Every call can deal with what it may find. -/
theorem Finds.resumes {call : Call α} {parcel : Parcel α} (finds : call.Finds parcel) :
    call.Resumes parcel := by
  cases finds with
  | taken offers =>
    cases call with
    | send | sendMany => exact .inl rfl
    | receive | receiveMany | broadcast => contradiction
  | offered offers =>
    cases call with
    | send handle value =>
      obtain ⟨rfl, _⟩ := List.cons.inj offers
      exact .inr rfl
    | sendMany handle values =>
      obtain rfl : values = _ := offers
      exact .inr ⟨_, rfl, rfl⟩
    | receive | receiveMany | broadcast => contradiction
  | empty wants =>
    cases call with
    | receive | receiveMany => exact .inl rfl
    | send | sendMany | broadcast => exact absurd rfl wants
  | delivered value wants =>
    cases call with
    | receive | receiveMany => exact .inr ⟨value, rfl⟩
    | send | sendMany | broadcast => exact absurd rfl wants
  | unpinned everywhere =>
    obtain ⟨value, rfl⟩ := eq_broadcast everywhere
    rfl

/-- What a sender left on its wait: nothing if it broadcasts, else the first value that it has to
deliver. -/
theorem Finds.left {call : Call α} {parcel : Parcel α} (finds : call.Finds parcel)
    (sends : call.side = .senders) (unsettled : parcel.isSettled = false) :
    (parcel = .empty ∧ ∃ value, call = .broadcast value) ∨
      ∃ value, call.offers.head? = some value ∧ parcel = .offered value := by
  cases finds with
  | taken | delivered => contradiction
  | empty wants => simp [(side_of_wants wants).1] at sends
  | unpinned everywhere => exact .inl ⟨rfl, eq_broadcast everywhere⟩
  | offered offers => exact .inr ⟨_, by rw [offers]; rfl, rfl⟩

end Call

namespace Session

variable {session : Session α}

/-- The call of this number was started as this one, and it waits with this ticket. -/
def Waits (session : Session α) (id : Nat) (call : Call α) (ticket : Ticket) : Prop :=
  ∃ record suspended, session.calls[id]? = some record ∧ record.call = call ∧
    record.status = .waiting suspended ∧ suspended.ticket = ticket

/-- A call that waits does so as the one that was started. -/
theorem Lawful.waiting?_of_waits (lawful : session.Lawful) {id : Nat} {call : Call α}
    {ticket : Ticket} (waits : session.Waits id call ticket) :
    session.waiting? id = some ⟨call, ticket⟩ := by
  obtain ⟨record, ⟨started, place⟩, here, rfl, status, rfl⟩ := waits
  obtain rfl : started = record.call := (lawful.recorded id record _ here status).call
  simp [waiting?, here, status, Status.suspended?]

/-- A waiting call was started. -/
theorem Lawful.waits_of_waiting? (lawful : session.Lawful) {id : Nat} {suspended : Suspended α}
    (waits : session.waiting? id = some suspended) :
    session.Waits id suspended.call suspended.ticket := by
  obtain ⟨record, here, status⟩ := record_of_waiting? waits
  exact ⟨record, suspended, here, (lawful.recorded id record suspended here status).call.symm,
    status, rfl⟩

/-- Every queued wait is that of a waiting call, which left its parcel. -/
theorem Lawful.owner (lawful : session.Lawful) {channel : Channel α}
    (known : channel ∈ session.bus.known) (side : Side) {wait : Wait α}
    (queued : wait ∈ (channel.queue side).waiting) :
    ∃ id suspended, session.waiting? id = some suspended ∧
      suspended.ticket.address = ⟨channel.generation, side, wait.key⟩ ∧
      session.bus.ticketQueue suspended.ticket = channel.queue side ∧
      suspended.call.side = side ∧ suspended.call.Finds wait.parcel ∧
      wait.parcel.isSettled = false := by
  have sound := lawful.housed.sound
  have orderly := (sound.channels channel known).orderly side
  have lies : session.bus.parcel? ⟨channel.generation, side, wait.key⟩ = some wait.parcel := by
    rw [Bus.parcel?, sound.identity?_eq_some_iff.mpr ⟨known, rfl⟩]
    exact orderly.keyed.parcel?_of_mem (List.mem_append_left _ queued)
  obtain ⟨id, suspended, waits, same⟩ := lawful.housed.owned _ _ lies
  have houses := lawful.housed.houses id suspended waits
  obtain ⟨parcel, held, finds⟩ := houses.parcel
  rw [same, lies] at held
  obtain rfl := Option.some.inj held
  have place : suspended.ticket.side = side := congrArg Address.side same
  have generation : suspended.ticket.generation = channel.generation :=
    congrArg Address.generation same
  obtain ⟨reached, _, named, _, queueHere⟩ := houses.ticketed sound
  rw [generation, sound.identity?_eq_some_iff.mpr ⟨known, rfl⟩] at named
  obtain rfl : channel = reached := Option.some.inj named
  exact ⟨id, suspended, waits, same, place ▸ queueHere, houses.side.symm.trans place, finds,
    Side.isSettled_of_mayQueue (orderly.queued wait queued)⟩

/-- A queued receiver has an empty parcel. -/
theorem Lawful.empty_of_receiver (lawful : session.Lawful) {channel : Channel α}
    (known : channel ∈ session.bus.known) {wait : Wait α}
    (queued : wait ∈ channel.receivers.waiting) : wait.parcel = .empty := by
  have sound := lawful.housed.sound.channels channel known
  have allowed := (sound.orderly .receivers).queued wait queued
  cases parcel : wait.parcel <;> simp_all [Side.mayQueue]

/-- What a call finds when it is resumed is what it may find. -/
theorem Lawful.finds_of_resumed (lawful : session.Lawful) {id : Nat} {suspended : Suspended α}
    (waits : session.waiting? id = some suspended) {parcel : Parcel α}
    (found : (session.bus.ticketQueue suspended.ticket).found? suspended.ticket.key = some parcel) :
    suspended.call.Finds parcel := by
  have houses := lawful.housed.houses id suspended waits
  obtain ⟨held, lies, finds⟩ := houses.parcel
  have here := (houses.parcel?_ticketQueue lawful.housed.sound).trans lies
  have dequeued :
      (session.bus.ticketQueue suspended.ticket).holds suspended.ticket.key = false := by
    cases queued : (session.bus.ticketQueue suspended.ticket).holds suspended.ticket.key with
    | true => simp [WaitQueue.found?, queued] at found
    | false => rfl
  rw [(WaitQueue.found?_of_parcel? here dequeued).1] at found
  exact Option.some.inj found ▸ finds

/-- Whatever was done to a bus, every queued receiver has an empty parcel, and every queued sender
belongs to one waiting call: a broadcast, exactly if the parcel is empty, or else a call that has
first to deliver the value on offer. So a resumed call finds nothing but what it can deal with, no
value is left behind, and a parcel that is selected for its offer holds one. -/
theorem parcels_disciplined [Stored α] (config : Config) (moves : List (Move α)) :
    let session := (new config : Session α).run moves
    (∀ channel ∈ session.bus.known, ∀ wait ∈ channel.receivers.waiting, wait.parcel = .empty) ∧
    (∀ channel ∈ session.bus.known, ∀ wait ∈ channel.senders.waiting, ∃ id call ticket,
      session.Waits id call ticket ∧ ticket.address = ⟨channel.generation, .senders, wait.key⟩ ∧
      (∀ other another elsewhere, session.Waits other another elsewhere →
        elsewhere.address = ticket.address → other = id) ∧
      (wait.parcel = .empty ↔ ∃ value, call = .broadcast value) ∧
      (wait.parcel = .empty ∨
        ∃ value, call.offers.head? = some value ∧ wait.parcel = .offered value)) ∧
    (∀ id call ticket parcel, session.Waits id call ticket →
      (session.bus.ticketQueue ticket).found? ticket.key = some parcel → call.Resumes parcel) ∧
    ∀ queue : WaitQueue α, queue.takeSelected = queue.takeFirstOffer.map some := by
  intro session
  have lawful : session.Lawful := (lawful_new config).run moves
  refine ⟨fun channel known wait => lawful.empty_of_receiver known,
    fun channel known wait queued => ?_, fun id call ticket parcel waits found => ?_,
    WaitQueue.takeSelected_eq⟩
  · obtain ⟨id, suspended, waits, same, _, sends, finds, unsettled⟩ :=
      lawful.owner known .senders queued
    refine ⟨id, _, _, lawful.waits_of_waiting? waits, same, fun other another elsewhere waitsToo
      there => ?_, ?_⟩
    · exact lawful.housed.apart other id _ suspended (lawful.waiting?_of_waits waitsToo) waits there
    · rcases finds.left sends unsettled with ⟨empty, broadcasts⟩ | ⟨value, first, offered⟩
      · exact ⟨⟨fun _ => broadcasts, fun _ => empty⟩, .inl empty⟩
      · refine ⟨⟨fun empty => ?_, fun ⟨other, broadcasts⟩ => ?_⟩, .inr ⟨value, first, offered⟩⟩
        · rw [offered] at empty
          contradiction
        · rw [broadcasts] at first
          contradiction
  · have waiting := lawful.waiting?_of_waits waits
    exact (lawful.finds_of_resumed waiting found).resumes

/-- A broadcaster and a sender wait for a rendezvous, and a receiver takes the offer of the sender.
The empty parcel that is still queued is that of the broadcast, and the send finds its offer
taken. -/
theorem parcels_disciplined_of_taken :
    let session := (new {} : Session UInt32).run
      [.request (.openChannel 0), .start (.broadcast 5) 1, .start (.send ⟨0⟩ 6) 2,
        .start (.receive ⟨0⟩) 3]
    let ticket : Ticket := ⟨⟨0⟩, 0, .senders, 1⟩
    session.Waits 1 (.send ⟨0⟩ 6) ticket ∧
      (session.bus.ticketQueue ticket).found? ticket.key = some .taken ∧
      (Call.send ⟨0⟩ (6 : UInt32)).Resumes .taken ∧
      ∃ channel ∈ session.bus.known, ∃ wait ∈ channel.senders.waiting, wait.parcel = .empty ∧
        ∃ id call ticket, session.Waits id call ticket ∧
          ticket.address = ⟨channel.generation, .senders, wait.key⟩ ∧
          ∃ value, call = .broadcast value := by
  intro session ticket
  obtain ⟨_, owned, resumes, _⟩ := parcels_disciplined (α := UInt32) {}
    [.request (.openChannel 0), .start (.broadcast 5) 1, .start (.send ⟨0⟩ 6) 2,
      .start (.receive ⟨0⟩) 3]
  have waits : session.Waits 1 (.send ⟨0⟩ 6) ticket := ⟨_, _, rfl, rfl, rfl, rfl⟩
  have found : (session.bus.ticketQueue ticket).found? ticket.key = some .taken := rfl
  refine ⟨waits, found, resumes 1 _ ticket .taken waits found, ?_⟩
  refine ⟨_, List.mem_cons_self, ⟨0, some 1, .empty⟩, List.mem_cons_self, rfl, ?_⟩
  obtain ⟨id, call, place, here, same, _, broadcasts, _⟩ :=
    owned _ List.mem_cons_self ⟨0, some 1, .empty⟩ List.mem_cons_self
  exact ⟨id, call, place, here, same, broadcasts.mp rfl⟩

end Session

end ChannelBus
