import ChannelBus.Proofs.Pairing
import ChannelBus.Proofs.Payments

/-!
# What every move pays for

A value that goes through the parcel of a waiting call is counted on the side of the call that
arrives, so the bill of a move tells how often an arriving call met a partner. Together with the
waits that a drop takes out of their queues and the values that a closing loses, that is all that a
bill holds beyond the counters: `Session.Lawful.bills` says so of every move of a session.
-/

namespace ChannelBus

open scoped List

variable {α : Type}

/-- A bill that lists the transfers of an arriving call, each on the side of that call. -/
structure Bill.Shows (bill : Bill) (transfers : List (Transfer α)) (caller : Nat) : Prop where
  /-- Values given to waiting receivers. -/
  given : bill.given = transfers.countP fun transfer => transfer.party .senders = caller
  /-- Values taken from waiting senders. -/
  taken : bill.taken = transfers.countP fun transfer => transfer.party .receivers = caller

/-- A bill without transfers. -/
theorem Bill.shows_nothing {bill : Bill} (nobody : bill.given = 0 ∧ bill.taken = 0) (caller : Nat) :
    bill.Shows ([] : List (Transfer α)) caller :=
  ⟨nobody.1, nobody.2⟩

namespace Channel

/-- A call that moves values without waiting meets nobody. -/
theorem Moves.meets_nobody {channel after : Channel α} {call : Call α} {reply : Reply α}
    (moves : channel.Moves call reply after) :
    (channel.bill call).given = 0 ∧ (channel.bill call).taken = 0 := by
  cases moves with
  | sentNothing sender nothing =>
    have noWants : call.wants = 0 := by cases call <;> first | rfl | contradiction
    rw [bill_of_idle nothing noWants]
    exact ⟨rfl, rfl⟩
  | tookNothing receiver nothing =>
    have noOffers : call.offers = [] := by cases call <;> first | rfl | contradiction
    rw [bill_of_idle noOffers nothing]
    exact ⟨rfl, rfl⟩
  | accepted given spare =>
    rw [bill_of_accepted given spare]
    exact ⟨rfl, rfl⟩
  | released first rest held =>
    rw [bill_of_released held]
    exact ⟨rfl, rfl⟩

end Channel

namespace Bus

section Meeting

variable {bus after : Bus α} {waiting : Nat → Option (Suspended α)} {bound caller : Nat}

/-- The call that is tried is on one side of a transfer only. -/
theorem party_opposite_of_caller (idle : waiting caller = none) {transfer : Transfer α}
    (member : transfer ∈ bus.transfersTo after waiting bound caller) {side : Side}
    (arrives : transfer.party side = caller) : transfer.party side.opposite ≠ caller := by
  obtain ⟨waiter, _, found⟩ := mem_transfersTo.mp member
  obtain ⟨suspended, value, waits, _, rfl⟩ := transfer?_eq_some_iff.mp found
  have apart : waiter ≠ caller := by
    rintro rfl
    rw [idle] at waits
    contradiction
  rcases suspended.ticket.party_cases waiter caller value side with ⟨_, party⟩ | ⟨there, _⟩
  · exact absurd (party.symm.trans arrives) apart
  · have party := suspended.ticket.party_transfer waiter caller value
    rw [there] at party
    rw [party]
    exact apart

/-- One value that passes is one transfer, on the side of the call that is tried. -/
theorem Housed.countP_of_through (housed : bus.Housed waiting) (idle : waiting caller = none)
    (within : ∀ waiter suspended, waiting waiter = some suspended → waiter < bound) (side : Side)
    {generation key : Nat} {value : α} (passed : ∀ other, bus.passed? after other =
      if other = ⟨generation, side.opposite, key⟩ then some value else none) :
    ((bus.transfersTo after waiting bound caller).countP (·.party side = caller)) = 1 ∧
      ((bus.transfersTo after waiting bound caller).countP (·.party side.opposite = caller)) =
        0 := by
  obtain ⟨waiter, suspended, _, place, transfers⟩ :=
    housed.transfersTo_of_through caller within passed
  have party := suspended.ticket.party_transfer_opposite waiter caller value
  rw [show suspended.ticket.side = side.opposite from congrArg Address.side place,
    side.opposite_opposite] at party
  have apart := party_opposite_of_caller idle (transfers ▸ List.mem_singleton_self _) party
  rw [transfers]
  simp [party, apart]

/-- The full channels are those that a filter finds. -/
theorem fullChannels_eq (bus : Bus α) :
    bus.fullChannels = (bus.openChannels.filter fun entry => entry.2.isFull).length := by
  rw [fullChannels, total]
  induction bus.openChannels with
  | nil => rfl
  | cons entry rest ih =>
    rw [List.map_cons, List.sum_cons, ih, List.filter_cons]
    cases full : entry.2.isFull with
    | true => simp [full, Nat.add_comm]
    | false => simp [full]

/-- The generations of the open channels are distinct. -/
theorem Sound.nodup_openChannels (sound : bus.Sound) :
    (bus.openChannels.map fun entry => entry.2.generation).Nodup := by
  have open_ : (bus.openChannels.map fun entry => entry.2.generation) =
      (bus.slots.filterMap id).map (·.generation) := by
    rw [← map_openChannels, List.map_map]
    rfl
  have distinct := sound.distinct
  rw [known, List.map_append] at distinct
  rw [open_]
  exact (List.nodup_append.mp distinct).1

/-- The copies of a broadcast are as many transfers as there are full channels, all of them given by
the broadcaster. -/
theorem Housed.countP_of_copies (housed : bus.Housed waiting) (idle : waiting caller = none)
    (within : ∀ waiter suspended, waiting waiter = some suspended → waiter < bound) {value : α}
    (ready : ∀ handle channel, bus.channel? handle = some channel → channel.canAccept = true)
    (copied : bus.Copies after value) :
    ((bus.transfersTo after waiting bound caller).countP (·.party .senders = caller)) =
        bus.fullChannels ∧
      ((bus.transfersTo after waiting bound caller).countP (·.party .receivers = caller)) = 0 := by
  obtain ⟨each, distinct, all⟩ := housed.transfersTo_of_copies caller within copied
  have senders : ∀ transfer ∈ bus.transfersTo after waiting bound caller,
      transfer.party .senders = caller := fun transfer member => (each transfer member).2.1
  have opened : ∀ transfer ∈ bus.transfersTo after waiting bound caller,
      bus.isOpenAs transfer.generation = true := by
    intro transfer member
    obtain ⟨waiter, _, found⟩ := mem_transfersTo.mp member
    obtain ⟨suspended, given, _, passed, rfl⟩ := transfer?_eq_some_iff.mp found
    rw [Ticket.generation_transfer]
    exact (copied.place passed).2.2.1
  refine ⟨?_, List.countP_eq_zero.mpr fun transfer member => ?_⟩
  · have meets : ∀ channel handle, bus.channel? handle = some channel →
        (channel.isFull = true ↔ bus.Meets channel.generation) := by
      intro channel handle here
      rw [housed.sound.meets_iff here]
      have accepts := ready handle channel here
      cases rendezvous : channel.isRendezvous with
      | true =>
        have zero : channel.capacity = 0 := by simpa [Channel.isRendezvous] using rendezvous
        simp [Channel.isFull, zero]
      | false => simpa [Channel.canAccept, rendezvous] using accepts
    have same : (bus.transfersTo after waiting bound caller).map (·.generation) ~
        (bus.openChannels.filter fun entry => entry.2.isFull).map (·.2.generation) := by
      refine (List.perm_ext_iff_of_nodup distinct (housed.sound.nodup_openChannels.sublist
        (List.filter_sublist.map _))).mpr fun generation => ?_
      simp only [List.mem_map, List.mem_filter, Prod.exists, mem_openChannels]
      constructor
      · rintro ⟨transfer, member, rfl⟩
        obtain ⟨_, _, met⟩ := each transfer member
        obtain ⟨handle, channel, here, same⟩ := isOpenAs_iff.mp (opened transfer member)
        exact ⟨handle, channel, ⟨here, (meets channel handle here).mpr (same ▸ met)⟩, same⟩
      · rintro ⟨handle, channel, ⟨here, full⟩, rfl⟩
        exact all channel.generation (isOpenAs_iff.mpr ⟨handle, channel, here, rfl⟩)
          ((meets channel handle here).mp full)
    rw [List.countP_eq_length.mpr (by simpa using senders), fullChannels_eq]
    simpa using same.length_eq
  · have apart := party_opposite_of_caller idle member (senders transfer member)
    simpa [Side.opposite] using apart

/-! ## Tries -/

/-- The bill of a call shows the transfer in which a try of it took part by arriving. -/
theorem Attempted.shows {handle : Handle} {channel : Channel α} {waker : TaskId} {call : Call α}
    {outcome : Outcome α (Progress α)}
    (attempted : bus.Attempted handle channel waker call outcome) (housed : bus.Housed waiting)
    (idle : waiting caller = none)
    (within : ∀ waiter suspended, waiting waiter = some suspended → waiter < bound)
    (here : bus.channel? handle = some channel) :
    (channel.bill call).Shows (bus.transfersTo outcome.bus waiting bound caller) caller := by
  obtain ⟨reply?, new, tried, billed, _⟩ := attempted
  have becomes := billed.becomes
  have sound := housed.sound
  have channelSound := sound.of_channel? here
  obtain ⟨_, same, _⟩ := tried.keeps channelSound
  have quiet : (∀ address, bus.passed? outcome.bus address = none) →
      bus.transfersTo outcome.bus waiting bound caller = [] :=
    fun silent => transfersTo_of_quiet fun _ suspended _ => silent suspended.ticket.address
  have parks : reply? = none → bus.transfersTo outcome.bus waiting bound caller = [] := by
    rintro rfl
    obtain ⟨parcel, _, _, board⟩ := tried.parks channelSound
    exact quiet (becomes.quiet_of_parks sound here same board).1
  cases tried with
  | moved moves =>
    obtain ⟨_, _, _, board⟩ := moves.keeps channelSound
    rw [quiet fun address => passed?_of_same (becomes.sameBoard sound here same board _)]
    exact Bill.shows_nothing moves.meets_nobody caller
  | offering stuck offered nobody =>
    rw [parks rfl, Channel.bill_of_offering stuck offered nobody]
    exact Bill.shows_nothing ⟨rfl, rfl⟩ caller
  | awaiting stuck wanted nothing =>
    rw [parks rfl, Channel.bill_of_awaiting stuck wanted nothing]
    exact Bill.shows_nothing ⟨rfl, rfl⟩ caller
  | handedOff stuck offered handed =>
    obtain ⟨key, passes⟩ := channelSound.passes_handOff handed
    have passed := (becomes.passes sound here same passes).passed?
    obtain ⟨one, none⟩ := housed.countP_of_through idle within .senders passed
    rw [Channel.bill_of_handedOff stuck offered handed]
    exact ⟨one.symm, none.symm⟩
  | tookOffer stuck wanted taken =>
    obtain ⟨key, passes⟩ := channelSound.passes_takeOffer taken
    have passed := (becomes.passes sound here same passes).passed?
    obtain ⟨one, none⟩ := housed.countP_of_through idle within .receivers passed
    rw [Channel.bill_of_tookOffer stuck wanted taken]
    exact ⟨none.symm, one.symm⟩

/-- A try of a broadcast pays for all that it does, and its bill shows the copies that it gave to
waiting receivers. -/
theorem BroadcastTried.pays {value : α} {previous : Option (Handle × Nat)} {waker : TaskId}
    {progress : Progress α} (tried : bus.BroadcastTried value previous waker progress after)
    (housed : bus.Housed waiting) (idle : waiting caller = none)
    (within : ∀ waiter suspended, waiting waiter = some suspended → waiter < bound) :
    ∃ bill : Bill, bus.Pays after bill ∧ bill.OfTry ∧
      bill.Shows (bus.transfersTo after waiting bound caller) caller := by
  have passed := tried.passed housed.sound none
  cases tried with
  | sent ready something =>
    obtain ⟨accepted, woken, gives⟩ := bus.pays_giveAll value
    obtain ⟨next, settles⟩ := (bus.giveAll value).bus.pays_settleWakeup previous none
    refine ⟨_, gives.trans settles, ⟨⟨rfl, rfl⟩, rfl, rfl⟩, ?_⟩
    obtain ⟨copies, nobody⟩ :=
      housed.countP_of_copies idle within ready (passed.copies_of_sent rfl)
    exact ⟨copies.symm, nobody.symm⟩
  | noChannel nothing =>
    refine ⟨_, bus.pays_countError .noChannel, ⟨⟨rfl, rfl⟩, rfl, rfl⟩, ?_⟩
    rw [transfersTo_of_quiet fun _ _ _ => passed?_of_same (parcel?_note _ _ _)]
    exact Bill.shows_nothing ⟨rfl, rfl⟩ caller
  | @stalled handle channel middle _ here unready settled still billed =>
    subst settled
    obtain ⟨woken, settles⟩ :=
      bus.pays_settleWakeup previous (some (.refused handle channel.generation))
    have parks := billed.pays still
      ⟨channel.queued_park .senders .empty (some waker), by simp [Channel.length], rfl, rfl⟩
    refine ⟨_, settles.trans parks, ⟨⟨rfl, rfl⟩, rfl, rfl⟩, ?_⟩
    cases passed with
    | nothing quiet =>
      rw [transfersTo_of_quiet fun _ suspended _ => quiet suspended.ticket.address]
      exact Bill.shows_nothing ⟨rfl, rfl⟩ caller

/-- One try of a call pays for all that it does, and its bill shows the transfers in which the call
took part by arriving. -/
theorem Acts.pays {waker : TaskId} {call : Call α} {pin : Option Nat}
    {previous : Option (Handle × Nat)} {progress : Progress α}
    (acts : bus.Acts waker call pin previous progress after) (housed : bus.Housed waiting)
    (idle : waiting caller = none)
    (within : ∀ waiter suspended, waiting waiter = some suspended → waiter < bound) :
    ∃ bill : Bill, bus.Pays after bill ∧ bill.OfTry ∧
      bill.Shows (bus.transfersTo after waiting bound caller) caller := by
  cases acts with
  | failed error gone =>
    refine ⟨_, bus.pays_countError error, by cases error <;> exact ⟨⟨rfl, rfl⟩, rfl, rfl⟩, ?_⟩
    rw [transfersTo_of_quiet fun _ _ _ => passed?_of_same (parcel?_note _ _ _)]
    exact Bill.shows_nothing (by cases error <;> exact ⟨rfl, rfl⟩) caller
  | attempted named here pinned attempted =>
    have fits := (housed.sound.of_channel? here).fits_bill call
    exact ⟨_, attempted.pays here, fits.toOfTry, attempted.shows housed idle within here⟩
  | broadcast everywhere tried => exact tried.pays housed idle within

end Meeting

end Bus

end ChannelBus
