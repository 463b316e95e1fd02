import ChannelBus.Proofs.Transfers

/-!
# Transfers and accounts

Whenever a value goes through the parcel of a waiting call, that is a transfer between that call and
the one that is tried at that move. A call has a share in the transfers: `Bus.Accounts` says what
the reply of the call, or the parcel on which it waits, has to do with that share.
-/

namespace ChannelBus

variable {α : Type}

/-- One value that went from one call to another. -/
structure Transfer (α : Type) where
  /-- The generation of the channel on which the two calls met. -/
  generation : Nat
  /-- The value. -/
  value : α
  /-- The call that gave the value. -/
  sender : Nat
  /-- The call that got the value. -/
  receiver : Nat

/-- The call on one side of a transfer. -/
def Transfer.party (transfer : Transfer α) : Side → Nat
  | .senders => transfer.sender
  | .receivers => transfer.receiver

/-- The transfer between a call that waits with this ticket and one that is tried. -/
def Ticket.transfer (ticket : Ticket) (waiter caller : Nat) (value : α) : Transfer α :=
  match ticket.side with
  | .senders => ⟨ticket.generation, value, waiter, caller⟩
  | .receivers => ⟨ticket.generation, value, caller, waiter⟩

namespace Bus

/-- The transfer between two states of a bus in which a call took part by waiting, while another one
was tried. -/
def transfer? (bus after : Bus α) (waiting : Nat → Option (Suspended α)) (caller waiter : Nat) :
    Option (Transfer α) :=
  (waiting waiter).bind fun suspended =>
    (bus.passed? after suspended.ticket.address).map (suspended.ticket.transfer waiter caller)

/-- All such transfers of the calls up to a number. -/
def transfersTo (bus after : Bus α) (waiting : Nat → Option (Suspended α)) (bound caller : Nat) :
    List (Transfer α) :=
  (List.range bound).filterMap (bus.transfer? after waiting caller)

end Bus

/-! ## The transfers of one move -/

section Parties

variable (ticket : Ticket) (waiter caller : Nat) (value : α)

/-- The call that waited is on the side on which it waited. -/
@[simp] theorem Ticket.party_transfer :
    (ticket.transfer waiter caller value).party ticket.side = waiter := by
  unfold Ticket.transfer
  cases ticket.side <;> rfl

/-- The call that was tried is on the other side. -/
@[simp] theorem Ticket.party_transfer_opposite :
    (ticket.transfer waiter caller value).party ticket.side.opposite = caller := by
  unfold Ticket.transfer
  cases ticket.side <;> rfl

/-- The two met on the channel of the ticket. -/
@[simp] theorem Ticket.generation_transfer :
    (ticket.transfer waiter caller value).generation = ticket.generation := by
  unfold Ticket.transfer
  cases ticket.side <;> rfl

/-- The value is the one that went through. -/
@[simp] theorem Ticket.value_transfer : (ticket.transfer waiter caller value).value = value := by
  unfold Ticket.transfer
  cases ticket.side <;> rfl

end Parties

/-- No call is on a side of a transfer but the one that waited and the one that was tried. -/
theorem Ticket.party_cases (ticket : Ticket) (waiter caller : Nat) (value : α) (side : Side) :
    (ticket.side = side ∧ (ticket.transfer waiter caller value).party side = waiter) ∨
      (ticket.side = side.opposite ∧
        (ticket.transfer waiter caller value).party side = caller) := by
  unfold Ticket.transfer
  cases ticket.side <;> cases side <;> simp [Transfer.party, Side.opposite]

/-- A list of what was found under distinct numbers, if something was found under one only. -/
theorem filterMap_range_of_unique {β : Type} {find : Nat → Option β} {bound number : Nat}
    (within : number < bound) (others : ∀ other, other ≠ number → find other = none) :
    (List.range bound).filterMap find = (find number).toList := by
  obtain ⟨before, after, split⟩ := List.append_of_mem (List.mem_range.mpr within)
  have distinct := List.perm_middle.nodup_iff.mp (split ▸ List.nodup_range)
  rw [List.nodup_cons] at distinct
  have nothing : ∀ numbers, numbers ⊆ before ++ after → numbers.filterMap find = [] := by
    intro numbers inside
    refine List.filterMap_eq_nil_iff.mpr fun other member => others other ?_
    rintro rfl
    exact distinct.1 (inside member)
  rw [split, List.filterMap_append, List.filterMap_cons,
    nothing before (List.subset_append_left _ _), nothing after (List.subset_append_right _ _)]
  cases find number <;> rfl

namespace Bus

section Transferring

variable {bus after : Bus α} {waiting : Nat → Option (Suspended α)} {bound caller : Nat}

/-- A transfer is one of a call that waited and through whose parcel a value went. -/
theorem transfer?_eq_some_iff {waiter : Nat} {transfer : Transfer α} :
    bus.transfer? after waiting caller waiter = some transfer ↔
      ∃ suspended value, waiting waiter = some suspended ∧
        bus.passed? after suspended.ticket.address = some value ∧
        suspended.ticket.transfer waiter caller value = transfer := by
  simp only [transfer?, Option.bind_eq_some_iff, Option.map_eq_some_iff]
  constructor
  · rintro ⟨suspended, waits, value, passed, same⟩
    exact ⟨suspended, value, waits, passed, same⟩
  · rintro ⟨suspended, value, waits, passed, same⟩
    exact ⟨suspended, waits, value, passed, same⟩

/-- Nothing went through the parcel of a call that waited and took part in no transfer. -/
theorem passed?_of_transfer? {waiter : Nat} {suspended : Suspended α}
    (waits : waiting waiter = some suspended)
    (nothing : bus.transfer? after waiting caller waiter = none) :
    bus.passed? after suspended.ticket.address = none := by
  rw [transfer?, waits] at nothing
  exact Option.map_eq_none_iff.mp nothing

/-- The same transfers are found in a list. -/
theorem mem_transfersTo {transfer : Transfer α} :
    transfer ∈ bus.transfersTo after waiting bound caller ↔ ∃ waiter < bound,
      bus.transfer? after waiting caller waiter = some transfer := by
  simp only [transfersTo, List.mem_filterMap, List.mem_range]

/-- There are no transfers if nothing passes. -/
theorem transfersTo_of_quiet (quiet : ∀ waiter suspended, waiting waiter = some suspended →
    bus.passed? after suspended.ticket.address = none) :
    bus.transfersTo after waiting bound caller = [] := by
  refine List.filterMap_eq_nil_iff.mpr fun waiter _ => ?_
  refine Option.eq_none_iff_forall_not_mem.mpr fun transfer found => ?_
  obtain ⟨suspended, value, waits, passed, _⟩ := transfer?_eq_some_iff.mp found
  exact absurd ((quiet waiter suspended waits).symm.trans passed) (by simp)

/-- The transfers do not depend on parcels of calls that do not wait. -/
theorem transfersTo_congr {middle : Bus α} (same : ∀ waiter suspended,
      waiting waiter = some suspended →
      middle.parcel? suspended.ticket.address = bus.parcel? suspended.ticket.address) :
    bus.transfersTo after waiting bound caller = middle.transfersTo after waiting bound caller := by
  unfold transfersTo
  congr 1
  funext waiter
  unfold transfer?
  cases waits : waiting waiter with
  | none => rfl
  | some suspended => simp only [Option.bind_some, passed?, same waiter suspended waits]

/-- The parcel of a waiting call is the same after a try, unless a value went through. -/
theorem Housed.kept (housed : bus.Housed waiting) {call : Call α}
    {suspended? : Option (Suspended α)} (tries : bus.Tries after call suspended?) {waiter : Nat}
    {suspended : Suspended α} (waits : waiting waiter = some suspended)
    (silent : bus.passed? after suspended.ticket.address = none) :
    after.parcel? suspended.ticket.address = bus.parcel? suspended.ticket.address := by
  refine tries.kept _ silent fun parked parks same => ?_
  obtain ⟨parcel, held, _⟩ := (housed.houses waiter suspended waits).parcel
  have absent := (tries.parked parked parks).2.2
  rw [same, held] at absent
  contradiction

/-- The share that a call other than the one that is tried has in the transfers. -/
theorem filter_transfersTo {waiter : Nat} {side : Side} (within : waiter < bound)
    (apart : caller ≠ waiter)
    (sided : ∀ suspended, waiting waiter = some suspended → suspended.ticket.side = side) :
    (bus.transfersTo after waiting bound caller).filter (·.party side = waiter) =
      (bus.transfer? after waiting caller waiter).toList := by
  rw [transfersTo, List.filter_filterMap, filterMap_range_of_unique within]
  · cases found : bus.transfer? after waiting caller waiter with
    | none => rfl
    | some transfer =>
      obtain ⟨suspended, value, waits, _, rfl⟩ := transfer?_eq_some_iff.mp found
      have here := suspended.ticket.party_transfer waiter caller value
      rw [sided suspended waits] at here
      simp [here]
  · intro other elsewhere
    refine Option.eq_none_iff_forall_not_mem.mpr fun transfer found => ?_
    obtain ⟨there, party⟩ := Option.filter_eq_some_iff.mp found
    obtain ⟨suspended, value, _, _, rfl⟩ := transfer?_eq_some_iff.mp there
    rw [decide_eq_true_eq] at party
    rcases suspended.ticket.party_cases other caller value side with ⟨_, same⟩ | ⟨_, same⟩
    · exact elsewhere (same.symm.trans party)
    · exact apart (same.symm.trans party)

/-- A call other than the one that is tried has no share on the other side. -/
theorem party_opposite_ne {waiter : Nat} {side : Side} (apart : caller ≠ waiter)
    (sided : ∀ suspended, waiting waiter = some suspended → suspended.ticket.side = side)
    {transfer : Transfer α} (member : transfer ∈ bus.transfersTo after waiting bound caller) :
    transfer.party side.opposite ≠ waiter := by
  obtain ⟨other, _, found⟩ := mem_transfersTo.mp member
  obtain ⟨suspended, value, waits, _, rfl⟩ := transfer?_eq_some_iff.mp found
  intro party
  rcases suspended.ticket.party_cases other caller value side.opposite with
    ⟨there, same⟩ | ⟨_, same⟩
  · obtain rfl : other = waiter := same.symm.trans party
    exact side.opposite_ne (there.symm.trans (sided suspended waits))
  · exact apart (same.symm.trans party)

/-- If one value passes, that is one transfer. -/
theorem Housed.transfersTo_of_through (housed : bus.Housed waiting) (caller : Nat)
    (within : ∀ waiter suspended, waiting waiter = some suspended → waiter < bound)
    {address : Address} {value : α} (passed : ∀ other, bus.passed? after other =
      if other = address then some value else none) :
    ∃ waiter suspended, waiting waiter = some suspended ∧ suspended.ticket.address = address ∧
      bus.transfersTo after waiting bound caller =
        [suspended.ticket.transfer waiter caller value] := by
  have here : bus.passed? after address = some value := by rw [passed, if_pos rfl]
  obtain ⟨before, _, held, _, _⟩ := passed?_eq_some_iff.mp here
  obtain ⟨waiter, suspended, waits, same⟩ := housed.owned address before held
  have found : bus.transfer? after waiting caller waiter =
      some (suspended.ticket.transfer waiter caller value) :=
    transfer?_eq_some_iff.mpr ⟨suspended, value, waits, by rw [same, here], rfl⟩
  refine ⟨waiter, suspended, waits, same, ?_⟩
  rw [transfersTo, filterMap_range_of_unique (within waiter suspended waits), found]
  · rfl
  · intro other elsewhere
    refine Option.eq_none_iff_forall_not_mem.mpr fun transfer foundToo => ?_
    obtain ⟨another, given, waitsToo, passedToo, _⟩ := transfer?_eq_some_iff.mp foundToo
    rw [passed] at passedToo
    split at passedToo
    case isTrue equal =>
      exact elsewhere (housed.apart other waiter another suspended waitsToo waits
        (equal.trans same.symm))
    case isFalse => contradiction

/-- Where a copy passes. -/
theorem Copies.place {value passedValue : α} {generation number : Nat} {side : Side}
    (copied : bus.Copies after value)
    (passed : bus.passed? after ⟨generation, side, number⟩ = some passedValue) :
    passedValue = value ∧ side = .receivers ∧ bus.isOpenAs generation = true ∧
      bus.Meets generation := by
  by_cases here : bus.isOpenAs generation = true ∧ bus.Meets generation
  · obtain ⟨opened, meets⟩ := here
    obtain ⟨key, met⟩ := copied.met generation opened meets
    rw [met] at passed
    split at passed
    case isTrue place => exact ⟨(Option.some.inj passed).symm, place.1, opened, meets⟩
    case isFalse => contradiction
  · exact absurd ((copied.quiet ⟨generation, side, number⟩ here).symm.trans passed) (by simp)

/-- On one channel a copy passes at one place only. -/
theorem Copies.place_unique {value first second : α} {generation number other : Nat}
    {side otherSide : Side} (copied : bus.Copies after value)
    (here : bus.passed? after ⟨generation, side, number⟩ = some first)
    (there : bus.passed? after ⟨generation, otherSide, other⟩ = some second) : number = other := by
  obtain ⟨_, _, opened, meets⟩ := copied.place here
  obtain ⟨key, met⟩ := copied.met generation opened meets
  have places : ∀ side number given, bus.passed? after ⟨generation, side, number⟩ = some given →
      number = key := by
    intro side number given passed
    rw [met] at passed
    split at passed
    case isTrue place => exact place.2
    case isFalse => contradiction
  exact (places _ _ _ here).trans (places _ _ _ there).symm

/-- The copies of a broadcast are transfers of its value by the broadcaster on rendezvous channels,
one for each that is open. -/
theorem Housed.transfersTo_of_copies (housed : bus.Housed waiting) (caller : Nat)
    (within : ∀ waiter suspended, waiting waiter = some suspended → waiter < bound) {value : α}
    (copied : bus.Copies after value) :
    (∀ transfer ∈ bus.transfersTo after waiting bound caller, transfer.value = value ∧
      transfer.sender = caller ∧ bus.Meets transfer.generation) ∧
    ((bus.transfersTo after waiting bound caller).map (·.generation)).Nodup ∧
    (∀ generation, bus.isOpenAs generation = true → bus.Meets generation →
      ∃ transfer ∈ bus.transfersTo after waiting bound caller,
        transfer.generation = generation) := by
  refine ⟨fun transfer member => ?_, ?_, fun generation opened meets => ?_⟩
  · obtain ⟨waiter, _, found⟩ := mem_transfersTo.mp member
    obtain ⟨suspended, given, waits, passed, rfl⟩ := transfer?_eq_some_iff.mp found
    obtain ⟨rfl, side, _, meets⟩ := copied.place passed
    have party := suspended.ticket.party_transfer_opposite waiter caller given
    have sided : suspended.ticket.side = .receivers := side
    rw [sided] at party
    exact ⟨by simp, party, by simpa using meets⟩
  · rw [List.Nodup, List.pairwise_map, transfersTo, List.pairwise_filterMap]
    refine List.nodup_range.imp fun distinct first found second foundToo same => ?_
    obtain ⟨suspended, given, waits, passed, rfl⟩ := transfer?_eq_some_iff.mp found
    obtain ⟨another, givenToo, waitsToo, passedToo, rfl⟩ := transfer?_eq_some_iff.mp foundToo
    simp only [Ticket.generation_transfer] at same
    have side := (copied.place passed).2.1
    have sideToo := (copied.place passedToo).2.1
    have key : suspended.ticket.key = another.ticket.key := by
      rw [Ticket.address, same] at passed
      exact copied.place_unique passed passedToo
    refine distinct (housed.apart _ _ suspended another waits waitsToo ?_)
    rw [Ticket.address, Ticket.address, same, key, side, sideToo]
  · obtain ⟨key, met⟩ := copied.met generation opened meets
    have passed := met .receivers key
    rw [if_pos ⟨rfl, rfl⟩] at passed
    obtain ⟨before, _, held, _, _⟩ := passed?_eq_some_iff.mp passed
    obtain ⟨waiter, suspended, waits, same⟩ := housed.owned _ before held
    refine ⟨suspended.ticket.transfer waiter caller value,
      mem_transfersTo.mpr ⟨waiter, within waiter suspended waits, ?_⟩, ?_⟩
    · exact transfer?_eq_some_iff.mpr ⟨suspended, value, waits, by rw [same, passed], rfl⟩
    · rw [Ticket.generation_transfer]
      exact congrArg Address.generation same

end Transferring

end Bus

/-! ## The accounts of one call -/

namespace Bus

/-- What a call has to show for its share in the transfers. -/
inductive Accounts (bus : Bus α) (record : Record α) : List (Transfer α) → Prop where
  /-- It took part in none, so if it has succeeded then not by a transfer. -/
  | nothing (refused : ∀ reply, bus.verdict? record.status = some reply →
      bus.Refuses record.call record.pinned reply) : Accounts bus record []
  /-- It took part in one on the channel to which it is pinned, and its reply says so. -/
  | once (transfer : Transfer α) (pinned : record.pinned = some transfer.generation)
    (meets : bus.Meets transfer.generation) (deals : record.call.Deals transfer.value)
    (settled : record.status ≠ .dropped →
      bus.verdict? record.status = some (record.call.dealReply transfer.value)) :
    Accounts bus record [transfer]
  /-- It is a broadcast that has sent its copies, at most one to each channel. -/
  | copies {value : α} {transfers : List (Transfer α)} (everywhere : record.call = .broadcast value)
    (ended : record.status = .ended (.sent (.ok ())))
    (each : ∀ transfer ∈ transfers, transfer.value = value ∧ bus.Meets transfer.generation)
    (distinct : (transfers.map (·.generation)).Nodup) : Accounts bus record transfers

section Accounting

variable {bus after : Bus α} {record : Record α} {transfers : List (Transfer α)}

/-- A call keeps its accounts as long as its verdict is the same. -/
theorem Accounts.congr (accounts : bus.Accounts record transfers)
    (verdict : after.verdict? record.status = bus.verdict? record.status)
    (meets : ∀ generation, bus.Meets generation → after.Meets generation)
    (known : ∀ generation, record.pinned = some generation → after.Meets generation →
      bus.Meets generation) : after.Accounts record transfers := by
  cases accounts with
  | nothing refused =>
    refine .nothing fun reply found alone => refused reply (verdict ▸ found) ?_
    rcases alone with unnamed | ⟨busy, generation, pinned, met⟩
    · exact .inl unnamed
    · exact .inr ⟨busy, generation, pinned, known generation pinned met⟩
  | once transfer pinned met deals settled =>
    exact .once transfer pinned (meets _ met) deals fun kept => verdict ▸ settled kept
  | copies everywhere ended each distinct =>
    exact .copies everywhere ended
      (fun transfer member => ⟨(each transfer member).1, meets _ (each transfer member).2⟩) distinct

/-- A call that waits without a verdict has taken part in no transfer. -/
theorem Accounts.eq_nil (accounts : bus.Accounts record transfers) {suspended : Suspended α}
    (waits : record.status = .waiting suspended)
    (undecided : bus.verdict? record.status = none) : transfers = [] := by
  cases accounts with
  | nothing => rfl
  | once transfer pinned meets deals settled =>
    have decided := settled (by rw [waits]; nofun)
    exact absurd (undecided.symm.trans decided) (by simp)
  | copies everywhere ended =>
    rw [waits] at ended
    contradiction

/-- A call that waits keeps its accounts when it ends with its verdict. -/
theorem Accounts.settle (accounts : bus.Accounts record transfers) {suspended : Suspended α}
    (waits : record.status = .waiting suspended) {reply : Reply α}
    (verdict : bus.verdict? record.status = some reply) :
    bus.Accounts { record with status := .ended reply } transfers := by
  cases accounts with
  | nothing refused =>
    refine .nothing fun other same => ?_
    obtain rfl := Option.some.inj same
    exact refused reply verdict
  | once transfer pinned meets deals settled =>
    refine .once transfer pinned meets deals fun _ => ?_
    exact verdict.symm.trans (settled (by rw [waits]; nofun))
  | copies everywhere ended =>
    rw [waits] at ended
    contradiction

/-- A call that waits keeps its accounts when it is dropped. -/
theorem Accounts.drop (accounts : bus.Accounts record transfers) {suspended : Suspended α}
    (waits : record.status = .waiting suspended) :
    bus.Accounts { record with status := .dropped } transfers := by
  cases accounts with
  | nothing refused => exact .nothing fun _ none => by contradiction
  | once transfer pinned meets deals settled =>
    exact .once transfer pinned meets deals fun kept => absurd rfl kept
  | copies everywhere ended =>
    rw [waits] at ended
    contradiction

/-- The same channels are rendezvous channels while nothing is opened or closed. -/
theorem Stays.meets_iff (stays : bus.Stays after) (generation : Nat) :
    after.Meets generation ↔ bus.Meets generation := by
  rw [Meets, Meets, stays.capacities]

/-- The accounts of a call after it was tried, and its side of the transfers. -/
theorem Passed.accounts {call : Call α} {pin : Option Nat} {progress : Progress α}
    (passed : bus.Passed after call pin progress) (stays : bus.Stays after)
    (afterSound : after.Sound)
    {waiting : Nat → Option (Suspended α)} (housed : bus.Housed waiting) {bound : Nat}
    (caller : Nat) (within : ∀ waiter suspended, waiting waiter = some suspended → waiter < bound)
    (called : record.call = call)
    (pinned : call.handle?.isSome = true → record.pinned = pin)
    (status : record.status = progress.status) :
    after.Accounts record (bus.transfersTo after waiting bound caller) ∧
      ∀ transfer ∈ bus.transfersTo after waiting bound caller,
        transfer.party call.side = caller := by
  cases passed with
  | nothing quiet refused =>
    rw [transfersTo_of_quiet fun _ suspended _ => quiet suspended.ticket.address]
    refine ⟨.nothing fun reply verdict alone => ?_, by simp⟩
    refine refused reply (status ▸ verdict) ?_
    rcases alone with unnamed | ⟨busy, generation, pinnedHere, met⟩
    · exact .inl (called ▸ unnamed)
    · cases named : call.handle? with
      | none => exact .inl rfl
      | some handle =>
        have same := pinned (by rw [named]; rfl)
        exact .inr ⟨called ▸ busy, generation, same ▸ pinnedHere, (stays.meets_iff _).mp met⟩
  | @through value generation key pin _ passed deals =>
    obtain ⟨waiter, suspended, waits, place, transfers⟩ :=
      housed.transfersTo_of_through caller within passed
    have here : bus.passed? after suspended.ticket.address = some value := by
      rw [passed, if_pos place]
    obtain ⟨first, now, _, held, through⟩ := passed?_eq_some_iff.mp here
    have met := afterSound.meets_of_settled held (Parcel.isSettled_of_passed? through).2
    have side : suspended.ticket.side = call.side.opposite := congrArg Address.side place
    have equal : suspended.ticket.generation = generation := congrArg Address.generation place
    have party := suspended.ticket.party_transfer_opposite waiter caller value
    rw [side, call.side.opposite_opposite] at party
    rw [transfers]
    refine ⟨.once _ ?_ ?_ ?_ fun _ => ?_, by simpa using party⟩
    · rw [pinned deals.named, pin, Ticket.generation_transfer, equal]
    · rw [Ticket.generation_transfer]
      exact met
    · rw [called, Ticket.value_transfer]
      exact deals
    · rw [status, called, Ticket.value_transfer]
      rfl
  | copies everywhere copied =>
    obtain ⟨each, distinct, _⟩ := housed.transfersTo_of_copies caller within copied
    subst everywhere
    refine ⟨.copies called (status.trans rfl) (fun transfer member => ?_) distinct,
      fun transfer member => (each transfer member).2.1⟩
    obtain ⟨same, _, meets⟩ := each transfer member
    exact ⟨same, (stays.meets_iff _).mpr meets⟩

end Accounting

end Bus

end ChannelBus
