import ChannelBus.Proofs.Accounts

/-!
# The accounts of all calls

`Session.transfers` is the history of the transfers of a run. `Session.Paired` says that every call
of a session has its accounts in order for such a history, and every move keeps them so.
-/

namespace ChannelBus

variable {α : Type}

namespace Session

/-- The waits of all calls but one. -/
def others (session : Session α) (caller : Nat) : Nat → Option (Suspended α) :=
  reassign session.waiting? caller none

/-- The transfers of a move that leads to the given bus. -/
def transfersAt (session : Session α) (move : Move α) (after : Bus α) : List (Transfer α) :=
  (session.caller? move).elim [] fun caller =>
    session.bus.transfersTo after (session.others caller) session.calls.length caller

/-- The transfers of a run. -/
def transfers [Stored α] (session : Session α) (moves : List (Move α)) : List (Transfer α) :=
  (session.trail moves).flatMap fun (session, move) =>
    session.transfersAt move (session.step move).bus

/-- Every call of a session has its accounts in order for a history of transfers. -/
structure Paired (session : Session α) (history : List (Transfer α)) : Prop where
  /-- The session is lawful. -/
  lawful : session.Lawful
  /-- Calls are pinned to channels that were open once. -/
  known : ∀ (id : Nat) (record : Record α) (generation : Nat),
    session.calls[id]? = some record →
    record.pinned = some generation → ∃ capacity,
      (session.bus.identity? generation).map (·.capacity) = some capacity
  /-- Only calls that were started took part in transfers. -/
  started : ∀ transfer ∈ history, ∀ side, transfer.party side < session.calls.length
  /-- Each of them did so on its own side. -/
  sided : ∀ (id : Nat) (record : Record α), session.calls[id]? = some record →
    ∀ transfer ∈ history,
    transfer.party record.call.side.opposite ≠ id
  /-- Each of them has the right thing to show for it. -/
  accounts : ∀ (id : Nat) (record : Record α), session.calls[id]? = some record →
    session.bus.Accounts record (history.filter (·.party record.call.side = id))

/-- What a poll, a drop or the start of a call leaves to the other calls. -/
structure Turns (session next : Session α) (caller : Nat) : Prop where
  /-- The session is lawful afterwards. -/
  lawful : next.Lawful
  /-- The registry changes as it may. -/
  evolves : session.bus.Evolves next.bus
  /-- The calls are still there. -/
  started : session.calls.length ≤ next.calls.length
  /-- The call itself is there. -/
  placed : caller < next.calls.length
  /-- The other calls stand where they stood. -/
  others : ∀ (id : Nat) (record : Record α), id ≠ caller → next.calls[id]? = some record →
    session.calls[id]? = some record
  /-- Their parcels are the same, unless a value went through. -/
  kept : ∀ id suspended, id ≠ caller → session.waiting? id = some suspended →
    session.bus.passed? next.bus suspended.ticket.address = none →
    next.bus.parcel? suspended.ticket.address = session.bus.parcel? suspended.ticket.address

section Turning

variable {session next : Session α} {history : List (Transfer α)} {caller : Nat}

/-- The wait of a call is that of its record. -/
theorem waiting?_of_record {id : Nat} {record : Record α}
    (here : session.calls[id]? = some record) : session.waiting? id = record.status.suspended? := by
  simp [waiting?, here]

/-- A record waits as its call does. -/
theorem status_of_waiting? {id : Nat} {record : Record α} {suspended : Suspended α}
    (here : session.calls[id]? = some record) (waits : session.waiting? id = some suspended) :
    record.status = .waiting suspended := by
  obtain ⟨found, there, status⟩ := record_of_waiting? waits
  obtain rfl := Option.some.inj (here.symm.trans there)
  exact status

/-- A call waits on its own side. -/
theorem Lawful.side_ticket (lawful : session.Lawful) {id : Nat} {record : Record α}
    {suspended : Suspended α} (here : session.calls[id]? = some record)
    (waits : session.waiting? id = some suspended) :
    suspended.ticket.side = record.call.side := by
  rw [(lawful.housed.houses id suspended waits).side,
    (lawful.recorded id record suspended here (status_of_waiting? here waits)).call]

/-- The other calls that wait. -/
theorem others_eq_some_iff {id : Nat} {suspended : Suspended α} :
    session.others caller id = some suspended ↔
      id ≠ caller ∧ session.waiting? id = some suspended := by
  unfold others reassign
  split
  case isTrue same => simp [same]
  case isFalse apart => simp [apart]

/-- The parcels of the other calls stay when that of one call goes away. -/
theorem Lawful.parcel?_of_clears (lawful : session.Lawful) {suspended : Suspended α}
    (waits : session.waiting? caller = some suspended) {middle : Bus α}
    (clears : session.bus.Clears middle suspended.ticket.address) {id : Nat}
    {another : Suspended α} (found : session.others caller id = some another) :
    middle.parcel? another.ticket.address = session.bus.parcel? another.ticket.address := by
  obtain ⟨apart, waitsToo⟩ := others_eq_some_iff.mp found
  rw [clears.parcel?, if_neg fun equal =>
    apart (lawful.housed.apart id caller another suspended waitsToo waits equal)]

/-- Accounts stay in order while the verdict of the call is the same. -/
theorem Paired.carry (paired : session.Paired history) {after : Bus α}
    (evolves : session.bus.Evolves after) {id : Nat} {record now : Record α}
    (here : session.calls[id]? = some record) {transfers : List (Transfer α)}
    (accounts : session.bus.Accounts now transfers) (pinned : now.pinned = record.pinned)
    (verdict : after.verdict? now.status = session.bus.verdict? now.status) :
    after.Accounts now transfers := by
  have sound := paired.lawful.housed.sound
  refine accounts.congr verdict (fun generation meets => evolves.capacity sound meets)
    fun generation pin meets => ?_
  obtain ⟨capacity, named⟩ := paired.known id record generation here (pinned ▸ pin)
  rw [Bus.Meets, named, ← evolves.capacity sound named]
  exact meets

/-- A waiting call through whose parcel a value went has that transfer to show. -/
theorem Turns.once (turns : session.Turns next caller) (lawful : session.Lawful) {id : Nat}
    {record : Record α} {suspended : Suspended α} {value : α}
    (here : session.calls[id]? = some record) (waits : session.waiting? id = some suspended)
    (passed : session.bus.passed? next.bus suspended.ticket.address = some value) :
    next.bus.Accounts record [suspended.ticket.transfer id caller value] := by
  have status := status_of_waiting? here waits
  have keeps := lawful.recorded id record suspended here status
  have houses := lawful.housed.houses id suspended waits
  have nextSound := turns.lawful.housed.sound
  obtain ⟨before, now, heldBefore, heldNow, through⟩ := Bus.passed?_eq_some_iff.mp passed
  obtain ⟨parcel, held, finds⟩ := houses.parcel
  obtain rfl : before = parcel := Option.some.inj (heldBefore.symm.trans held)
  have allowed := nextSound.mayWake_of_parcel? heldNow
  have side : suspended.ticket.address.side = suspended.call.side := houses.side
  rw [side] at allowed
  obtain ⟨deals, reply⟩ := finds.dealt through allowed
  refine .once _ ?_ ?_ ?_ fun _ => ?_
  · rw [Ticket.generation_transfer]
    exact keeps.pinned (keeps.call ▸ deals.named)
  · rw [Ticket.generation_transfer]
    exact nextSound.meets_of_settled heldNow (Parcel.isSettled_of_passed? through).2
  · rw [Ticket.value_transfer, ← keeps.call]
    exact deals
  · rw [status, Ticket.value_transfer, Bus.verdict?, heldNow, Option.bind_some, reply, keeps.call]

/-- A call through whose parcel nothing went has the same verdict as before. -/
theorem Turns.verdict?_of_silent (turns : session.Turns next caller) {id : Nat} {record : Record α}
    (apart : id ≠ caller) (here : session.calls[id]? = some record)
    (silent : session.bus.transfer? next.bus (session.others caller) caller id = none) :
    next.bus.verdict? record.status = session.bus.verdict? record.status := by
  cases status : record.status with
  | ended | dropped => rfl
  | waiting suspended =>
    have waits : session.waiting? id = some suspended := by
      rw [waiting?_of_record here, status]
      rfl
    have nothing := Bus.passed?_of_transfer? (others_eq_some_iff.mpr ⟨apart, waits⟩) silent
    rw [Bus.verdict?, Bus.verdict?, turns.kept id suspended apart waits nothing]

/-- A call other than the one that is tried keeps its accounts. -/
theorem Paired.other (paired : session.Paired history) (turns : session.Turns next caller)
    {id : Nat} {record : Record α} (apart : id ≠ caller)
    (here : session.calls[id]? = some record) : next.bus.Accounts record
      ((history ++ session.bus.transfersTo next.bus (session.others caller) session.calls.length
        caller).filter (·.party record.call.side = id)) := by
  have accounts := paired.accounts id record here
  have sided : ∀ suspended, session.others caller id = some suspended →
      suspended.ticket.side = record.call.side := fun suspended waits =>
    paired.lawful.side_ticket here (others_eq_some_iff.mp waits).2
  rw [List.filter_append, Bus.filter_transfersTo (List.getElem?_eq_some_iff.mp here).1 apart.symm
    sided]
  cases found : session.bus.transfer? next.bus (session.others caller) caller id with
  | none =>
    rw [Option.toList_none, List.append_nil]
    exact paired.carry turns.evolves here accounts rfl (turns.verdict?_of_silent apart here found)
  | some transfer =>
    obtain ⟨suspended, value, waitsThere, passed, rfl⟩ := Bus.transfer?_eq_some_iff.mp found
    have waits := (others_eq_some_iff.mp waitsThere).2
    have status := status_of_waiting? here waits
    obtain ⟨before, _, held, _, through⟩ := Bus.passed?_eq_some_iff.mp passed
    -- A parcel through which a value goes was unsettled, so its call had no share until now.
    have undecided := Bus.verdict?_of_unsettled held (Parcel.isSettled_of_passed? through).1
    rw [accounts.eq_nil status (status ▸ undecided), List.nil_append, Option.toList_some]
    exact turns.once paired.lawful here waits passed

/-- A transfer is one between a call that waited and the one that was tried. -/
theorem pair_of_mem {after : Bus α} {transfer : Transfer α}
    (member : transfer ∈ session.bus.transfersTo after (session.others caller)
      session.calls.length caller) :
    ∃ waiter < session.calls.length, waiter ≠ caller ∧ ∃ (ticket : Ticket) (value : α),
      transfer = ticket.transfer waiter caller value := by
  obtain ⟨waiter, within, found⟩ := Bus.mem_transfersTo.mp member
  obtain ⟨suspended, value, waits, _, rfl⟩ := Bus.transfer?_eq_some_iff.mp found
  exact ⟨waiter, within, (others_eq_some_iff.mp waits).1, suspended.ticket, value, rfl⟩

/-- Only calls that were started have a share in the transfers of a move. -/
theorem Turns.party_lt (turns : session.Turns next caller) {transfer : Transfer α}
    (member : transfer ∈ session.bus.transfersTo next.bus (session.others caller)
      session.calls.length caller) (side : Side) : transfer.party side < next.calls.length := by
  obtain ⟨waiter, within, _, ticket, value, rfl⟩ := pair_of_mem member
  rcases ticket.party_cases waiter caller value side with ⟨_, same⟩ | ⟨_, same⟩
  · rw [same]
    exact Nat.lt_of_lt_of_le within turns.started
  · rw [same]
    exact turns.placed

/-- The call that is tried does not meet itself. -/
theorem party_opposite_ne_of_party {after : Bus α} {transfer : Transfer α}
    (member : transfer ∈ session.bus.transfersTo after (session.others caller)
      session.calls.length caller) {side : Side} (party : transfer.party side = caller) :
    transfer.party side.opposite ≠ caller := by
  obtain ⟨waiter, _, apart, ticket, value, rfl⟩ := pair_of_mem member
  intro same
  rcases ticket.party_cases waiter caller value side with ⟨_, first⟩ | ⟨there, _⟩
  · exact apart (first.symm.trans party)
  · have second := ticket.party_transfer waiter caller value
    rw [there] at second
    exact apart (second.symm.trans same)

/-- The accounts of all calls after a poll, a drop or the start of a call that has its own in
order. -/
theorem Paired.turn (paired : session.Paired history) (turns : session.Turns next caller)
    {record : Record α} (here : next.calls[caller]? = some record)
    (known : ∀ generation, record.pinned = some generation → ∃ capacity,
      (next.bus.identity? generation).map (·.capacity) = some capacity)
    (sided : ∀ transfer ∈ history, transfer.party record.call.side.opposite ≠ caller)
    (accounts : next.bus.Accounts record (history.filter (·.party record.call.side = caller) ++
      session.bus.transfersTo next.bus (session.others caller) session.calls.length caller))
    (parties : ∀ transfer ∈ session.bus.transfersTo next.bus (session.others caller)
      session.calls.length caller, transfer.party record.call.side = caller) :
    next.Paired (history ++
      session.bus.transfersTo next.bus (session.others caller) session.calls.length caller) := by
  have sound := paired.lawful.housed.sound
  have own : ∀ found, next.calls[caller]? = some found → found = record :=
    fun found there => (Option.some.inj (here.symm.trans there)).symm
  refine ⟨turns.lawful, fun id found generation there pinned => ?_, fun transfer member side => ?_,
    fun id found there transfer member => ?_, fun id found there => ?_⟩
  · by_cases apart : id = caller
    · subst apart
      obtain rfl := own found there
      exact known generation pinned
    · obtain ⟨capacity, named⟩ :=
        paired.known id found generation (turns.others id found apart there) pinned
      exact ⟨capacity, turns.evolves.capacity sound named⟩
  · rcases List.mem_append.mp member with earlier | now
    · exact Nat.lt_of_lt_of_le (paired.started transfer earlier side) turns.started
    · exact turns.party_lt now side
  · by_cases apart : id = caller
    · subst apart
      obtain rfl := own found there
      rcases List.mem_append.mp member with earlier | now
      · exact sided transfer earlier
      · exact party_opposite_ne_of_party now (parties transfer now)
    · have before := turns.others id found apart there
      rcases List.mem_append.mp member with earlier | now
      · exact paired.sided id found before transfer earlier
      · exact Bus.party_opposite_ne (Ne.symm apart) (fun suspended waits =>
          paired.lawful.side_ticket before (others_eq_some_iff.mp waits).2) now
  · by_cases apart : id = caller
    · subst apart
      obtain rfl := own found there
      rw [List.filter_append, List.filter_eq_self.mpr fun transfer member =>
        decide_eq_true (parties transfer member)]
      exact accounts
    · exact paired.other turns apart (turns.others id found apart there)

/-- The accounts of all calls after a move that touches no parcel and no call. -/
theorem Paired.still (paired : session.Paired history) (lawful : next.Lawful)
    (evolves : session.bus.Evolves next.bus) (calls : next.calls = session.calls)
    (board : ∀ address, next.bus.parcel? address = session.bus.parcel? address)
    (move : Move α) : next.Paired (history ++ session.transfersAt move next.bus) := by
  have sound := paired.lawful.housed.sound
  have nothing : session.transfersAt move next.bus = [] := by
    unfold transfersAt
    cases session.caller? move with
    | none => rfl
    | some caller =>
      exact Bus.transfersTo_of_quiet fun _ suspended _ => Bus.passed?_of_same (board _)
  have verdict : ∀ status : Status α, next.bus.verdict? status = session.bus.verdict? status := by
    intro status
    cases status with
    | ended | dropped => rfl
    | waiting suspended => rw [Bus.verdict?, Bus.verdict?, board]
  rw [nothing, List.append_nil]
  refine ⟨lawful, fun id record generation here pinned => ?_, fun transfer member side => ?_,
    fun id record here => ?_, fun id record here => ?_⟩
  · rw [calls] at here
    obtain ⟨capacity, named⟩ := paired.known id record generation here pinned
    exact ⟨capacity, evolves.capacity sound named⟩
  · rw [calls]
    exact paired.started transfer member side
  · exact paired.sided id record (calls ▸ here)
  · rw [calls] at here
    exact paired.carry evolves here (paired.accounts id record here) rfl (verdict _)

/-- The accounts of all calls after a waiting call went on, with its own in order. -/
theorem Paired.modify (paired : session.Paired history) {after : Bus α} {code : ErrorCode}
    {id : Nat} {record : Record α} {status : Status α} (here : session.calls[id]? = some record)
    (lawful : Lawful
      { bus := after, lastError := code, calls := session.calls.modify id fun record =>
          { record with status } })
    (evolves : session.bus.Evolves after)
    (kept : ∀ other suspended, other ≠ id → session.waiting? other = some suspended →
      session.bus.passed? after suspended.ticket.address = none →
      after.parcel? suspended.ticket.address = session.bus.parcel? suspended.ticket.address)
    (accounts : after.Accounts { record with status }
      (history.filter (·.party record.call.side = id) ++
        session.bus.transfersTo after (session.others id) session.calls.length id))
    (parties : ∀ transfer ∈ session.bus.transfersTo after (session.others id)
      session.calls.length id, transfer.party record.call.side = id) :
    Paired { bus := after, lastError := code, calls := session.calls.modify id fun record =>
        { record with status } }
      (history ++ session.bus.transfersTo after (session.others id) session.calls.length id) := by
  have within := (List.getElem?_eq_some_iff.mp here).1
  have placed : (session.calls.modify id fun record => { record with status })[id]? =
      some { record with status } := by
    simp [here]
  refine paired.turn ⟨lawful, evolves, ?_, ?_, fun other found apart there => ?_, kept⟩ placed
    (fun generation pinned => ?_) (paired.sided id record here) accounts parties
  · exact Nat.le_of_eq (List.length_modify _ _ _).symm
  · rw [List.length_modify]
    exact within
  · simpa [Ne.symm apart] using there
  · obtain ⟨capacity, named⟩ := paired.known id record generation here pinned
    exact ⟨capacity, evolves.capacity paired.lawful.housed.sound named⟩

/-- The accounts of all calls after a waiting call went on while all other parcels stayed as they
were. -/
theorem Paired.modify_quiet (paired : session.Paired history) {after : Bus α} {code : ErrorCode}
    {id : Nat} {record : Record α} {status : Status α} (here : session.calls[id]? = some record)
    (lawful : Lawful
      { bus := after, lastError := code, calls := session.calls.modify id fun record =>
          { record with status } })
    (evolves : session.bus.Evolves after)
    (same : ∀ other suspended, other ≠ id → session.waiting? other = some suspended →
      after.parcel? suspended.ticket.address = session.bus.parcel? suspended.ticket.address)
    (accounts : after.Accounts { record with status }
      (history.filter (·.party record.call.side = id))) :
    Paired { bus := after, lastError := code, calls := session.calls.modify id fun record =>
        { record with status } }
      (history ++ session.bus.transfersTo after (session.others id) session.calls.length id) := by
  have nothing : session.bus.transfersTo after (session.others id) session.calls.length id = [] :=
    Bus.transfersTo_of_quiet fun other suspended waits =>
      Bus.passed?_of_same (same other suspended (others_eq_some_iff.mp waits).1
        (others_eq_some_iff.mp waits).2)
  refine paired.modify here lawful evolves
    (fun other suspended apart waits _ => same other suspended apart waits) ?_ ?_
  · rw [nothing, List.append_nil]
    exact accounts
  · rw [nothing]
    simp

/-- The accounts of all calls after a call was tried for the first time. -/
theorem Paired.append (paired : session.Paired history) {after : Bus α} (code : ErrorCode)
    {call : Call α} {waker : TaskId} {progress : Progress α}
    (acts : session.bus.Acts waker call (session.pin? call) none progress after)
    (lawful : Lawful { bus := after, lastError := code, calls := session.calls ++
      [⟨call, session.pin? call, progress.status⟩] }) :
    Paired { bus := after, lastError := code, calls := session.calls ++
        [⟨call, session.pin? call, progress.status⟩] }
      (history ++ session.bus.transfersTo after (session.others session.calls.length)
        session.calls.length session.calls.length) := by
  have housed := paired.lawful.housed
  have tries := acts.tries housed.sound
  have evolves : session.bus.Evolves after := .stays tries.stays
  have all : session.others session.calls.length = session.waiting? :=
    reassign_self session.waiting?_length
  have placed : (session.calls ++ [⟨call, session.pin? call, progress.status⟩])[
      session.calls.length]? = some ⟨call, session.pin? call, progress.status⟩ :=
    List.getElem?_concat_length
  have fresh : ∀ transfer ∈ history, ∀ side, transfer.party side ≠ session.calls.length :=
    fun transfer member side => Nat.ne_of_lt (paired.started transfer member side)
  have unshared : history.filter (·.party call.side = session.calls.length) = [] := by
    refine List.filter_eq_nil_iff.mpr fun transfer member => ?_
    simp [fresh transfer member call.side]
  have own := (acts.passed housed.sound).accounts tries.stays tries.sound housed
    session.calls.length (fun _ _ waits => lt_of_waiting? waits)
    (rfl : (Record.mk call (session.pin? call) progress.status).call = call) (fun _ => rfl) rfl
  rw [← all] at own
  refine paired.turn ⟨lawful, evolves, ?_, ?_, fun id found apart there => ?_,
    fun id suspended _ waits silent => housed.kept tries waits silent⟩ placed
    (fun generation pinned => ?_) (fun transfer member => fresh transfer member _) ?_ own.2
  · rw [List.length_append]
    exact Nat.le_add_right _ _
  · rw [List.length_append]
    exact Nat.lt_succ_self _
  · have bound := (List.getElem?_eq_some_iff.mp there).1
    rw [List.length_append, List.length_singleton] at bound
    rwa [List.getElem?_append_left (by omega)] at there
  · obtain ⟨channel, here, rfl⟩ := Option.map_eq_some_iff.mp pinned
    obtain ⟨handle, _, here⟩ := Option.bind_eq_some_iff.mp here
    refine ⟨channel.capacity, evolves.capacity housed.sound ?_⟩
    rw [housed.sound.identity?_of_channel? here, Option.map_some]
  · rw [unshared, List.nil_append]
    exact own.1

/-- The accounts of all calls after a woken call was tried again. -/
theorem Paired.retry (paired : session.Paired history) {after middle : Bus α} {code : ErrorCode}
    {id : Nat} {record : Record α} {suspended : Suspended α} {parcel : Parcel α} {waker : TaskId}
    {progress : Progress α} (here : session.calls[id]? = some record)
    (waits : session.waiting? id = some suspended)
    (held : session.bus.parcel? suspended.ticket.address = some parcel)
    (unsettled : parcel.isSettled = false)
    (clears : session.bus.Clears middle suspended.ticket.address)
    (acts : middle.Acts waker suspended.call (some suspended.ticket.generation)
      (some (suspended.ticket.handle, suspended.ticket.generation)) progress after)
    (lawful : Lawful
      { bus := after, lastError := code, calls := session.calls.modify id fun record =>
          { record with status := progress.status } }) :
    Paired { bus := after, lastError := code, calls := session.calls.modify id fun record =>
        { record with status := progress.status } }
      (history ++ session.bus.transfersTo after (session.others id) session.calls.length id) := by
  have status := status_of_waiting? here waits
  have keeps := paired.lawful.recorded id record suspended here status
  have resumed : middle.Housed (session.others id) := paired.lawful.housed.clears waits clears
  have tries := acts.tries resumed.sound
  have same : ∀ other another, session.others id other = some another →
      middle.parcel? another.ticket.address = session.bus.parcel? another.ticket.address :=
    fun _ _ found => paired.lawful.parcel?_of_clears waits clears found
  have nothing := (paired.accounts id record here).eq_nil status
    (status ▸ Bus.verdict?_of_unsettled held unsettled)
  have own : after.Accounts { record with status := progress.status } _ ∧ _ :=
    (acts.passed resumed.sound).accounts tries.stays tries.sound resumed id
      (fun _ _ found => lt_of_waiting? (others_eq_some_iff.mp found).2) keeps.call.symm
      (fun named => keeps.pinned (keeps.call ▸ named)) rfl
  rw [← Bus.transfersTo_congr same, keeps.call] at own
  refine paired.modify here lawful (.stays (clears.stays.trans tries.stays))
    (fun other another apart found silent => ?_) ?_ own.2
  · have there := others_eq_some_iff.mpr ⟨apart, found⟩
    rw [Bus.passed?, ← same other another there] at silent
    rw [resumed.kept tries there silent, same other another there]
  · rw [nothing, List.nil_append]
    exact own.1

/-- Every effect of a move keeps the accounts of all calls. -/
theorem Effect.paired {move : Move α} {result : Option (Status α)} {after : Bus α}
    (effect : session.Effect move result after) (paired : session.Paired history)
    (code : ErrorCode) : Paired
      { bus := after, lastError := code, calls := session.recording move result }
      (history ++ session.transfersAt move after) := by
  have sound := paired.lawful.housed.sound
  have lawful := effect.lawful paired.lawful code
  have evolves := effect.evolves paired.lawful
  have called : ∀ (id : Nat) (other : Move α), session.caller? other = some id →
      session.transfersAt other after =
        session.bus.transfersTo after (session.others id) session.calls.length id := by
    intro id other calls
    rw [transfersAt, calls]
    rfl
  cases effect with
  | idle => exact paired.still lawful evolves (by cases move <;> rfl) (fun _ => rfl) move
  | skipped => exact paired.still lawful evolves rfl (fun _ => rfl) _
  | opened opens => exact paired.still lawful evolves rfl (opens.parcel? sound) _
  | shut shuts => exact paired.still lawful evolves rfl (shuts.parcel? sound) _
  | refused asked error => exact paired.still lawful evolves rfl (fun _ => Bus.parcel?_note _ _ _) _
  | moved asked named here moves becomes =>
    exact paired.still lawful evolves rfl (becomes.tries_of_moves moves sound here).2 _
  | spread spare =>
    refine paired.still lawful evolves rfl (fun address => ?_) _
    refine sound.quiet_giveAll (fun handle channel here => ?_) _ fun meeting => ?_
    · simp [Channel.canAccept, spare handle channel here]
    · obtain ⟨handle, channel, here, same⟩ := Bus.isOpenAs_iff.mp meeting.1
      have rendezvous := (sound.meets_iff here).mp (same ▸ meeting.2)
      have full := spare handle channel here
      simp_all [Channel.isFull, Channel.isRendezvous]
  | started acts => exact paired.append code acts lawful
  | @refreshed id waker suspended waits queued =>
    obtain ⟨record, here, status⟩ := record_of_waiting? waits
    obtain ⟨_, _, board⟩ := (paired.lawful.housed.houses id suspended waits).refresh sound waker
    rw [called id _ (by simp [caller?, waits])]
    refine paired.modify_quiet here lawful evolves (fun _ _ _ _ => board _) ?_
    rw [← status]
    refine paired.carry evolves here (paired.accounts id record here) rfl ?_
    rw [status, Bus.verdict?, Bus.verdict?, board]
  | @settled id waker suspended parcel reply waits dequeued held happened =>
    obtain ⟨record, here, status⟩ := record_of_waiting? waits
    have clears := (paired.lawful.housed.houses id suspended waits).clears_forget sound dequeued
    rw [called id _ (by simp [caller?, waits])]
    refine paired.modify_quiet here lawful evolves (fun other another apart found => ?_) ?_
    · exact paired.lawful.parcel?_of_clears waits clears (others_eq_some_iff.mpr ⟨apart, found⟩)
    · have verdict : session.bus.verdict? record.status = some reply := by
        rw [status, Bus.verdict?, held]
        exact happened
      have settled := (paired.accounts id record here).settle status verdict
      exact paired.carry evolves here settled rfl rfl
  | @retried id waker suspended parcel progress _ waits dequeued held unsettled acts =>
    obtain ⟨record, here, status⟩ := record_of_waiting? waits
    have clears := (paired.lawful.housed.houses id suspended waits).clears_forget sound dequeued
    rw [called id _ (by simp [caller?, waits])]
    exact paired.retry here waits held unsettled clears acts lawful
  | @dropped id suspended waits =>
    obtain ⟨record, here, status⟩ := record_of_waiting? waits
    have clears := (paired.lawful.housed.houses id suspended waits).clears_leave sound
    rw [called id _ (by simp [caller?, waits])]
    refine paired.modify_quiet here lawful evolves (fun other another apart found => ?_) ?_
    · exact paired.lawful.parcel?_of_clears waits clears (others_eq_some_iff.mpr ⟨apart, found⟩)
    · exact paired.carry evolves here ((paired.accounts id record here).drop status) rfl rfl

end Turning

/-! ## Rendezvous channels over a run -/

/-- A new session has no transfers to account for. -/
theorem paired_new (config : Config) : (new config : Session α).Paired [] :=
  ⟨lawful_new config, by simp [new], by simp, by simp, by simp [new]⟩

section Running

variable [Stored α] {session : Session α} {history : List (Transfer α)}

/-- Every move keeps the accounts of all calls. -/
theorem Paired.step (paired : session.Paired history) (move : Move α) :
    (session.step move).Paired (history ++ session.transfersAt move (session.step move).bus) :=
  (effect paired.lawful move).paired paired _

/-- The accounts of all calls over a run. -/
theorem Paired.run (paired : session.Paired history) (moves : List (Move α)) :
    (session.run moves).Paired (history ++ session.transfers moves) := by
  induction moves generalizing session history with
  | nil => simpa [transfers, trail] using paired
  | cons move rest ih =>
    have next := ih (paired.step move)
    rw [List.append_assoc] at next
    exact next

end Running

end Session

end ChannelBus
