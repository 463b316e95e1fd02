import ChannelBus.Proofs.Arrivals
import ChannelBus.Proofs.Rendezvous
import Mathlib.Algebra.Order.Ring.Nat

/-!
# What the counters say

Two ledgers tie the counters of a bus to what lies on it. The first one follows the waits: every
suspension is still queued, or was woken by the bus, or left its queue because a task was dropped.
The second one follows the values: what was sent is received, buffered or lost, except that a value
that goes from one task to another is counted on one side only, that of the call that arrives.

Both follow from what a single move pays for, summed up over a run.
-/

namespace ChannelBus

variable {α : Type}

namespace WaitQueue

/-- Wakeups that a dropped wait hands to the next in line. -/
def Departure.forwards : Departure α → Nat
  | .passedOn (some _) => 1
  | .passedOn none | .settled | .withdrawn | .discarded _ => 0

/-- Waits that are dropped while they are queued. -/
def Departure.withdraws : Departure α → Nat
  | .withdrawn => 1
  | .settled | .discarded _ | .passedOn _ => 0

/-- A dropped wait takes one wait out of its queue, itself or the next in line, or none. -/
theorem Keyed.length_leave {queue : WaitQueue α} (keyed : queue.Keyed) (key : Nat) :
    (queue.leave key).length +
        ((queue.departure key).forwards + (queue.departure key).withdraws) = queue.length := by
  cases queued : queue.holds key with
  | true =>
    have withdrawn : queue.departure key = .withdrawn := by simp [departure, queued]
    obtain ⟨wait, member, rfl⟩ := holds_iff.mp queued
    have distinct : (queue.waiting.map (·.key)).Nodup :=
      keyed.distinct.sublist ((List.sublist_append_left _ _).map _)
    have split := (perm_cons_filter_number distinct member).length_eq
    rw [WaitQueue.leave, withdrawn]
    exact split.symm
  | false =>
    rcases departure_of_dequeued queued with departs | ⟨value, departs⟩ | departs
    · rw [WaitQueue.leave, departs]
      rfl
    · rw [WaitQueue.leave, departs]
      rfl
    · rw [WaitQueue.leave, departs]
      cases waiting : queue.waiting with
      | nil =>
        simp [length, wake, WaitQueue.forget, waiting, Departure.forwards, Departure.withdraws]
      | cons first rest =>
        simp [length, wake, WaitQueue.forget, waiting, Departure.forwards, Departure.withdraws]

end WaitQueue

namespace Bus

variable {bus : Bus α}

/-- The buffered values that a request loses. -/
def lost (bus : Bus α) : Request α → Nat
  | .close handle => (bus.length handle).getD 0
  | .delete => bus.buffered
  | .openChannel _ | .isOpen _ | .capacity _ | .length _ | .waiting _ _ | .channelCount | .handles
  | .stats | .trySend _ _ | .tryReceive _ | .trySendMany _ _ | .tryReceiveMany _ _
  | .tryBroadcast _ => 0

/-- Only a request that asks for no transfer loses buffered values. -/
theorem lost_of_call {request : Request α} {call : Call α} (asked : request.call? = some call) :
    bus.lost request = 0 := by
  cases request <;> first | rfl | contradiction

/-- What a request that is answered at once pays for. -/
theorem Sound.pays_perform [Stored α] (sound : bus.Sound) (request : Request α) :
    ∃ bill : Bill, bus.Pays (bus.perform request).bus bill ∧ bill.left = 0 ∧
      bill.discarded = bus.lost request ∧ bill.given = 0 ∧ bill.taken = 0 := by
  have failing (error : BusError) (answer : Answered α) (none : bus.lost request = 0) :
      ∃ bill : Bill, bus.Pays (bus.failing error answer).bus bill ∧ bill.left = 0 ∧
        bill.discarded = bus.lost request ∧ bill.given = 0 ∧ bill.taken = 0 :=
    ⟨_, bus.pays_countError error, by cases error <;> exact ⟨rfl, none.symm, rfl, rfl⟩⟩
  cases asked : request.call? with
  | none =>
    cases request with
    | trySend | tryReceive | trySendMany | tryReceiveMany | tryBroadcast => contradiction
    | isOpen | capacity | length | waiting | channelCount | handles | stats =>
      exact ⟨{}, pays_nothing rfl rfl rfl, rfl, rfl, rfl, rfl⟩
    | openChannel capacity => exact ⟨_, bus.pays_openChannel capacity, rfl, rfl, rfl, rfl⟩
    | close handle =>
      obtain ⟨woken, pays⟩ := bus.pays_close handle
      exact ⟨_, pays, rfl, rfl, rfl, rfl⟩
    | delete =>
      obtain ⟨closed, woken, pays⟩ := bus.pays_delete
      exact ⟨_, pays, rfl, rfl, rfl, rfl⟩
  | some call =>
    have none : bus.lost request = 0 := lost_of_call asked
    cases enabled : bus.config.enables call with
    | false =>
      rw [perform_of_disabled asked enabled]
      exact failing .notImplemented _ none
    | true =>
      cases named : call.handle? with
      | none =>
        obtain ⟨value, rfl, rfl⟩ := Request.eq_tryBroadcast asked named
        rcases perform_tryBroadcast enabled value with
          ⟨_, failed⟩ | ⟨_, failed⟩ | ⟨spare, _, gives, _⟩
        · rw [failed]
          exact failing .noChannel _ none
        · rw [failed]
          exact failing .wouldBlock _ none
        · obtain ⟨accepted, woken, pays⟩ := bus.pays_giveAll value
          have room : bus.fullChannels = 0 := by
            rw [fullChannels_eq, List.length_eq_zero_iff, List.filter_eq_nil_iff]
            intro (handle, channel) listed
            simp [spare handle channel (mem_openChannels.mp listed)]
          rw [gives]
          exact ⟨_, pays, rfl, rfl, room, rfl⟩
      | some handle =>
        cases here : bus.channel? handle with
        | none =>
          rw [perform_of_closed asked enabled named here]
          exact failing .noChannel _ none
        | some channel =>
          rcases perform_of_open asked enabled named here with
            ⟨reply, new, moves, billed, _⟩ | ⟨_, failed⟩
          · obtain ⟨_, kept, stays⟩ := ((sound.of_channel? here).fits_bill call).toOfTry
            exact ⟨_, billed.pays here moves.settles, stays, kept.trans none.symm,
              moves.meets_nobody⟩
          · rw [failed]
            exact failing .wouldBlock _ none

/-- A drop of a waiting call pays for the wait that leaves its queue. -/
theorem Houses.pays_cancel {suspended : Suspended α} (houses : bus.Houses suspended)
    (sound : bus.Sound) : bus.Pays (bus.cancel suspended).bus
      { left :=
          ((bus.ticketQueue suspended.ticket).departure suspended.ticket.key).forwards +
            ((bus.ticketQueue suspended.ticket).departure suspended.ticket.key).withdraws } := by
  obtain ⟨channel, _, _, channelSound, queue⟩ := houses.ticketed sound
  refine sound.pays_setTicketQueue ?_
  rw [queue]
  exact (channelSound.orderly suspended.ticket.side).keyed.length_leave suspended.ticket.key

end Bus

namespace Session

/-! ## What one move pays for -/

/-- What becomes of the wait that a move drops, if it drops one. -/
def departure? (session : Session α) : Move α → Option (WaitQueue.Departure α)
  | .drop id => (session.waiting? id).map fun suspended =>
    (session.bus.ticketQueue suspended.ticket).departure suspended.ticket.key
  | .request _ | .start _ _ | .poll _ _ | .overwrite _ => none

/-- Wakeups forwarded by a drop of a wait that was woken and not resumed yet. -/
def forwards (session : Session α) (move : Move α) : Nat :=
  (session.departure? move).elim 0 (·.forwards)

/-- Waits that a drop takes out of their queue. -/
def withdraws (session : Session α) (move : Move α) : Nat :=
  (session.departure? move).elim 0 (·.withdraws)

/-- Buffered values that a move loses by closing their channel. -/
def loses (session : Session α) : Move α → Nat
  | .request request => session.bus.lost request
  | .start _ _ | .poll _ _ | .drop _ | .overwrite _ => 0

/-- Transfers of a move whose arriving call is on this side. -/
def meets [Stored α] (side : Side) (session : Session α) (move : Move α) : Nat :=
  (session.transfersAt move (session.step move).bus).countP fun transfer =>
    session.caller? move = some (transfer.party side)

/-- A bill for a move. -/
structure Bills [Stored α] (session : Session α) (move : Move α) (bill : Bill) : Prop where
  /-- The bus pays it. -/
  pays : session.bus.Pays (session.step move).bus bill
  /-- It lists the waits that left a queue because a task was dropped. -/
  left : bill.left = session.forwards move + session.withdraws move
  /-- It lists the buffered values that were lost. -/
  discarded : bill.discarded = session.loses move
  /-- It lists the values that an arriving sender handed over. -/
  given : bill.given = session.meets .senders move
  /-- It lists the values that an arriving receiver took. -/
  taken : bill.taken = session.meets .receivers move

/-- A call that others wait with does not wait itself. -/
theorem others_self (session : Session α) (caller : Nat) : session.others caller caller = none :=
  if_pos rfl

/-- The calls that wait with another one were given out before. -/
theorem lt_of_others {session : Session α} {caller waiter : Nat} {suspended : Suspended α}
    (waits : session.others caller waiter = some suspended) : waiter < session.calls.length :=
  lt_of_waiting? (others_eq_some_iff.mp waits).2

/-- A poll of a waiting call pays for one try, or for nothing. -/
theorem Effect.pays_poll {session : Session α} {id : Nat} {waker : TaskId}
    {result : Option (Status α)} {after : Bus α}
    (effect : session.Effect (.poll id waker) result after) (lawful : session.Lawful) :
    ∃ bill : Bill, session.bus.Pays after bill ∧ bill.OfTry ∧ bill.Shows
      (session.bus.transfersTo after (session.others id) session.calls.length id) id := by
  have sound := lawful.housed.sound
  have nothing : (∀ other another, session.others id other = some another →
        after.parcel? another.ticket.address = session.bus.parcel? another.ticket.address) →
      session.bus.Pays after {} → ∃ bill : Bill, session.bus.Pays after bill ∧ bill.OfTry ∧
        bill.Shows (session.bus.transfersTo after (session.others id) session.calls.length id)
          id := by
    intro same pays
    refine ⟨_, pays, ⟨⟨rfl, rfl⟩, rfl, rfl⟩, ?_⟩
    rw [Bus.transfersTo_of_quiet fun other another found =>
      Bus.passed?_of_same (same other another found)]
    exact Bill.shows_nothing ⟨rfl, rfl⟩ id
  cases effect with
  | idle => exact nothing (fun _ _ _ => rfl) (Bus.pays_nothing rfl rfl rfl)
  | @refreshed _ _ suspended waits queued =>
    obtain ⟨_, _, board⟩ := (lawful.housed.houses id suspended waits).refresh sound waker
    exact nothing (fun _ _ _ => board _) (sound.pays_setTicketQueue (by
      simp [WaitQueue.length, WaitQueue.refresh]))
  | @settled _ _ suspended _ _ waits dequeued held happened =>
    have clears := (lawful.housed.houses id suspended waits).clears_forget sound dequeued
    exact nothing (fun _ _ found => lawful.parcel?_of_clears waits clears found)
      (sound.pays_forget suspended.ticket suspended.ticket.key)
  | @retried _ _ suspended _ _ _ waits dequeued held unsettled acts =>
    have clears := (lawful.housed.houses id suspended waits).clears_forget sound dequeued
    have forgets := sound.pays_forget suspended.ticket suspended.ticket.key
    obtain ⟨bill, pays, ofTry, shows⟩ := acts.pays (lawful.housed.clears waits clears)
      (session.others_self id) fun _ _ => lt_of_others
    have same : ∀ other another, session.others id other = some another → _ :=
      fun _ _ found => lawful.parcel?_of_clears waits clears found
    refine ⟨_, forgets.trans pays, .plus ⟨⟨rfl, rfl⟩, rfl, rfl⟩ ofTry, ?_⟩
    rw [Bus.transfersTo_congr same]
    exact ⟨(Nat.zero_add _).trans shows.given, (Nat.zero_add _).trans shows.taken⟩

section Moving

variable [Stored α] {session : Session α} {bill : Bill}

/-- The bill of a move that no call makes. -/
theorem bills_of_nobody {move : Move α} (pays : session.bus.Pays (session.step move).bus bill)
    (nobody : session.caller? move = none) (left : bill.left = 0)
    (lost : bill.discarded = session.loses move) (met : bill.given = 0 ∧ bill.taken = 0) :
    session.Bills move bill := by
  have nothing : session.departure? move = none := by
    cases move with
    | request | start | poll | overwrite => rfl
    | drop id =>
      rw [caller?, Option.map_eq_none_iff] at nobody
      rw [departure?, nobody]
      rfl
  refine ⟨pays, ?_, lost, ?_, ?_⟩
  · rw [forwards, withdraws, nothing]
    exact left
  · rw [meets, transfersAt, nobody]
    exact met.1
  · rw [meets, transfersAt, nobody]
    exact met.2

/-- The bill of a move that a call makes, unless it drops the call. -/
theorem bills_of_caller {move : Move α} {caller : Nat}
    (pays : session.bus.Pays (session.step move).bus bill)
    (calls : session.caller? move = some caller) (stays : session.departure? move = none)
    (ofTry : bill.OfTry) (shows : bill.Shows (session.bus.transfersTo (session.step move).bus
      (session.others caller) session.calls.length caller) caller) : session.Bills move bill := by
  have noRequest : session.loses move = 0 := by
    cases move with
    | request => contradiction
    | start | poll | drop | overwrite => rfl
  have met : ∀ side, session.meets side move =
      (session.bus.transfersTo (session.step move).bus (session.others caller)
        session.calls.length caller).countP (·.party side = caller) := by
    intro side
    rw [meets, transfersAt, calls]
    simp only [Option.elim_some, Option.some.injEq, eq_comm]
  refine ⟨pays, ?_, ofTry.kept.trans noRequest.symm, shows.given.trans (met _).symm,
    shows.taken.trans (met _).symm⟩
  rw [forwards, withdraws, stays]
  exact ofTry.stays

/-- The start of a call pays for one try. -/
theorem Lawful.bills_start (lawful : session.Lawful) (call : Call α) (waker : TaskId) :
    ∃ bill, session.Bills (.start call waker) bill := by
  have housed := lawful.housed
  rw [← reassign_self session.waiting?_length] at housed
  obtain ⟨bill, pays, ofTry, shows⟩ := (session.bus.acts_start call waker).pays housed
    (session.others_self session.calls.length) fun _ _ => lt_of_others
  exact ⟨bill, bills_of_caller pays rfl rfl ofTry shows⟩

/-- A drop of a waiting call pays for the wait that leaves its queue. -/
theorem Lawful.bills_drop (lawful : session.Lawful) {id : Nat} {suspended : Suspended α}
    (waits : session.waiting? id = some suspended) : ∃ bill, session.Bills (.drop id) bill := by
  have sound := lawful.housed.sound
  have houses := lawful.housed.houses id suspended waits
  have clears := houses.clears_leave sound
  have calls : session.caller? (.drop id) = some id := by simp [caller?, waits]
  have departs : session.departure? (.drop id) =
      some ((session.bus.ticketQueue suspended.ticket).departure suspended.ticket.key) := by
    simp [departure?, waits]
  have sameBus : (session.step (.drop id)).bus = (session.bus.cancel suspended).bus := by
    simp only [bus_step, act, waits]
    rfl
  have met : ∀ side, session.meets side (.drop id) = 0 := by
    intro side
    have quiet : session.bus.transfersTo (session.bus.cancel suspended).bus (session.others id)
        session.calls.length id = [] :=
      Bus.transfersTo_of_quiet fun other another found =>
        Bus.passed?_of_same (lawful.parcel?_of_clears waits clears found)
    rw [meets, transfersAt, calls, sameBus, Option.elim_some, quiet]
    rfl
  refine ⟨_, sameBus ▸ houses.pays_cancel sound, ?_, rfl, (met _).symm, (met _).symm⟩
  rw [forwards, withdraws, departs]
  rfl

/-- Every move pays its bill. -/
theorem Lawful.bills (lawful : session.Lawful) (move : Move α) : ∃ bill,
    session.Bills move bill := by
  have nothing {move : Move α} (same : (session.step move).bus = session.bus)
      (nobody : session.caller? move = none) (lost : session.loses move = 0) :
      ∃ bill, session.Bills move bill :=
    ⟨{}, bills_of_nobody (same ▸ Bus.pays_nothing rfl rfl rfl) nobody rfl lost.symm ⟨rfl, rfl⟩⟩
  cases move with
  | overwrite code => exact nothing rfl rfl rfl
  | start call waker => exact lawful.bills_start call waker
  | request request =>
    obtain ⟨bill, pays, left, lost, met⟩ := lawful.housed.sound.pays_perform request
    exact ⟨bill, bills_of_nobody pays rfl left lost met⟩
  | poll id waker =>
    cases waits : session.waiting? id with
    | none =>
      exact nothing (by simp [bus_step, act, waits, Bus.unchanged]) (by simp [caller?, waits]) rfl
    | some suspended =>
      obtain ⟨bill, pays, ofTry, shows⟩ := (effect lawful (.poll id waker)).pays_poll lawful
      exact ⟨bill, bills_of_caller pays (by simp [caller?, waits]) rfl ofTry shows⟩
  | drop id =>
    cases waits : session.waiting? id with
    | none =>
      exact nothing (by simp [bus_step, act, waits, Bus.unchanged]) (by simp [caller?, waits]) rfl
    | some suspended => exact lawful.bills_drop waits

end Moving

/-! ## What a run pays for -/

/-- What the moves of a run add up to. -/
def tally [Stored α] (session : Session α) (count : Session α → Move α → Nat)
    (moves : List (Move α)) : Nat :=
  ((session.trail moves).map fun (session, move) => count session move).sum

/-- A tally goes on after the first move. -/
theorem tally_cons [Stored α] (session : Session α) (count : Session α → Move α → Nat)
    (move : Move α) (rest : List (Move α)) : session.tally count (move :: rest) =
      count session move + (session.step move).tally count rest := rfl

/-- A tally of nothing. -/
theorem tally_eq_zero [Stored α] {session : Session α} {count : Session α → Move α → Nat}
    {moves : List (Move α)}
    (nothing : ∀ before move, (before, move) ∈ session.trail moves → count before move = 0) :
    session.tally count moves = 0 := by
  induction moves generalizing session with
  | nil => rfl
  | cons move rest ih =>
    rw [tally_cons, nothing session move List.mem_cons_self,
      ih fun before move made => nothing before move (List.mem_cons_of_mem _ made)]

/-- A bill for a run. -/
structure BillsRun [Stored α] (session : Session α) (moves : List (Move α)) (bill : Bill) :
    Prop where
  /-- The bus pays it. -/
  pays : session.bus.Pays (session.run moves).bus bill
  /-- It lists the waits that left a queue because a task was dropped. -/
  left : bill.left = session.tally forwards moves + session.tally withdraws moves
  /-- It lists the buffered values that were lost. -/
  discarded : bill.discarded = session.tally loses moves
  /-- It lists the values that arriving senders handed over. -/
  given : bill.given = session.tally (meets .senders) moves
  /-- It lists the values that arriving receivers took. -/
  taken : bill.taken = session.tally (meets .receivers) moves

section Running

variable [Stored α] {session : Session α}

/-- Every run pays its bill. -/
theorem Lawful.billsRun (lawful : session.Lawful) (moves : List (Move α)) : ∃ bill,
    session.BillsRun moves bill := by
  induction moves generalizing session with
  | nil => exact ⟨{}, Bus.pays_nothing rfl rfl rfl, rfl, rfl, rfl, rfl⟩
  | cons move rest ih =>
    obtain ⟨first, pays, left, lost, given, taken⟩ := lawful.bills move
    obtain ⟨others, paysToo, leftToo, lostToo, givenToo, takenToo⟩ := ih (lawful.step move)
    refine ⟨first.plus others, pays.trans paysToo, ?_, ?_, ?_, ?_⟩
    · simp only [Bill.plus, left, leftToo, tally_cons]
      omega
    · simp only [Bill.plus, lost, lostToo, tally_cons]
    · simp only [Bill.plus, given, givenToo, tally_cons]
    · simp only [Bill.plus, taken, takenToo, tally_cons]

/-- A run pays nothing beyond the counters for drops if it drops no waiting call. -/
theorem tally_drops {moves : List (Move α)}
    (none : ∀ before id, (before, .drop id) ∈ session.trail moves → before.waiting? id = none) :
    session.tally forwards moves = 0 ∧ session.tally withdraws moves = 0 := by
  have stays : ∀ before move, (before, move) ∈ session.trail moves →
      before.departure? move = Option.none := by
    intro before move made
    cases move with
    | request | start | poll | overwrite => rfl
    | drop id =>
      rw [departure?, none before id made]
      rfl
  exact ⟨tally_eq_zero fun before move made => by rw [forwards, stays before move made]; rfl,
    tally_eq_zero fun before move made => by rw [withdraws, stays before move made]; rfl⟩

/-- Nobody meets on a bus that never had a rendezvous channel. -/
theorem tally_meets {config : Config} {moves : List (Move α)}
    (plain : ∀ channel ∈ ((new config : Session α).run moves).bus.known, channel.capacity ≠ 0)
    (side : Side) : (new config : Session α).tally (meets side) moves = 0 := by
  have paired := (paired_new config : (new config : Session α).Paired []).run moves
  rw [List.nil_append] at paired
  have nobody : (new config : Session α).transfers moves = [] := by
    refine List.eq_nil_iff_forall_not_mem.mpr fun transfer member => ?_
    obtain ⟨met, _⟩ := paired.dealt member side
    obtain ⟨channel, named, capacity⟩ := Option.map_eq_some_iff.mp met
    exact plain channel (List.mem_of_find?_eq_some named) capacity
  refine tally_eq_zero fun before move made => ?_
  have none : before.transfersAt move (before.step move).bus = [] :=
    List.flatMap_eq_nil_iff.mp nobody (before, move) made
  rw [meets, none]
  rfl

/-- Every suspension of a run is still queued on an open channel, or was counted as a wakeup, or its
wait left the queue because a task was dropped: the task itself, or one that passed its wakeup on.
So if no waiting call is dropped, the suspensions exceed the wakeups by the queued waits. -/
theorem suspensions_balance {config : Config} (telemetry : config.telemetry = true)
    (moves : List (Move α)) :
    let first : Session α := new config
    let last := first.run moves
    last.bus.stats.suspensions = last.bus.stats.wakeups + first.tally forwards moves +
        first.tally withdraws moves + last.bus.queued ∧
      ((∀ before id, (before, .drop id) ∈ first.trail moves → before.waiting? id = none) →
        last.bus.stats.suspensions = last.bus.stats.wakeups + last.bus.queued) := by
  intro first last
  obtain ⟨bill, pays, left, _⟩ := (lawful_new config : first.Lawful).billsRun moves
  replace left : bill.left = first.tally forwards moves + first.tally withdraws moves := left
  have stats : last.bus.stats = bill.charge {} := pays.counted telemetry
  have queued : last.bus.queued + bill.woken + bill.left = 0 + bill.parked := pays.queued
  have suspended : last.bus.stats.suspensions = bill.parked := by simp [stats, Bill.charge]
  have woken : last.bus.stats.wakeups = bill.woken := by simp [stats, Bill.charge]
  refine ⟨by omega, fun none => ?_⟩
  obtain ⟨noForwards, noWithdrawals⟩ :
      first.tally forwards moves = 0 ∧ first.tally withdraws moves = 0 := tally_drops none
  omega

end Running

/-- Four senders park on a full channel. The first one is woken and dropped, which wakes the second
one; then the third one is dropped. -/
def droppingMoves : List (Move UInt32) :=
  [.request (.openChannel 1), .request (.trySend ⟨0⟩ 1), .start (.send ⟨0⟩ 2) 1,
    .start (.send ⟨0⟩ 3) 2, .start (.send ⟨0⟩ 4) 3, .start (.send ⟨0⟩ 5) 4,
    .request (.tryReceive ⟨0⟩), .drop 0, .drop 2]

/-- Of four suspensions one was woken, one was forwarded a wakeup, one was withdrawn, and one is
still queued. Before the drops three were queued. -/
theorem suspensions_balance_of_drops :
    let first : Session UInt32 := new {}
    let last := first.run droppingMoves
    let undropped := first.run (droppingMoves.take 7)
    (last.bus.stats.wakeups = 1 ∧ first.tally forwards droppingMoves = 1 ∧
      first.tally withdraws droppingMoves = 1 ∧ last.bus.queued = 1) ∧
    last.bus.stats.suspensions = last.bus.stats.wakeups + first.tally forwards droppingMoves +
      first.tally withdraws droppingMoves + last.bus.queued ∧
    undropped.bus.stats.suspensions = undropped.bus.stats.wakeups + undropped.bus.queued := by
  have telemetry : ({} : Config).telemetry = true := rfl
  refine ⟨by decide +kernel, (suspensions_balance telemetry droppingMoves).1,
    (suspensions_balance telemetry (droppingMoves.take 7)).2 fun before id made => ?_⟩
  obtain ⟨earlier, rest, split, _⟩ := mem_trail _ made
  have member : Move.drop id ∈ droppingMoves.take 7 := split ▸ List.mem_append_right _ (.head _)
  simp [droppingMoves] at member

section Running

variable [Stored α] {session : Session α}

/-- Every value that a run sent is received, buffered in an open channel, or lost with the buffer of
a closed one, apart from those that went from task to task: they are counted on the side of the
call that arrived. So if the bus never had a rendezvous channel, nothing is counted on one side
only. Every channel that was opened and not closed is open. -/
theorem values_balance {config : Config} (telemetry : config.telemetry = true)
    (moves : List (Move α)) :
    let first : Session α := new config
    let last := first.run moves
    last.bus.stats.valuesSent + first.tally (meets .receivers) moves =
        last.bus.stats.valuesReceived + first.tally (meets .senders) moves +
          first.tally loses moves + last.bus.buffered ∧
      last.bus.stats.channelsOpened = last.bus.stats.channelsClosed + last.bus.channelCount ∧
      ((∀ channel ∈ last.bus.known, channel.capacity ≠ 0) →
        last.bus.stats.valuesSent =
          last.bus.stats.valuesReceived + last.bus.buffered + first.tally loses moves) := by
  intro first last
  obtain ⟨bill, pays, _, lost, given, taken⟩ := (lawful_new config : first.Lawful).billsRun moves
  replace lost : bill.discarded = first.tally loses moves := lost
  replace given : bill.given = first.tally (meets .senders) moves := given
  replace taken : bill.taken = first.tally (meets .receivers) moves := taken
  have stats : last.bus.stats = bill.charge {} := pays.counted telemetry
  have buffered : last.bus.buffered + bill.released + bill.discarded = 0 + bill.accepted :=
    pays.buffered
  have channels : last.bus.channelCount + bill.closed = 0 + bill.opened := pays.channels
  have sent : last.bus.stats.valuesSent = bill.accepted + bill.given := by
    simp [stats, Bill.charge]
  have received : last.bus.stats.valuesReceived = bill.released + bill.taken := by
    simp [stats, Bill.charge]
  have opened : last.bus.stats.channelsOpened = bill.opened := by simp [stats, Bill.charge]
  have closed : last.bus.stats.channelsClosed = bill.closed := by simp [stats, Bill.charge]
  refine ⟨by omega, by omega, fun plain => ?_⟩
  have noHandOffs : first.tally (meets .senders) moves = 0 := tally_meets plain .senders
  have noOffers : first.tally (meets .receivers) moves = 0 := tally_meets plain .receivers
  omega

end Running

/-- A rendezvous channel sees a hand-off and a taken offer; a buffered channel is closed with a
value in it, and another one is opened in its place. -/
def tradingMoves : List (Move UInt32) :=
  [.request (.openChannel 2), .request (.openChannel 0), .request (.trySendMany ⟨0⟩ [7, 8]),
    .request (.tryReceive ⟨0⟩), .start (.receive ⟨1⟩) 1, .start (.send ⟨1⟩ 9) 2,
    .start (.send ⟨1⟩ 10) 3, .start (.receive ⟨1⟩) 4, .request (.close ⟨0⟩),
    .request (.openChannel 1), .request (.trySend ⟨0⟩ 11)]

/-- Four values are sent and two received, one is handed over and one taken, one is lost and one is
still buffered. Without the rendezvous channel nothing is counted on one side only. -/
theorem values_balance_of_trade :
    let first : Session UInt32 := new {}
    let last := first.run tradingMoves
    let plain := first.run [.request (.openChannel 2), .request (.trySendMany ⟨0⟩ [7, 8, 9]),
      .request (.tryReceive ⟨0⟩), .request (.openChannel 1), .request (.close ⟨0⟩)]
    (last.bus.stats.valuesSent = 4 ∧ first.tally (meets .receivers) tradingMoves = 1 ∧
      first.tally (meets .senders) tradingMoves = 1 ∧ first.tally loses tradingMoves = 1 ∧
      last.bus.buffered = 1) ∧
    last.bus.stats.valuesSent + first.tally (meets .receivers) tradingMoves =
      last.bus.stats.valuesReceived + first.tally (meets .senders) tradingMoves +
        first.tally loses tradingMoves + last.bus.buffered ∧
    last.bus.stats.channelsOpened = last.bus.stats.channelsClosed + last.bus.channelCount ∧
    plain.bus.stats.valuesSent = plain.bus.stats.valuesReceived + plain.bus.buffered + 1 := by
  have telemetry : ({} : Config).telemetry = true := rfl
  obtain ⟨values, channels, _⟩ := values_balance telemetry tradingMoves
  refine ⟨by decide +kernel, values, channels, ?_⟩
  exact (values_balance (α := UInt32) telemetry _).2.2 (by decide +kernel)

end Session

end ChannelBus
