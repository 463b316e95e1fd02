import ChannelBus.Proofs.Fifo
import ChannelBus.Proofs.Pairing

/-!
# Rendezvous transfers are pairings

On a rendezvous channel nothing is buffered, and nothing can be moved without waiting. Every value
that leaves a sender does so in one transfer, to one receiver on the same channel, and the replies
of both say so, whenever they are polled. `Session.Exchanged` puts together what the accounts of all
calls say about a run.
-/

namespace ChannelBus

variable {α : Type}

namespace Session

variable {session : Session α}

/-- A broadcast that succeeds gives a copy to every open rendezvous channel. -/
theorem Effect.copies {move : Move α} {status : Status α} {after : Bus α}
    (effect : session.Effect move (some status) after) (lawful : session.Lawful) {id : Nat}
    {value : α} {pin : Option Nat} (calls : session.caller? move = some id)
    (called : session.called? move = some (.broadcast value, pin))
    (sent : status.reply? = some (.sent (.ok ()))) {generation : Nat}
    (opened : session.bus.isOpenAs generation = true) (meets : session.bus.Meets generation) :
    ∃ transfer ∈ session.transfersAt move after,
      transfer.sender = id ∧ transfer.generation = generation := by
  have sound := lawful.housed.sound
  have made : session.transfersAt move after =
      session.bus.transfersTo after (session.others id) session.calls.length id := by
    rw [transfersAt, calls]
    rfl
  have within : ∀ waiter suspended, session.others id waiter = some suspended →
      waiter < session.calls.length := fun _ _ waits =>
    lt_of_waiting? (others_eq_some_iff.mp waits).2
  rw [made]
  cases effect with
  | refused | moved | spread => contradiction
  | refreshed => contradiction
  | dropped => contradiction
  | @started call waker progress _ acts =>
    obtain ⟨rfl, rfl⟩ := Prod.mk.inj (Option.some.inj called)
    obtain rfl := Option.some.inj calls
    have all : session.others session.calls.length = session.waiting? :=
      reassign_self session.waiting?_length
    have copied := (acts.passed sound).copies_of_sent sent
    have housed : session.bus.Housed (session.others session.calls.length) := all ▸ lawful.housed
    obtain ⟨each, _, every⟩ := housed.transfersTo_of_copies session.calls.length within copied
    obtain ⟨transfer, member, same⟩ := every generation opened meets
    exact ⟨transfer, member, (each transfer member).2.1, same⟩
  | @settled polled waker suspended parcel reply waits dequeued held happened =>
    obtain ⟨_, calledHere, _⟩ := lawful.called?_poll waits waker
    have everywhere : suspended.call = .broadcast value :=
      congrArg Prod.fst (Option.some.inj (calledHere.symm.trans called))
    obtain ⟨found, heldToo, finds⟩ := (lawful.housed.houses polled suspended waits).parcel
    obtain rfl : parcel = found := Option.some.inj (held.symm.trans heldToo)
    have named := finds.named_of_settled (Call.isSettled_of_settledReply happened)
    rw [everywhere] at named
    contradiction
  | @retried polled waker suspended parcel progress _ waits dequeued held unsettled acts =>
    obtain ⟨_, calledHere, _⟩ := lawful.called?_poll waits waker
    have everywhere : suspended.call = .broadcast value :=
      congrArg Prod.fst (Option.some.inj (calledHere.symm.trans called))
    obtain rfl : polled = id := by
      rw [caller?, waits] at calls
      exact Option.some.inj calls
    have clears := (lawful.housed.houses polled suspended waits).clears_forget sound dequeued
    rw [everywhere] at acts
    have copied := (acts.passed clears.sound).copies_of_sent sent
    have resumed : Bus.Housed _ (session.others polled) := lawful.housed.clears waits clears
    obtain ⟨each, _, every⟩ := resumed.transfersTo_of_copies polled within copied
    rw [← Bus.transfersTo_congr fun _ _ found => lawful.parcel?_of_clears waits clears found]
      at each every
    obtain ⟨transfer, member, same⟩ := every generation
      ((Bus.isOpenAs_of_generations clears.generations generation).trans opened)
      ((clears.stays.meets_iff generation).mpr meets)
    exact ⟨transfer, member, (each transfer member).2.1, same⟩

section Running

variable [Stored α]

/-- A request to move values by way of a rendezvous channel would block. -/
theorem Lawful.reply?_request (lawful : session.Lawful) {handle : Handle} {channel : Channel α}
    (here : session.bus.channel? handle = some channel) (rendezvous : channel.capacity = 0)
    {request : Request α} {call : Call α} (asked : request.call? = some call)
    (reaches : call.handle? = some handle ∨ call.handle? = none) (busy : call.isIdle = false)
    (enabled : session.bus.config.enables call = true) :
    session.reply? (.request request) = some (call.failed .wouldBlock) := by
  have meets : channel.isRendezvous = true := by simp [Channel.isRendezvous, rendezvous]
  rcases reaches with named | everywhere
  · rcases Bus.perform_of_open asked enabled named here with
      ⟨reply, after, moves, _, _⟩ | ⟨_, failed⟩
    · have plain := moves.plain (lawful.housed.sound.of_channel? here) (by simp [named]) busy
      rw [meets] at plain
      contradiction
    · simp [reply?, act, failed, Bus.failing, Outcome.map, Except.toOption, Answer.status?,
        Status.reply?]
  · obtain ⟨value, rfl, rfl⟩ := Request.eq_tryBroadcast asked everywhere
    rcases Bus.perform_tryBroadcast enabled value with ⟨nothing, _⟩ | ⟨_, failed⟩ | ⟨spare, _⟩
    · rw [nothing] at here
      contradiction
    · simp [reply?, act, failed, Bus.failing, Outcome.map, Except.toOption, Answer.status?,
        Status.reply?, Call.failed]
    · have room := spare handle channel here
      simp [Channel.isFull, rendezvous] at room

/-- The next poll of a call through whose parcel a value went ends it. -/
theorem Lawful.reply?_poll (lawful : session.Lawful) {id : Nat} {suspended : Suspended α}
    (waits : session.waiting? id = some suspended) {reply : Reply α}
    (verdict : session.bus.verdict? (.waiting suspended) = some reply) (waker : TaskId) :
    session.reply? (.poll id waker) = some reply := by
  have houses := lawful.housed.houses id suspended waits
  obtain ⟨parcel, held, happened⟩ := Option.bind_eq_some_iff.mp verdict
  have settled := Call.isSettled_of_settledReply happened
  have result : session.reply? (.poll id waker) =
      (session.bus.resume suspended waker).result.status.reply? := by
    simp [reply?, act, waits, Outcome.map]
  have effect := effect_poll lawful waits waker
  rw [result]
  generalize (session.bus.resume suspended waker).result.status = status at effect
  generalize (session.bus.resume suspended waker).bus = after at effect
  cases effect with
  | refreshed waitsHere queued =>
    obtain rfl := Option.some.inj (waits.symm.trans waitsHere)
    have unsettled := houses.unsettled_of_queued lawful.housed.sound queued held
    rw [settled] at unsettled
    contradiction
  | settled waitsHere _ heldHere happenedHere =>
    obtain rfl := Option.some.inj (waits.symm.trans waitsHere)
    obtain rfl := Option.some.inj (held.symm.trans heldHere)
    exact happenedHere.symm.trans happened
  | retried waitsHere _ heldHere unsettled =>
    obtain rfl := Option.some.inj (waits.symm.trans waitsHere)
    obtain rfl := Option.some.inj (held.symm.trans heldHere)
    rw [settled] at unsettled
    contradiction

end Running

/-- What holds of rendezvous channels after some moves and of the transfers on them. -/
structure Exchanged [Stored α] (first : Session α) (moves : List (Move α)) : Prop where
  /-- Nothing is buffered. -/
  unbuffered : ∀ generation, (first.run moves).bus.Meets generation →
    (first.run moves).bus.content generation = []
  /-- No request moves a value while such a channel is open under its handle, or at all if it is a
  broadcast. -/
  blocked : ∀ (handle : Handle) (channel : Channel α) (request : Request α) (call : Call α),
    (first.run moves).bus.channel? handle = some channel → channel.capacity = 0 →
    request.call? = some call → (call.handle? = some handle ∨ call.handle? = none) →
    call.isIdle = false → (first.run moves).bus.config.enables call = true →
    (first.run moves).reply? (.request request) = some (call.failed .wouldBlock)
  /-- A transfer pairs a sender that has the value with a receiver on the same channel. -/
  pairs : ∀ transfer ∈ first.transfers moves,
    (first.run moves).bus.Meets transfer.generation ∧ ∃ sender receiver : Record α,
      (first.run moves).calls[transfer.sender]? = some sender ∧
      (first.run moves).calls[transfer.receiver]? = some receiver ∧
      (sender.call = .broadcast transfer.value ∨
        (sender.pinned = some transfer.generation ∧
          sender.call.offers.head? = some transfer.value)) ∧
      receiver.pinned = some transfer.generation ∧ receiver.call.wants ≠ 0
  /-- A sender on a rendezvous channel takes part in one transfer or in none, and ends with success
  or an error accordingly. -/
  senders : ∀ (id : Nat) (record : Record α) (generation : Nat),
    (first.run moves).calls[id]? = some record → record.pinned = some generation →
    (first.run moves).bus.Meets generation → record.call.offers ≠ [] →
    ((first.transfers moves).filter (·.sender = id) = [] ∧
      ∀ reply, record.status = .ended reply → reply.error?.isSome = true) ∨
    ∃ transfer, (first.transfers moves).filter (·.sender = id) = [transfer] ∧
      ∀ reply, record.status = .ended reply → reply = record.call.sent 1
  /-- So does a receiver, and it ends with the very value of its transfer. -/
  receivers : ∀ (id : Nat) (record : Record α) (generation : Nat),
    (first.run moves).calls[id]? = some record → record.pinned = some generation →
    (first.run moves).bus.Meets generation → record.call.wants ≠ 0 →
    ((first.transfers moves).filter (·.receiver = id) = [] ∧
      ∀ reply, record.status = .ended reply → reply.error?.isSome = true) ∨
    ∃ transfer, (first.transfers moves).filter (·.receiver = id) = [transfer] ∧
      ∀ reply, record.status = .ended reply → reply = record.call.received transfer.value []
  /-- A broadcast sends at most one copy to each channel, and none unless it ends with success. -/
  broadcasts : ∀ (id : Nat) (record : Record α) (value : α),
    (first.run moves).calls[id]? = some record → record.call = .broadcast value →
    (((first.transfers moves).filter (·.sender = id)).map (·.generation)).Nodup ∧
    (record.status ≠ .ended (.sent (.ok ())) → (first.transfers moves).filter (·.sender = id) = [])
  /-- A broadcast that succeeds sends a copy to every rendezvous channel that is open then. -/
  everywhere : ∀ (before : Session α) (move : Move α) (id : Nat) (value : α) (pin : Option Nat),
    (before, move) ∈ first.trail moves → before.caller? move = some id →
    before.called? move = some (.broadcast value, pin) →
    before.reply? move = some (.sent (.ok ())) →
    ∀ generation, before.bus.isOpenAs generation = true → before.bus.Meets generation →
      ∃ transfer ∈ first.transfers moves,
        transfer.sender = id ∧ transfer.generation = generation
  /-- A call that still waits after its transfer ends with success at its next poll, whatever was
  closed or opened in the meantime. -/
  completes : ∀ transfer ∈ first.transfers moves,
    ∀ (side : Side) (record : Record α) (waker : TaskId),
    (first.run moves).calls[transfer.party side]? = some record →
    record.status.suspended?.isSome = true →
    (first.run moves).reply? (.poll (transfer.party side) waker) =
      some (record.call.dealReply transfer.value)

section Exchanging

variable {last : Session α} {history : List (Transfer α)}

/-- Every party of a transfer has a record on its side. -/
theorem Paired.party (paired : last.Paired history) {transfer : Transfer α}
    (member : transfer ∈ history) (side : Side) : ∃ record : Record α,
      last.calls[transfer.party side]? = some record ∧ record.call.side = side ∧
      last.bus.Accounts record (history.filter (·.party side = transfer.party side)) := by
  have within := paired.started transfer member side
  have here := List.getElem?_eq_getElem within
  refine ⟨_, here, ?_⟩
  have sided := paired.sided _ _ here transfer member
  have accounts := paired.accounts _ _ here
  have same : (last.calls[transfer.party side]).call.side = side := by
    generalize (last.calls[transfer.party side]).call.side = other at sided
    cases other <;> cases side <;> first | rfl | exact absurd rfl sided
  rw [same] at accounts
  exact ⟨same, accounts⟩

/-- What a party of a transfer has to do with it. -/
theorem Paired.dealt (paired : last.Paired history) {transfer : Transfer α}
    (member : transfer ∈ history) (side : Side) : last.bus.Meets transfer.generation ∧
      ∃ record : Record α, last.calls[transfer.party side]? = some record ∧
        record.call.side = side ∧
        ((record.call = .broadcast transfer.value ∧
            record.status = .ended (.sent (.ok ()))) ∨
          (record.pinned = some transfer.generation ∧ record.call.Deals transfer.value ∧
            (record.status ≠ .dropped →
              last.bus.verdict? record.status = some (record.call.dealReply transfer.value)))) := by
  obtain ⟨record, here, sameSide, accounts⟩ := paired.party member side
  have inside : transfer ∈ history.filter (·.party side = transfer.party side) :=
    List.mem_filter.mpr ⟨member, decide_eq_true rfl⟩
  generalize history.filter (·.party side = transfer.party side) = share at accounts inside
  cases accounts with
  | nothing => contradiction
  | once other pinned meets deals settled =>
    obtain rfl := List.mem_singleton.mp inside
    exact ⟨meets, record, here, sameSide, .inr ⟨pinned, deals, settled⟩⟩
  | copies everywhere ended each =>
    obtain ⟨rfl, meets⟩ := each transfer inside
    exact ⟨meets, record, here, sameSide, .inl ⟨everywhere, ended⟩⟩

/-- A call that can only meet a partner takes part in one transfer or in none, and ends
accordingly. -/
theorem Paired.alone (paired : last.Paired history) {id : Nat} {record : Record α}
    {generation : Nat} (here : last.calls[id]? = some record)
    (pinned : record.pinned = some generation) (meets : last.bus.Meets generation)
    (named : record.call.handle?.isSome = true) (busy : record.call.isIdle = false) :
    (history.filter (·.party record.call.side = id) = [] ∧
      ∀ reply, record.status = .ended reply → reply.error?.isSome = true) ∨
    ∃ transfer, history.filter (·.party record.call.side = id) = [transfer] ∧
      ∀ reply, record.status = .ended reply → reply = record.call.dealReply transfer.value := by
  have accounts := paired.accounts id record here
  generalize history.filter (·.party record.call.side = id) = share at accounts
  cases accounts with
  | nothing refused =>
    refine .inl ⟨rfl, fun reply ended => refused reply ?_ (.inr ⟨busy, generation, pinned, meets⟩)⟩
    rw [ended]
    rfl
  | once transfer _ _ _ settled =>
    refine .inr ⟨transfer, rfl, fun reply ended => ?_⟩
    have verdict := settled (by rw [ended]; nofun)
    rw [ended] at verdict
    exact Option.some.inj verdict
  | copies everywhere =>
    rw [everywhere] at named
    contradiction

/-- A broadcast sends at most one copy to each channel, and none unless it has succeeded. -/
theorem Paired.copied (paired : last.Paired history) {id : Nat} {record : Record α} {value : α}
    (here : last.calls[id]? = some record) (everywhere : record.call = .broadcast value) :
    ((history.filter (·.sender = id)).map (·.generation)).Nodup ∧
      (record.status ≠ .ended (.sent (.ok ())) → history.filter (·.sender = id) = []) := by
  have accounts := paired.accounts id record here
  have side : record.call.side = .senders := by rw [everywhere]; rfl
  rw [side] at accounts
  change last.bus.Accounts record (history.filter (·.sender = id)) at accounts
  generalize history.filter (·.sender = id) = share at accounts
  cases accounts with
  | nothing => exact ⟨List.nodup_nil, fun _ => rfl⟩
  | once transfer _ _ deals =>
    rw [everywhere] at deals
    exact absurd deals.named (by simp [Call.handle?])
  | copies _ ended _ distinct => exact ⟨distinct, fun unsent => absurd ended unsent⟩

end Exchanging

/-- Every value that leaves a sender on a rendezvous channel goes to one receiver on that channel,
exactly once, and both are told so. -/
theorem rendezvous_exactly_once [Stored α] (config : Config) (moves : List (Move α)) :
    (new config : Session α).Exchanged moves := by
  have paired := (paired_new config : (new config : Session α).Paired []).run moves
  rw [List.nil_append] at paired
  have lawful := paired.lawful
  refine ⟨fun generation meets => lawful.housed.sound.content_of_rendezvous meets,
    fun handle channel request call here rendezvous asked reaches busy enabled =>
      lawful.reply?_request here rendezvous asked reaches busy enabled,
    fun transfer member => ?_, fun id record generation here pinned meets given => ?_,
    fun id record generation here pinned meets wants => ?_,
    fun id record value here everywhere => paired.copied here everywhere,
    fun before move id value pin made calls called sent generation opened meets => ?_,
    fun transfer member side record waker here waits => ?_⟩
  · obtain ⟨meets, sender, senderHere, senderSide, gave⟩ := paired.dealt member .senders
    obtain ⟨_, receiver, receiverHere, receiverSide, got⟩ := paired.dealt member .receivers
    refine ⟨meets, sender, receiver, senderHere, receiverHere, ?_, ?_⟩
    · rcases gave with ⟨everywhere, _⟩ | ⟨pinned, deals, _⟩
      · exact .inl everywhere
      · exact .inr ⟨pinned, by simpa [Call.Deals, senderSide] using deals⟩
    · rcases got with ⟨everywhere, _⟩ | ⟨pinned, deals, _⟩
      · rw [everywhere] at receiverSide
        contradiction
      · exact ⟨pinned, by simpa [Call.Deals, receiverSide] using deals⟩
  · obtain ⟨side, named⟩ := Call.side_of_offers given
    have alone := paired.alone here pinned meets named (Call.isIdle_of_offers given)
    simpa [side, Call.dealReply, Transfer.party] using alone
  · obtain ⟨side, named⟩ := Call.side_of_wants wants
    have alone := paired.alone here pinned meets named (Call.isIdle_of_wants wants)
    simpa [side, Call.dealReply, Transfer.party] using alone
  · obtain ⟨earlier, rest, rfl, rfl⟩ := mem_trail _ made
    obtain ⟨status, result, ended⟩ := Option.bind_eq_some_iff.mp sent
    have effect := effect ((lawful_new config).run earlier) move
    rw [result] at effect
    obtain ⟨transfer, member, same⟩ :=
      effect.copies ((lawful_new config).run earlier) calls called ended opened meets
    refine ⟨transfer, ?_, same⟩
    exact List.mem_flatMap.mpr ⟨_, made, member⟩
  · obtain ⟨_, party, partyHere, _, dealt⟩ := paired.dealt member side
    obtain rfl := Option.some.inj (here.symm.trans partyHere)
    obtain ⟨suspended, waiting⟩ := Option.isSome_iff_exists.mp waits
    have waitsHere := (waiting?_of_record here).trans waiting
    have status := status_of_waiting? here waitsHere
    rcases dealt with ⟨_, ended⟩ | ⟨_, _, settled⟩
    · rw [status] at ended
      contradiction
    · have verdict := settled (by simp [status])
      rw [status] at verdict
      exact lawful.reply?_poll waitsHere verdict waker

/-- A receiver gets a value, and before it is polled the channel is closed and another one opened
in its place. -/
def reopenedMoves : List (Move UInt32) :=
  [.request (.openChannel 0), .start (.receive ⟨0⟩) 1, .start (.send ⟨0⟩ 7) 2,
    .request (.close ⟨0⟩), .request (.openChannel 0), .start (.receive ⟨0⟩) 3]

/-- The value of the one transfer is what the receiver gets at its next poll, and the channel that
was opened later would block. -/
theorem rendezvous_exactly_once_of_reopened :
    let first : Session UInt32 := new {}
    let last := first.run reopenedMoves
    first.transfers reopenedMoves = [⟨0, 7, 1, 0⟩] ∧
      last.bus.channel? ⟨0⟩ =
        some ⟨0, 1, [], .new, ⟨[⟨0, some 3, .empty⟩], [], 1⟩⟩ ∧
      last.reply? (.request (.trySend ⟨0⟩ 8)) = some (.sent (.error .wouldBlock)) ∧
      last.reply? (.poll 0 4) = some (.received (.ok 7)) := by
  have exchanged := rendezvous_exactly_once (α := UInt32) {} reopenedMoves
  refine ⟨rfl, rfl, ?_, ?_⟩
  · exact exchanged.blocked ⟨0⟩ ⟨0, 1, [], .new, ⟨[⟨0, some 3, .empty⟩], [], 1⟩⟩ (.trySend ⟨0⟩ 8)
      (.send ⟨0⟩ 8) rfl rfl rfl (.inl rfl) rfl rfl
  · exact exchanged.completes ⟨0, 7, 1, 0⟩ (List.mem_of_getElem? (i := 0) rfl) .receivers
      ⟨.receive ⟨0⟩, some 0, .waiting ⟨.receive ⟨0⟩, ⟨⟨0⟩, 0, .receivers, 0⟩⟩⟩ 4 rfl rfl

end Session

end ChannelBus
