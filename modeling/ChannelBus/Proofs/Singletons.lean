import ChannelBus.Proofs.Batching
import ChannelBus.Proofs.Counters
import Mathlib.Data.List.Forall2

/-!
# Batches of one

Sending a value and sending a batch of that one value do the same, and so do receiving a value and
receiving a batch of at most one. Two sessions that differ only in this stay alike
(`Session.Alike`): the same bus, the same error slot, and the same calls in the same places, except
that a batch is answered with a number or a list. What differs is one line of the log, which only a
single call writes when it tries again.
-/

namespace ChannelBus

variable {α β γ δ : Type}

/-! ## A call and its batch -/

/-- Whether a call moves a single value through one channel. -/
def Call.isSingle : Call α → Bool
  | .send _ _ | .receive _ => true
  | .sendMany _ _ | .receiveMany _ _ | .broadcast _ => false

/-- The batch that a single call amounts to. -/
def Call.inBatch : Call α → Call α
  | .send handle value => .sendMany handle [value]
  | .receive handle => .receiveMany handle 1
  | call => call

/-- The reply to a batch of one in place of the reply to a single call. -/
def Reply.inBatch : Reply α → Reply α
  | .sent result => .sentFirst result
  | .received result => .receivedOne result
  | reply => reply

/-- A parked batch in place of a single call. -/
def Suspended.inBatch (suspended : Suspended α) : Suspended α :=
  { suspended with call := suspended.call.inBatch }

/-- What a poll of a batch leads to in place of a single call. -/
def Progress.inBatch : Progress α → Progress α
  | .finished reply => .finished reply.inBatch
  | .parked suspended => .parked suspended.inBatch

/-- Where a batch stands in place of a single call. -/
def Status.inBatch : Status α → Status α
  | .waiting suspended => .waiting suspended.inBatch
  | .ended reply => .ended reply.inBatch
  | .dropped => .dropped

/-- The record of a batch in place of a single call. -/
def Record.inBatch (record : Record α) : Record α :=
  { record with call := record.call.inBatch, status := record.status.inBatch }

/-- A batch stands where its latest poll leaves it. -/
theorem Progress.status_inBatch (progress : Progress α) :
    progress.inBatch.status = progress.status.inBatch := by
  cases progress <;> rfl

/-- A batch names the handle of its call. -/
@[simp] theorem Call.handle?_inBatch (call : Call α) : call.inBatch.handle? = call.handle? := by
  cases call <;> rfl

/-- The wait of a batch. -/
theorem Status.suspended?_inBatch (status : Status α) :
    status.inBatch.suspended? = status.suspended?.map Suspended.inBatch := by
  cases status <;> rfl

/-- A notice that stands for nothing but a line of the log about a call that tries again. -/
def Notice.isRetry : Notice → Bool
  | .senderRetrying _ | .receiverRetrying _ => true
  | _ => false

/-- Two outcomes that differ at most in the answer and in the notices of calls that try again. -/
structure Outcome.Alike (outcome other : Outcome α β) (change : β → β) : Prop where
  /-- The answer of the second. -/
  result : other.result = change outcome.result
  /-- They leave the same bus. -/
  bus : other.bus = outcome.bus
  /-- They tell the same. -/
  notices : other.notices.filter (!·.isRetry) = outcome.notices.filter (!·.isRetry)

/-- Equal outcomes are alike, but for the answer. -/
theorem Outcome.alike_of_eq {outcome other : Outcome α β} {change : β → β}
    (same : other = outcome.map change) : outcome.Alike other change := by
  subst same
  exact ⟨rfl, rfl, rfl⟩

/-- A line of the log about a call that tries again makes no difference. -/
theorem Outcome.alike_of_retry {outcome other : Outcome α β} {change : β → β} {notice : Notice}
    (same : other = outcome.map change) (retry : notice.isRetry = true) :
    (outcome.after [notice]).Alike other change := by
  subst same
  refine ⟨rfl, rfl, ?_⟩
  change _ = (notice :: outcome.notices).filter (!·.isRetry)
  rw [List.filter_cons_of_neg (by simp [retry])]
  rfl

/-- Going on after a change of the answer. -/
theorem Outcome.map_andThen (first : Outcome α β) (change : β → γ)
    (next : γ → Bus α → Outcome α δ) : (first.map change).andThen next =
      first.andThen fun result bus => next (change result) bus := rfl

/-- Changing the answer of what follows. -/
theorem Outcome.andThen_map (first : Outcome α β) (next : β → Bus α → Outcome α γ)
    (change : γ → δ) : (first.andThen next).map change =
      first.andThen fun result bus => (next result bus).map change := rfl

namespace Bus

section Pairs

variable {bus : Bus α} {handle : Handle} {channel : Channel α}

/-- Pushing a batch of one value is pushing the value. -/
theorem pushMany_singleton (bus : Bus α) (handle : Handle) (generation : Option Nat) (value : α) :
    bus.pushMany handle generation [value] =
      (bus.push handle generation value).map (·.map fun _ => 1) := by
  cases found : bus.lookup handle generation with
  | none =>
    simp only [push, pushMany, found]
    rfl
  | some channel =>
    rw [push_eq found, pushMany_eq found (List.cons_ne_nil value [])]
    cases full : channel.isFull with
    | true =>
      rw [if_pos (Channel.fitting_of_full full [value]), if_pos rfl]
      rfl
    | false =>
      rw [Channel.fitting_singleton full, if_neg (List.cons_ne_nil value []),
        if_neg Bool.false_ne_true]
      rfl

/-- Popping a batch of at most one value is popping a value. -/
theorem popMany_one (bus : Bus α) (handle : Handle) (generation : Option Nat) :
    bus.popMany handle generation 1 = (bus.pop handle generation).map (·.map ([·])) := by
  cases found : bus.lookup handle generation with
  | none =>
    simp only [pop, popMany, found]
    rfl
  | some channel =>
    rw [pop_eq found, popMany_eq found Nat.one_ne_zero]
    cases held : channel.buffer with
    | nil =>
      have nothing : channel.oldest 1 = [] := by rw [Channel.oldest, held, List.take_nil]
      rw [if_pos nothing, nothing]
      rfl
    | cons value rest =>
      have first : channel.oldest 1 = [value] := by rw [Channel.oldest, held, List.take_one]; rfl
      rw [first, if_neg (List.cons_ne_nil value [])]
      rfl

/-- The offer of a batch of one is that of its value. -/
theorem offer_inBatch (bus : Bus α) (handle : Handle) (generation : Nat) (value : α)
    (waker : TaskId) :
    bus.offer handle generation value waker (.sendMany handle [value]) .sentFirst =
      (bus.offer handle generation value waker (.send handle value) .sent).map
        Progress.inBatch := by
  unfold offer
  cases bus.pinned? handle generation with
  | none => rfl
  | some channel =>
    cases handed : channel.handOff value with
    | none =>
      simp only [handed]
      rfl
    | some outcome =>
      simp only [handed]
      rfl

/-- A batch receiver of at most one value looks for an offer like a single one. -/
theorem await_inBatch (bus : Bus α) (handle : Handle) (generation : Nat) (waker : TaskId) :
    bus.await handle generation waker (.receiveMany handle 1) .receivedOne =
      (bus.await handle generation waker (.receive handle) .received).map Progress.inBatch := by
  unfold await
  cases bus.pinned? handle generation with
  | none => rfl
  | some channel =>
    cases taken : channel.takeOffer with
    | none =>
      simp only [taken]
      rfl
    | some outcome =>
      simp only [taken]
      rfl

/-- An attempt of a batch of one is an attempt of its single call. -/
theorem attempt_inBatch (bus : Bus α) (generation : Nat) (waker : TaskId) {call : Call α}
    (single : call.isSingle = true) : bus.attempt generation waker call.inBatch =
      (bus.attempt generation waker call).map Progress.inBatch := by
  cases call with
  | sendMany | receiveMany | broadcast => contradiction
  | send handle value =>
    simp only [attempt, Call.inBatch, sendManyOnce, sendOnce, pushMany_singleton,
      Outcome.map_andThen, Outcome.andThen_map]
    congr 1
    funext result after
    cases result with
    | ok _ => rfl
    | error error =>
      cases error with
      | noChannel | notImplemented => rfl
      | wouldBlock => exact after.offer_inBatch handle generation value waker
  | receive handle =>
    simp only [attempt, Call.inBatch, receiveManyOnce, receiveOnce, popMany_one,
      Outcome.map_andThen, Outcome.andThen_map]
    congr 1
    funext result after
    cases result with
    | ok _ => rfl
    | error error =>
      cases error with
      | noChannel | notImplemented => rfl
      | wouldBlock => exact after.await_inBatch handle generation waker

/-- The first poll of a batch of one is the first poll of its single call. -/
theorem start_inBatch (enabled : bus.config.batch = true) {call : Call α}
    (single : call.isSingle = true) (waker : TaskId) : bus.start call.inBatch waker =
      (bus.start call waker).map Progress.inBatch := by
  cases call with
  | sendMany | receiveMany | broadcast => contradiction
  | send handle value =>
    simp only [start, Call.inBatch, ensuring, enabled, if_true, pinning]
    cases bus.channel? handle with
    | none => rfl
    | some channel => exact bus.attempt_inBatch channel.generation waker single
  | receive handle =>
    simp only [start, Call.inBatch, ensuring, enabled, if_true, pinning]
    cases bus.channel? handle with
    | none => rfl
    | some channel => exact bus.attempt_inBatch channel.generation waker single

/-- A batch of one goes on like its single call, whatever it finds on its wait. A single sender
takes its value back from the wait and a batch has kept it; that is the same value. -/
theorem wakeUp_inBatch (bus : Bus α) {suspended : Suspended α} {parcel : Parcel α}
    (single : suspended.call.isSingle = true) (finds : suspended.call.Finds parcel)
    (waker : TaskId) : (bus.wakeUp suspended parcel waker).Alike
      (bus.wakeUp suspended.inBatch parcel waker) Progress.inBatch := by
  obtain ⟨call, ticket⟩ := suspended
  cases call with
  | sendMany | receiveMany | broadcast => contradiction
  | send handle value =>
    have again := bus.attempt_inBatch ticket.generation waker single
    cases finds with
    | empty wants => exact absurd rfl wants
    | delivered other wants => exact absurd rfl wants
    | unpinned everywhere => contradiction
    | taken offers => exact ⟨rfl, rfl, rfl⟩
    | offered offers =>
      obtain ⟨rfl, _⟩ := List.cons.inj offers
      exact Outcome.alike_of_retry again rfl
  | receive handle =>
    have again := bus.attempt_inBatch ticket.generation waker single
    cases finds with
    | taken offers => contradiction
    | offered offers => contradiction
    | unpinned everywhere => contradiction
    | delivered value wants => exact ⟨rfl, rfl, rfl⟩
    | empty wants =>
      exact Outcome.alike_of_retry again rfl

/-- A later poll of a batch of one is a later poll of its single call. -/
theorem resume_inBatch (sound : bus.Sound) {suspended : Suspended α}
    (houses : bus.Houses suspended) (single : suspended.call.isSingle = true) (waker : TaskId) :
    (bus.resume suspended waker).Alike (bus.resume suspended.inBatch waker)
      Progress.inBatch := by
  cases queued : (bus.ticketQueue suspended.ticket).holds suspended.ticket.key with
  | true =>
    have queuedBatch : (bus.ticketQueue suspended.inBatch.ticket).holds
        suspended.inBatch.ticket.key = true := queued
    rw [resume_of_queued queued, resume_of_queued queuedBatch]
    exact ⟨rfl, rfl, rfl⟩
  | false =>
    have queuedBatch : (bus.ticketQueue suspended.inBatch.ticket).holds
        suspended.inBatch.ticket.key = false := queued
    obtain ⟨parcel, held, finds⟩ := houses.parcel
    have lies := (houses.parcel?_ticketQueue sound).trans held
    have liesBatch : (bus.ticketQueue suspended.inBatch.ticket).parcel?
        suspended.inBatch.ticket.key = some parcel := lies
    rw [resume_of_dequeued queued lies, resume_of_dequeued queuedBatch liesBatch]
    exact wakeUp_inBatch _ single finds waker

end Pairs

end Bus

/-! ## Sessions that differ in batches of one -/

/-- The same move, or the start of a batch in place of a single call. -/
inductive Move.Like : Move α → Move α → Prop where
  /-- The same move. -/
  | same (move : Move α) : Like move move
  /-- A batch of one is started in place of a single call. -/
  | batched {call : Call α} (single : call.isSingle = true) (waker : TaskId) :
    Like (.start call waker) (.start call.inBatch waker)

/-- The same record, or that of a batch in place of a single call. -/
inductive Record.Like : Record α → Record α → Prop where
  /-- The same record. -/
  | same (record : Record α) : Like record record
  /-- The record of a batch of one in place of that of a single call. -/
  | batched {record : Record α} (single : record.call.isSingle = true) :
    Like record record.inBatch

/-- What a move writes into the error slot by hand. -/
def Move.code? : Move α → Option ErrorCode
  | .overwrite code => some code
  | .request _ | .start _ _ | .poll _ _ | .drop _ => none

namespace Session

/-- Two sessions that differ only in that some single calls of the first are batches of one in the
second. -/
structure Alike (session other : Session α) : Prop where
  /-- The buses are the same: channels, queues, parcels and counters. -/
  bus : other.bus = session.bus
  /-- The error slot is the same. -/
  lastError : other.lastError = session.lastError
  /-- Every call stands where its counterpart stands. -/
  calls : List.Forall₂ Record.Like session.calls other.calls

section Alike

variable {session other : Session α}

/-- Every call has a counterpart. -/
theorem Alike.record (alike : session.Alike other) {id : Nat} {record : Record α}
    (here : session.calls[id]? = some record) :
    ∃ counterpart, other.calls[id]? = some counterpart ∧ record.Like counterpart := by
  obtain ⟨before, same⟩ := List.getElem?_eq_some_iff.mp here
  have inside : id < other.calls.length := alike.calls.length_eq ▸ before
  have like := alike.calls.get before inside
  refine ⟨other.calls[id], List.getElem?_eq_getElem inside, ?_⟩
  rw [← same]
  exact like

/-- If a call does not wait, neither does its counterpart. -/
theorem Alike.idle (alike : session.Alike other) {id : Nat} (idle : session.waiting? id = none) :
    other.waiting? id = none := by
  cases here : session.calls[id]? with
  | none =>
    have beyond := List.getElem?_eq_none_iff.mp here
    rw [alike.calls.length_eq] at beyond
    rw [waiting?, List.getElem?_eq_none_iff.mpr beyond]
    rfl
  | some record =>
    rw [waiting?, here, Option.bind_some] at idle
    obtain ⟨counterpart, there, like⟩ := alike.record here
    rw [waiting?, there, Option.bind_some]
    cases like with
    | same => exact idle
    | batched single =>
      rw [Record.inBatch, Status.suspended?_inBatch, idle]
      rfl

/-- If a call waits, so does its counterpart, at the same place. -/
theorem Alike.waiting (alike : session.Alike other) (lawful : session.Lawful) {id : Nat}
    {suspended : Suspended α} (waits : session.waiting? id = some suspended) :
    ∃ record, session.calls[id]? = some record ∧
      ((other.calls[id]? = some record ∧ other.waiting? id = some suspended) ∨
        (record.call.isSingle = true ∧ suspended.call.isSingle = true ∧
          other.calls[id]? = some record.inBatch ∧
          other.waiting? id = some suspended.inBatch)) := by
  obtain ⟨record, here, status⟩ := record_of_waiting? waits
  obtain ⟨counterpart, there, like⟩ := alike.record here
  refine ⟨record, here, ?_⟩
  cases like with
  | same =>
    refine .inl ⟨there, ?_⟩
    rw [waiting?, there, Option.bind_some, status]
    rfl
  | batched single =>
    have keeps := lawful.recorded id record suspended here status
    refine .inr ⟨single, keeps.call ▸ single, there, ?_⟩
    rw [waiting?, there, Option.bind_some, Record.inBatch, Status.suspended?_inBatch, status]
    rfl

/-- The settings of a bus never change. -/
theorem Lawful.config_step [Stored α] (lawful : session.Lawful) (move : Move α) :
    (session.step move).bus.config = session.bus.config := by
  obtain ⟨bill, bills⟩ := lawful.bills move
  exact bills.pays.config

/-- Lines of the log about calls that try again do not touch the error slot. -/
theorem afterHearing_filter (code : ErrorCode) (notices : List Notice) :
    code.afterHearing (notices.filter (!·.isRetry)) = code.afterHearing notices := by
  induction notices generalizing code with
  | nil => rfl
  | cons notice rest ih =>
    cases retry : notice.isRetry with
    | false =>
      rw [List.filter_cons_of_pos (by simp [retry])]
      exact ih _
    | true =>
      rw [List.filter_cons_of_neg (by simp [retry]), ih]
      cases notice <;> first | rfl | contradiction

/-- Lines of the log about calls that try again wake nobody. -/
theorem wakes?_filter (notices : List Notice) :
    (notices.filter (!·.isRetry)).filterMap Notice.wakes? = notices.filterMap Notice.wakes? := by
  rw [List.filterMap_filter]
  refine List.filterMap_congr fun notice _ => ?_
  cases notice <;> rfl

/-- Moves of two sessions that differ only in batches of one. -/
structure Parallel [Stored α] (session other : Session α) (move counterpart : Move α) :
    Prop where
  /-- The same call makes them, if one does. -/
  caller : other.caller? counterpart = session.caller? move
  /-- They tell the same, but for the lines of the log about calls that try again. -/
  notices : (other.act counterpart).notices.filter (!·.isRetry) =
    (session.act move).notices.filter (!·.isRetry)
  /-- They wake the same tasks in the same order. -/
  wakes : other.wakes counterpart = session.wakes move
  /-- The sessions stay alike. -/
  after : (session.step move).Alike (other.step counterpart)

/-- The error slot after a move. -/
theorem lastError_step [Stored α] (session : Session α) (move : Move α) :
    (session.step move).lastError =
      move.code?.getD (session.lastError.afterHearing (session.act move).notices) := by
  cases move <;> rfl

/-- Moves are parallel if they leave the same bus and tell the same, and their calls are alike. -/
theorem parallel_of_act [Stored α] {move counterpart : Move α}
    {change : Option (Status α) → Option (Status α)} (alike : session.Alike other)
    (acts : (session.act move).Alike (other.act counterpart) change)
    (caller : other.caller? counterpart = session.caller? move)
    (code : counterpart.code? = move.code?)
    (calls : List.Forall₂ Record.Like (session.recording move (session.act move).result)
      (other.recording counterpart (change (session.act move).result))) :
    session.Parallel other move counterpart := by
  have slot : (other.step counterpart).lastError = (session.step move).lastError := by
    rw [lastError_step, lastError_step, code, alike.lastError, ← afterHearing_filter,
      acts.notices, afterHearing_filter]
  have recorded : List.Forall₂ Record.Like (session.step move).calls
      (other.step counterpart).calls := by
    rw [← acts.result] at calls
    exact calls
  refine ⟨caller, acts.notices, ?_, acts.bus, slot, recorded⟩
  rw [wakes, wakes, ← wakes?_filter, acts.notices, wakes?_filter]

/-- Alike calls stay alike when one of them and its counterpart move to alike places. -/
theorem forall₂_modify {calls others : List (Record α)}
    (alike : List.Forall₂ Record.Like calls others) (id : Nat)
    {change changeOther : Record α → Record α}
    (here : ∀ record counterpart, calls[id]? = some record → others[id]? = some counterpart →
      (change record).Like (changeOther counterpart)) :
    List.Forall₂ Record.Like (calls.modify id change) (others.modify id changeOther) := by
  induction alike generalizing id with
  | nil =>
    rw [List.modify_nil, List.modify_nil]
    exact .nil
  | cons like rest ih =>
    cases id with
    | zero => exact .cons (here _ _ rfl rfl) rest
    | succ id => exact .cons like (ih id here)

/-- A call is started on the same channel in alike sessions. -/
theorem Alike.pin? (alike : session.Alike other) (call : Call α) :
    other.pin? call = session.pin? call := by
  rw [Session.pin?, Session.pin?, alike.bus]

/-- Calls are numbered alike in alike sessions. -/
theorem Alike.caller?_start (alike : session.Alike other) (call counterpart : Call α)
    (waker : TaskId) :
    other.caller? (.start counterpart waker) = session.caller? (.start call waker) :=
  congrArg some alike.calls.length_eq.symm

/-- A batch of one is started in parallel to its single call. -/
theorem Alike.parallel_inBatch [Stored α] (alike : session.Alike other)
    (enabled : session.bus.config.batch = true) {call : Call α} (single : call.isSingle = true)
    (waker : TaskId) : session.Parallel other (.start call waker) (.start call.inBatch waker) := by
  have started := session.bus.start_inBatch enabled single waker
  have acts : (session.act (.start call waker)).Alike (other.act (.start call.inBatch waker))
      (Option.map Status.inBatch) := by
    apply Outcome.alike_of_eq
    simp only [act, alike.bus, started, Outcome.map, Progress.status_inBatch, Option.map_some]
  refine parallel_of_act alike acts (alike.caller?_start call call.inBatch waker) rfl ?_
  refine List.rel_append alike.calls (.cons ?_ .nil)
  have pin : session.pin? call.inBatch = session.pin? call := by
    rw [Session.pin?, Session.pin?, Call.handle?_inBatch]
  rw [alike.pin?, pin]
  exact .batched single

/-- A move is made in parallel on a call that is its own counterpart. -/
theorem Alike.parallel_target [Stored α] (alike : session.Alike other) {move : Move α} {id : Nat}
    (targets : move.target? = some id) (waits : other.waiting? id = session.waiting? id)
    (same : ∀ record counterpart, session.calls[id]? = some record →
      other.calls[id]? = some counterpart → (session.waiting? id).isSome = true →
      counterpart = record) : session.Parallel other move move := by
  have outcome : other.act move = session.act move := by
    cases move with
    | request | start | overwrite => contradiction
    | poll target waker | drop target =>
      obtain rfl := Option.some.inj targets
      rw [act, act, waits, alike.bus]
  have acts : (session.act move).Alike (other.act move) fun status => status :=
    Outcome.alike_of_eq outcome
  refine parallel_of_act alike acts ?_ rfl ?_
  · cases move with
    | request | start | overwrite => contradiction
    | poll target waker | drop target =>
      obtain rfl := Option.some.inj targets
      rw [caller?, caller?, waits]
  · cases waiting : session.waiting? id with
    | none =>
      have nothing : (session.act move).result = none := by
        cases move with
        | request | start | overwrite => contradiction
        | poll target waker | drop target =>
          obtain rfl := Option.some.inj targets
          simp only [act, waiting]
          rfl
      rw [nothing]
      cases move <;> exact alike.calls
    | some suspended =>
      have moved : ∀ status : Status α, List.Forall₂ Record.Like
          (session.calls.modify id fun record => { record with status })
          (other.calls.modify id fun record => { record with status }) := by
        intro status
        refine forall₂_modify alike.calls id fun record counterpart here there => ?_
        rw [same record counterpart here there (by rw [waiting]; rfl)]
        exact .same _
      cases move with
      | request | start | overwrite => contradiction
      | poll target waker | drop target =>
        obtain rfl := Option.some.inj targets
        simp only [act, waiting]
        exact moved _

/-- A single call that waits moves in parallel to its batch if the moves are alike. -/
theorem Alike.parallel_of_acts [Stored α] (alike : session.Alike other) {move : Move α} {id : Nat}
    {record : Record α} {suspended : Suspended α} (targets : move.target? = some id)
    (here : session.calls[id]? = some record) (single : record.call.isSingle = true)
    (waits : session.waiting? id = some suspended)
    (there : other.calls[id]? = some record.inBatch)
    (waitsThere : other.waiting? id = some suspended.inBatch)
    (acts : (session.act move).Alike (other.act move) (Option.map Status.inBatch)) :
    session.Parallel other move move := by
  have moved : ∀ status : Status α, List.Forall₂ Record.Like
      (session.calls.modify id fun record => { record with status })
      (other.calls.modify id fun record => { record with status := status.inBatch }) := by
    intro status
    refine forall₂_modify alike.calls id fun known counterpart known' there' => ?_
    obtain rfl := Option.some.inj (here.symm.trans known')
    obtain rfl := Option.some.inj (there.symm.trans there')
    exact .batched single
  cases move with
  | request | start | overwrite => contradiction
  | poll target waker | drop target =>
    obtain rfl := Option.some.inj targets
    refine parallel_of_act alike acts ?_ rfl ?_
    · rw [caller?, caller?, waits, waitsThere]
      rfl
    · simp only [act, waits]
      exact moved _

/-- A waiting call moves in parallel to its counterpart if it does so where that is its batch. -/
theorem Alike.parallel_of_inBatch [Stored α] (alike : session.Alike other)
    (lawful : session.Lawful) {move : Move α} {id : Nat} (targets : move.target? = some id)
    (batched : ∀ record suspended, session.calls[id]? = some record →
      record.call.isSingle = true → session.waiting? id = some suspended →
      suspended.call.isSingle = true → other.calls[id]? = some record.inBatch →
      other.waiting? id = some suspended.inBatch → session.Parallel other move move) :
    session.Parallel other move move := by
  cases waits : session.waiting? id with
  | none =>
    refine alike.parallel_target targets ((alike.idle waits).trans waits.symm)
      fun _ _ _ _ waiting => ?_
    rw [waits] at waiting
    contradiction
  | some suspended =>
    obtain ⟨record, here, ⟨there, waitsThere⟩ | ⟨single, singleWait, there, waitsThere⟩⟩ :=
      alike.waiting lawful waits
    -- The counterpart is the call itself, so the same is done to the same bus.
    · refine alike.parallel_target targets (waitsThere.trans waits.symm)
        fun known counterpart known' there' _ => ?_
      rw [here] at known'
      rw [there, known'] at there'
      exact (Option.some.inj there').symm
    · exact batched record suspended here single waits singleWait there waitsThere

/-- Alike sessions go on in parallel. -/
theorem Alike.parallel [Stored α] (alike : session.Alike other) (lawful : session.Lawful)
    (enabled : session.bus.config.batch = true) {move counterpart : Move α}
    (like : move.Like counterpart) : session.Parallel other move counterpart := by
  have same := alike.bus
  cases like with
  | batched single waker => exact alike.parallel_inBatch enabled single waker
  | same =>
    cases move with
    | request request =>
      have acts : (session.act (.request request)).Alike (other.act (.request request)) id := by
        apply Outcome.alike_of_eq
        rw [act, act, same]
        rfl
      exact parallel_of_act alike acts rfl rfl alike.calls
    | overwrite code =>
      have acts : (session.act (.overwrite code)).Alike (other.act (.overwrite code)) id := by
        apply Outcome.alike_of_eq
        rw [act, act, same]
        rfl
      exact parallel_of_act alike acts rfl rfl alike.calls
    | start call waker =>
      have acts : (session.act (.start call waker)).Alike (other.act (.start call waker)) id := by
        apply Outcome.alike_of_eq
        rw [act, act, same]
        rfl
      refine parallel_of_act alike acts (alike.caller?_start call call waker) rfl ?_
      refine List.rel_append alike.calls (.cons ?_ .nil)
      rw [alike.pin?]
      exact .same _
    | poll id waker =>
      refine alike.parallel_of_inBatch lawful rfl
        fun record suspended here single waits singleWait there waitsThere => ?_
      have houses := lawful.housed.houses id suspended waits
      have resumed := Bus.resume_inBatch lawful.housed.sound houses singleWait waker
      refine alike.parallel_of_acts rfl here single waits there waitsThere ?_
      simp only [act, waits, waitsThere, same]
      refine ⟨?_, resumed.bus, resumed.notices⟩
      simp only [Outcome.map, resumed.result, Progress.status_inBatch, Option.map_some]
    | drop id =>
      refine alike.parallel_of_inBatch lawful rfl
        fun record suspended here single waits _ there waitsThere => ?_
      refine alike.parallel_of_acts rfl here single waits there waitsThere ?_
      simp only [act, waits, waitsThere, same]
      exact ⟨rfl, rfl, rfl⟩

/-- Runs that differ only in batches of one leave alike sessions. -/
theorem Alike.run [Stored α] (alike : session.Alike other) (lawful : session.Lawful)
    (enabled : session.bus.config.batch = true) {singles batches : List (Move α)}
    (like : List.Forall₂ Move.Like singles batches) :
    (session.run singles).Alike (other.run batches) ∧
      (session.run singles).bus.config.batch = true := by
  induction like generalizing session other with
  | nil => exact ⟨alike, enabled⟩
  | @cons move counterpart _ _ first _ ih =>
    have parallel := alike.parallel lawful enabled first
    have config := lawful.config_step move
    exact ih parallel.after (lawful.step move) (by rw [config, enabled])

end Alike

/-- Single calls and batches of one are bisimilar. Take any run, and start batches of one in place
of some of its sends and receives. Both runs leave the same bus and the same error slot. Every call
waits at the same place or has ended alike, a batch with one value sent or the list of the value
received, or with the same error. And whatever is done next, in place of a single call perhaps the
start of a batch, the same tasks are woken in the same order and the two stay alike. -/
theorem singletons_bisimilar [Stored α] (config : Config) (enabled : config.batch = true)
    {singles batches : List (Move α)} (like : List.Forall₂ Move.Like singles batches)
    {move counterpart : Move α} (next : move.Like counterpart) :
    let session := (new config).run singles
    let other := (new config).run batches
    session.Alike other ∧ session.Parallel other move counterpart := by
  have lawful : (new config : Session α).Lawful := lawful_new config
  have alike : (new config : Session α).Alike (new config) := ⟨rfl, rfl, .nil⟩
  obtain ⟨after, still⟩ := alike.run lawful enabled like
  exact ⟨after, after.parallel (lawful.run singles) still next⟩

/-- A sender parks, is beaten when it is woken, parks again, and sends its value at its last poll.
A batch of that value does the same and is answered with its length. -/
theorem singletons_bisimilar_of_beaten :
    let others : List (Move UInt32) := [.request (.tryReceive ⟨0⟩), .request (.trySend ⟨0⟩ 7),
      .poll 0 3, .request (.tryReceive ⟨0⟩), .poll 0 3]
    let first : List (Move UInt32) := [.request (.openChannel 1), .request (.trySend ⟨0⟩ 5)]
    let session := (new {}).run (first ++ .start (.send ⟨0⟩ 6) 3 :: others)
    let other := (new {}).run (first ++ .start (.sendMany ⟨0⟩ [6]) 3 :: others)
    other.bus = session.bus ∧
      session.calls.map (·.status.reply?) = [some (.sent (.ok ()))] ∧
      other.calls.map (·.status.reply?) = [some (.sentMany (.ok 1))] ∧
      other.wakes (.start (.receiveMany ⟨0⟩ 1) 4) = session.wakes (.start (.receive ⟨0⟩) 4) := by
  intro others first session other
  have kept : ∀ moves : List (Move UInt32), List.Forall₂ Move.Like moves moves := fun moves =>
    List.forall₂_same.mpr fun move _ => .same move
  have sends : (Move.start (.send ⟨0⟩ (6 : UInt32)) 3).Like (.start (.sendMany ⟨0⟩ [6]) 3) :=
    .batched rfl 3
  have receives : (Move.start (.receive ⟨0⟩ : Call UInt32) 4).Like
    (.start (.receiveMany ⟨0⟩ 1) 4) := .batched rfl 4
  have like := List.rel_append (kept first) (.cons sends (kept others))
  obtain ⟨alike, parallel⟩ := singletons_bisimilar {} rfl like receives
  exact ⟨alike.bus, rfl, rfl, parallel.wakes⟩

end Session

end ChannelBus
