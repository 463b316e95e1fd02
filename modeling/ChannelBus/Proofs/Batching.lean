import ChannelBus.Proofs.Atomicity

/-!
# Batches are iterated single operations

A batch that does not wait first moves all its values and then wakes waits, at most one for each
value; single operations move one value and wake one wait in turn. Both leave the same.
`Bus.untilRefused` does single operations one after the other up to the first that is refused, and
`Bus.Agrees` says of a batch that it does just that in one step.

What a batch leaves is `Bus.accepting` or `Bus.releasing`. The two laws behind the comparison are
that accepting some values and then others is accepting them all (`Channel.acceptMany_append`), and
the same for values released (`Channel.releaseMany_add`).
-/

namespace ChannelBus

variable {α β γ : Type}

/-! ## Moving in two steps or in one -/

namespace WaitQueue

/-- Those at the front are the first of them and then those that come first after waking these. -/
theorem front_add (queue : WaitQueue α) (first second : Nat) :
    queue.front (first + second) = queue.front first ++ (queue.wake first).front second := by
  simp only [front, wake]
  exact List.take_add

/-- Waking in two steps is waking in one. -/
theorem wake_wake (queue : WaitQueue α) (first second : Nat) :
    (queue.wake first).wake second = queue.wake (first + second) := by
  have dropped : (queue.wake first).waiting.drop second = queue.waiting.drop (first + second) :=
    List.drop_drop
  have woken : (queue.woken ++ queue.front first) ++ (queue.wake first).front second =
      queue.woken ++ queue.front (first + second) := by
    rw [front_add, List.append_assoc]
  change WaitQueue.mk ((queue.wake first).waiting.drop second)
    ((queue.woken ++ queue.front first) ++ (queue.wake first).front second) queue.nextKey = _
  rw [dropped, woken]
  rfl

/-- Nobody is woken. -/
theorem wake_zero (queue : WaitQueue α) : queue.wake 0 = queue := by
  simp [wake, front]

end WaitQueue

namespace Channel

/-- Nothing fits into a full buffer. -/
theorem fitting_of_full {channel : Channel α} (full : channel.isFull = true) (values : List α) :
    channel.fitting values = [] := by
  have room : channel.freeSpace = 0 := Nat.sub_eq_zero_of_le (of_decide_eq_true full)
  rw [fitting, room, List.take_zero]

/-- What fits of two lists is what fits of the first, and then what still fits of the second. -/
theorem fitting_append (channel : Channel α) (first second : List α) :
    channel.fitting (first ++ second) =
      channel.fitting first ++ (channel.acceptMany first).2.fitting second := by
  have room : (channel.acceptMany first).2.freeSpace = channel.freeSpace - first.length := by
    have filled : (channel.acceptMany first).2.length =
        channel.length + min channel.freeSpace first.length := by
      simp [length]
    unfold freeSpace at *
    rw [filled, capacity_acceptMany]
    omega
  unfold fitting
  rw [room, List.take_append]

/-- Accepting values and then others is accepting them all, and the same waits are woken in the same
order. -/
theorem acceptMany_append (channel : Channel α) (first second : List α) :
    channel.acceptMany (first ++ second) =
      ((channel.acceptMany first).1 ++ ((channel.acceptMany first).2.acceptMany second).1,
        ((channel.acceptMany first).2.acceptMany second).2) := by
  have count : (channel.fitting (first ++ second)).length = (channel.fitting first).length +
      ((channel.acceptMany first).2.fitting second).length := by
    rw [fitting_append, List.length_append]
  have buffer : channel.buffer ++ channel.fitting (first ++ second) =
      (channel.buffer ++ channel.fitting first) ++ (channel.acceptMany first).2.fitting second := by
    rw [fitting_append, List.append_assoc]
  refine Prod.ext ?_ ?_
  · change channel.receivers.front _ = channel.receivers.front _ ++
      (channel.receivers.wake (channel.fitting first).length).front _
    rw [count, WaitQueue.front_add]
  · change Channel.mk channel.capacity channel.generation
        (channel.buffer ++ channel.fitting (first ++ second)) channel.senders
        (channel.receivers.wake _) =
      Channel.mk channel.capacity channel.generation
        ((channel.buffer ++ channel.fitting first) ++ (channel.acceptMany first).2.fitting second)
        channel.senders ((channel.receivers.wake (channel.fitting first).length).wake _)
    rw [count, buffer, WaitQueue.wake_wake]

/-- The oldest values are the first of them and then those that are oldest without these. -/
theorem oldest_add (channel : Channel α) (first second : Nat) :
    channel.oldest (first + second) =
      channel.oldest first ++ (channel.releaseMany first).2.oldest second := by
  rw [oldest, oldest, oldest, buffer_releaseMany]
  exact List.take_add

/-- Releasing values and then others is releasing them all, and the same waits are woken in the same
order. -/
theorem releaseMany_add (channel : Channel α) (first second : Nat) :
    channel.releaseMany (first + second) =
      ((channel.releaseMany first).1 ++ ((channel.releaseMany first).2.releaseMany second).1,
        ((channel.releaseMany first).2.releaseMany second).2) := by
  have count : (channel.oldest (first + second)).length = (channel.oldest first).length +
      ((channel.releaseMany first).2.oldest second).length := by
    rw [oldest_add, List.length_append]
  have buffer : channel.buffer.drop (first + second) =
      (channel.buffer.drop first).drop second := List.drop_drop.symm
  refine Prod.ext ?_ ?_
  · change channel.senders.front _ = channel.senders.front _ ++
      (channel.senders.wake (channel.oldest first).length).front _
    rw [count, WaitQueue.front_add]
  · change Channel.mk channel.capacity channel.generation (channel.buffer.drop _)
        (channel.senders.wake _) channel.receivers =
      Channel.mk channel.capacity channel.generation ((channel.buffer.drop first).drop second)
        ((channel.senders.wake (channel.oldest first).length).wake _) channel.receivers
    rw [count, buffer, WaitQueue.wake_wake]

/-- A full channel accepts nothing, and nobody is woken. -/
theorem acceptMany_of_unfit {channel : Channel α} {values : List α}
    (unfit : channel.fitting values = []) : channel.acceptMany values = ([], channel) := by
  have queues : channel.receivers.wake 0 = channel.receivers := WaitQueue.wake_zero _
  simp only [acceptMany, pushMany, unfit, List.append_nil, List.length_nil]
  simp only [wake, front, queue, setQueue, queues]
  rfl

/-- An empty channel releases nothing, and nobody is woken. -/
theorem releaseMany_of_none {channel : Channel α} {max : Nat} (none : channel.oldest max = []) :
    channel.releaseMany max = ([], channel) := by
  have queues : channel.senders.wake 0 = channel.senders := WaitQueue.wake_zero _
  have kept := channel.oldest_append_popMany max
  rw [none, List.nil_append] at kept
  have same : channel.popMany max = channel := by
    unfold popMany at *
    simp only at kept
    rw [kept]
  simp only [releaseMany, same, none, List.length_nil]
  simp only [wake, front, queue, setQueue, queues]
  rfl

end Channel

/-- Values received one after the other are counted like values received at once. -/
theorem Stats.countReceived_countReceived (values woken more others : Nat) :
    (Stats.countReceived · more others) ∘ (Stats.countReceived · values woken) =
      (Stats.countReceived · (values + more) (woken + others)) := by
  funext stats
  simp only [Function.comp_apply, Stats.countReceived, Nat.add_assoc]

namespace Bus

/-! ## What a batch leaves -/

/-- What is left when values went into the buffer of a channel. -/
def accepting (bus : Bus α) (handle : Handle) (channel : Channel α) (values : List α)
    (result : β) : Outcome α β :=
  { result
    bus := (bus.setChannel handle (channel.acceptMany values).2).note
      (·.countSent (channel.fitting values).length (channel.acceptMany values).1.length)
    notices := (channel.acceptMany values).1.map (·.wokenNotice) }

/-- What is left when values came out of the buffer of a channel. -/
def releasing (bus : Bus α) (handle : Handle) (channel : Channel α) (max : Nat)
    (result : β) : Outcome α β :=
  { result
    bus := (bus.setChannel handle (channel.releaseMany max).2).note
      (·.countReceived (channel.oldest max).length (channel.releaseMany max).1.length)
    notices := (channel.releaseMany max).1.map (·.wokenNotice) }

section Leaving

variable {bus : Bus α} {handle : Handle} {generation : Option Nat} {channel : Channel α}

/-- A single value is appended if there is room. -/
theorem push_eq (found : bus.lookup handle generation = some channel) (value : α) :
    bus.push handle generation value =
      if channel.isFull then bus.fail .wouldBlock
      else bus.accepting handle channel [value] (.ok ()) := by
  cases full : channel.isFull with
  | true => simp [push, found, Channel.accept_eq, full]
  | false =>
    simp only [push, found, Channel.accept_eq, full, accepting, Channel.fitting_singleton full]
    rfl

/-- Of several values those that fit are appended, if any. -/
theorem pushMany_eq (found : bus.lookup handle generation = some channel) {values : List α}
    (given : values ≠ []) :
    bus.pushMany handle generation values =
      if channel.fitting values = [] then bus.fail .wouldBlock
      else bus.accepting handle channel values (.ok (channel.fitting values).length) := by
  have some : values.isEmpty = false := List.isEmpty_eq_false_iff.mpr given
  simp only [pushMany, found, some, Bool.false_eq_true, if_false, List.length_eq_zero_iff]
  rfl

/-- The oldest value is taken if there is one. -/
theorem pop_eq (found : bus.lookup handle generation = some channel) :
    bus.pop handle generation =
      match channel.oldest 1 with
      | [] => bus.fail .wouldBlock
      | value :: _ => bus.releasing handle channel 1 (.ok value) := by
  cases held : channel.buffer with
  | nil => simp [pop, found, Channel.release_eq, Channel.oldest, held]
  | cons value rest =>
    simp only [pop, found, Channel.release_eq, releasing, Channel.oldest, held]
    rfl

/-- If some are wanted, the oldest values are taken, if there are any. -/
theorem popMany_eq (found : bus.lookup handle generation = some channel) {max : Nat}
    (wanted : max ≠ 0) :
    bus.popMany handle generation max =
      if channel.oldest max = [] then bus.fail .wouldBlock
      else bus.releasing handle channel max (.ok (channel.oldest max)) := by
  simp only [popMany, found, if_neg wanted, List.isEmpty_iff]
  rfl

end Leaving

/-- Only the latest replacement of a channel counts. -/
theorem setChannel_setChannel (bus : Bus α) (handle : Handle) (first second : Channel α) :
    (bus.setChannel handle first).setChannel handle second = bus.setChannel handle second := by
  simp only [setChannel, List.set_set]

/-- Values accepted after others are accepted together with them. -/
theorem accepting_accepting (bus : Bus α) (handle : Handle) (channel : Channel α)
    (first second : List α) (done : γ) (result : β) :
    ((bus.accepting handle channel first done).bus.accepting handle (channel.acceptMany first).2
        second result).after (bus.accepting handle channel first done).notices =
      bus.accepting handle channel (first ++ second) result := by
  unfold accepting Outcome.after
  simp only [setChannel_note, note_note, Stats.countSent_countSent, setChannel_setChannel,
    Channel.acceptMany_append, Channel.fitting_append, List.length_append, List.map_append]

/-- Values released after others are released together with them. -/
theorem releasing_releasing (bus : Bus α) (handle : Handle) (channel : Channel α)
    (first second : Nat) (done : γ) (result : β) :
    ((bus.releasing handle channel first done).bus.releasing handle (channel.releaseMany first).2
        second result).after (bus.releasing handle channel first done).notices =
      bus.releasing handle channel (first + second) result := by
  unfold releasing Outcome.after
  simp only [setChannel_note, note_note, Stats.countReceived_countReceived, setChannel_setChannel,
    Channel.releaseMany_add, Channel.oldest_add, List.length_append, List.map_append]

/-- Nothing happens when nothing fits. -/
theorem accepting_of_unfit {bus : Bus α} {handle : Handle} {channel : Channel α}
    (here : bus.channel? handle = some channel) {values : List α}
    (unfit : channel.fitting values = []) (result : β) :
    bus.accepting handle channel values result = bus.unchanged result := by
  have counted : (Stats.countSent · 0 0) = id := rfl
  simp only [accepting, Channel.acceptMany_of_unfit unfit, unfit, List.length_nil, List.map_nil,
    setChannel_self here, counted, note_id]
  rfl

/-- Nothing happens when nothing is there to take. -/
theorem releasing_of_none {bus : Bus α} {handle : Handle} {channel : Channel α}
    (here : bus.channel? handle = some channel) {max : Nat} (none : channel.oldest max = [])
    (result : β) : bus.releasing handle channel max result = bus.unchanged result := by
  have counted : (Stats.countReceived · 0 0) = id := rfl
  simp only [releasing, Channel.releaseMany_of_none none, none, List.length_nil, List.map_nil,
    setChannel_self here, counted, note_id]
  rfl

/-- The channel after values went into its buffer. -/
theorem channel?_accepting {bus : Bus α} {handle : Handle} {channel : Channel α}
    (here : bus.channel? handle = some channel) (values : List α) (result : β) :
    (bus.accepting handle channel values result).bus.channel? handle =
      some (channel.acceptMany values).2 := by
  simp [accepting, channel?_setChannel here]

/-- The channel after values came out of its buffer. -/
theorem channel?_releasing {bus : Bus α} {handle : Handle} {channel : Channel α}
    (here : bus.channel? handle = some channel) (max : Nat) (result : β) :
    (bus.releasing handle channel max result).bus.channel? handle =
      some (channel.releaseMany max).2 := by
  simp [releasing, channel?_setChannel here]

/-! ## Operations one after the other -/

/-- Does operations one after the other, up to the first that is refused, which is left out. -/
def untilRefused (bus : Bus α) : List (Bus α → Outcome α (Result β)) → Outcome α (List β)
  | [] => bus.unchanged []
  | operation :: rest =>
    let outcome := operation bus
    match outcome.result with
    | .error _ => bus.unchanged []
    | .ok first => ((outcome.bus.untilRefused rest).map (first :: ·)).after outcome.notices

/-- A first operation that is refused is left out, and so are all after it. -/
theorem untilRefused_of_error {bus : Bus α} {operation : Bus α → Outcome α (Result β)}
    {error : BusError} (refused : (operation bus).result = .error error)
    (rest : List (Bus α → Outcome α (Result β))) :
    bus.untilRefused (operation :: rest) = bus.unchanged [] := by
  simp only [untilRefused, refused]

/-- After a first operation that succeeds the others follow. -/
theorem untilRefused_of_ok {bus : Bus α} {operation : Bus α → Outcome α (Result β)} {first : β}
    (succeeds : (operation bus).result = .ok first)
    (rest : List (Bus α → Outcome α (Result β))) :
    bus.untilRefused (operation :: rest) =
      (((operation bus).bus.untilRefused rest).map (first :: ·)).after (operation bus).notices := by
  simp only [untilRefused, succeeds]

/-- The first operation that is left out is refused where the others end. -/
theorem untilRefused_ends {operations : List (Bus α → Outcome α (Result β))} {bus : Bus α}
    {operation : Bus α → Outcome α (Result β)}
    (next : operations[(bus.untilRefused operations).result.length]? = some operation) :
    ∃ error, (operation (bus.untilRefused operations).bus).result = .error error := by
  induction operations generalizing bus with
  | nil => contradiction
  | cons attempt rest ih =>
    cases result : (attempt bus).result with
    | error error =>
      rw [untilRefused_of_error result] at next ⊢
      obtain rfl := Option.some.inj next
      exact ⟨error, result⟩
    | ok first =>
      rw [untilRefused_of_ok result] at next ⊢
      exact ih next

/-- Sending values one after the other puts those that fit into the buffer. -/
theorem untilRefused_trySend {handle : Handle} (values : List α) {bus : Bus α}
    {channel : Channel α} (here : bus.channel? handle = some channel) :
    bus.untilRefused (values.map fun value bus => bus.trySend handle value) =
      bus.accepting handle channel values (List.replicate (channel.fitting values).length ()) := by
  induction values generalizing bus channel with
  | nil =>
    rw [accepting_of_unfit here List.take_nil]
    simp [untilRefused, Channel.fitting]
  | cons value rest ih =>
    have found : bus.lookup handle none = some channel := here
    have sent : bus.trySend handle value = _ := push_eq found value
    cases full : channel.isFull with
    | true =>
      have unfit := Channel.fitting_of_full full (value :: rest)
      rw [if_pos full] at sent
      rw [List.map_cons, untilRefused_of_error (congrArg (·.result) sent),
        accepting_of_unfit here unfit, unfit]
      rfl
    | false =>
      have count : (channel.fitting (value :: rest)).length =
          ((channel.acceptMany [value]).2.fitting rest).length + 1 := by
        have both := channel.fitting_append [value] rest
        rw [Channel.fitting_singleton full] at both
        exact congrArg List.length both
      rw [if_neg (Bool.eq_false_iff.mp full)] at sent
      -- After the first value the others follow as a batch of their own, on the channel it left.
      calc bus.untilRefused ((value :: rest).map fun value bus => bus.trySend handle value)
        _ = ((bus.accepting handle channel [value] (.ok () : Result Unit)).bus.accepting handle
              (channel.acceptMany [value]).2 rest
              (() :: List.replicate ((channel.acceptMany [value]).2.fitting rest).length ())).after
              (bus.accepting handle channel [value] (.ok () : Result Unit)).notices := by
          rw [List.map_cons, untilRefused_of_ok (congrArg (·.result) sent), sent,
            ih (channel?_accepting here [value] _)]
          rfl
        _ = bus.accepting handle channel (value :: rest)
              (() :: List.replicate ((channel.acceptMany [value]).2.fitting rest).length ()) :=
          bus.accepting_accepting handle channel [value] rest _ _
        _ = _ := by rw [count, List.replicate_succ]

/-- Receiving values one after the other takes the oldest from the buffer. -/
theorem untilRefused_tryReceive {handle : Handle} (max : Nat) {bus : Bus α}
    {channel : Channel α} (here : bus.channel? handle = some channel) :
    bus.untilRefused (List.replicate max fun bus => bus.tryReceive handle) =
      bus.releasing handle channel max (channel.oldest max) := by
  induction max generalizing bus channel with
  | zero =>
    rw [releasing_of_none here List.take_zero]
    simp [untilRefused, Channel.oldest]
  | succ max ih =>
    have found : bus.lookup handle none = some channel := here
    have received : bus.tryReceive handle = _ := pop_eq found
    have both := channel.oldest_add 1 max
    rw [Nat.add_comm] at both
    cases held : channel.oldest 1 with
    | nil =>
      have nothing : channel.oldest (max + 1) = [] := by
        have empty : channel.buffer = [] :=
          (List.take_eq_nil_iff.mp held).resolve_left Nat.one_ne_zero
        simp only [Channel.oldest, empty, List.take_nil]
      rw [held] at received
      rw [List.replicate_succ, untilRefused_of_error (congrArg (·.result) received),
        releasing_of_none here nothing, nothing]
    | cons value others =>
      have alone : others = [] := by
        have short := List.length_take_le 1 channel.buffer
        rw [← Channel.oldest, held, List.length_cons] at short
        exact List.eq_nil_of_length_eq_zero (by omega)
      rw [held] at received
      rw [held, alone] at both
      -- Here too the first value comes alone and the others at once.
      calc bus.untilRefused (List.replicate (max + 1) fun bus => bus.tryReceive handle)
        _ = ((bus.releasing handle channel 1 (.ok value : Result α)).bus.releasing handle
              (channel.releaseMany 1).2 max
              (value :: (channel.releaseMany 1).2.oldest max)).after
              (bus.releasing handle channel 1 (.ok value : Result α)).notices := by
          rw [List.replicate_succ, untilRefused_of_ok (congrArg (·.result) received), received,
            ih (channel?_releasing here 1 _)]
          rfl
        _ = bus.releasing handle channel (1 + max)
              (value :: (channel.releaseMany 1).2.oldest max) :=
          bus.releasing_releasing handle channel 1 max _ _
        _ = _ := by rw [Nat.add_comm, both]; rfl

/-! ## Agreement -/

/-- A batch leaves what operations leave that are done one after the other until one would block.
The answers of those that succeed make up its own `answer`. -/
structure Agrees (bus : Bus α) (operations : List (Bus α → Outcome α (Result β)))
    (batch : Outcome α (Result γ)) (answer : List β → γ) : Prop where
  /-- A batch of no operations changes nothing. -/
  idle : operations = [] → batch = bus.unchanged (.ok (answer []))
  /-- A batch would block if no operation succeeds. -/
  blocked : operations ≠ [] → (bus.untilRefused operations).result = [] →
    batch = bus.fail .wouldBlock
  /-- If some succeed, so does the batch, and it leaves just what they leave. -/
  moved : (bus.untilRefused operations).result ≠ [] →
    batch = (bus.untilRefused operations).map fun results => .ok (answer results)
  /-- The first operation that does not succeed would block. -/
  stops : ∀ operation, operations[(bus.untilRefused operations).result.length]? = some operation →
    operation (bus.untilRefused operations).bus =
      (bus.untilRefused operations).bus.fail .wouldBlock
  /-- Those that succeed raise no error. -/
  quiet : (bus.untilRefused operations).notices.filterMap Notice.raises? = []

section Agreeing

variable {bus : Bus α} {handle : Handle} {channel : Channel α}

/-- Waking raises no error. -/
theorem raises?_wokenNotices (waits : List (Wait α)) :
    (waits.map (·.wokenNotice)).filterMap Notice.raises? = [] := by
  rw [List.filterMap_map]
  exact List.filterMap_eq_nil_iff.mpr fun _ _ => rfl

/-- A value that an open channel refuses would have to wait. -/
theorem trySend_of_error {value : α} {error : BusError}
    (here : bus.channel? handle = some channel)
    (refused : (bus.trySend handle value).result = .error error) :
    bus.trySend handle value = bus.fail .wouldBlock := by
  have found : bus.lookup handle none = some channel := here
  have sent : bus.trySend handle value = _ := push_eq found value
  rw [sent] at refused ⊢
  split at refused
  case isTrue full => exact if_pos full
  case isFalse => contradiction

/-- A receiver that an open channel refuses would have to wait. -/
theorem tryReceive_of_error {error : BusError} (here : bus.channel? handle = some channel)
    (refused : (bus.tryReceive handle).result = .error error) :
    bus.tryReceive handle = bus.fail .wouldBlock := by
  have found : bus.lookup handle none = some channel := here
  have received : bus.tryReceive handle = _ := pop_eq found
  rw [received] at refused ⊢
  cases held : channel.oldest 1 with
  | nil => rfl
  | cons value rest =>
    rw [held] at refused
    contradiction

/-- On an open channel, a batch of values agrees with sending them one after the other. -/
theorem agrees_trySendMany (here : bus.channel? handle = some channel)
    (enabled : bus.config.batch = true) (values : List α) :
    bus.Agrees (values.map fun value bus => bus.trySend handle value)
      (bus.trySendMany handle values) List.length := by
  have found : bus.lookup handle none = some channel := here
  have singles := untilRefused_trySend values here
  have batch : bus.trySendMany handle values = bus.pushMany handle none values := if_pos enabled
  have count : ∀ result, (bus.untilRefused (values.map fun value bus =>
      bus.trySend handle value)).result = result →
      (channel.fitting values).length = result.length := by
    intro result same
    rw [singles] at same
    rw [← same]
    exact List.length_replicate.symm
  constructor
  case idle =>
    intro none
    rw [List.map_eq_nil_iff.mp none] at batch ⊢
    simp only [batch, pushMany, found, List.isEmpty_nil, if_true, List.length_nil]
  case blocked =>
    intro given none
    have some : values ≠ [] := fun empty => given (by rw [empty]; rfl)
    have unfit := List.eq_nil_of_length_eq_zero (count [] none)
    rw [batch, pushMany_eq found some, if_pos unfit]
  case moved =>
    intro some
    have fits : channel.fitting values ≠ [] := by
      intro unfit
      have none := count _ rfl
      rw [unfit] at none
      exact some (List.eq_nil_of_length_eq_zero none.symm)
    have given : values ≠ [] := fun none => fits (by rw [none]; exact List.take_nil)
    rw [batch, pushMany_eq found given, if_neg fits, singles]
    simp only [accepting, Outcome.map, List.length_replicate]
  case stops =>
    intro operation next
    obtain ⟨value, _, rfl⟩ := List.mem_map.mp (List.mem_of_getElem? next)
    obtain ⟨error, refused⟩ := untilRefused_ends next
    have there : (bus.untilRefused (values.map fun value bus =>
        bus.trySend handle value)).bus.channel? handle = some (channel.acceptMany values).2 := by
      rw [singles]
      exact channel?_accepting here values _
    exact trySend_of_error there refused
  case quiet =>
    rw [singles]
    exact raises?_wokenNotices _

/-- On an open channel, receiving up to a number of values agrees with receiving as many one after
the other. -/
theorem agrees_tryReceiveMany (here : bus.channel? handle = some channel)
    (enabled : bus.config.batch = true) (max : Nat) :
    bus.Agrees (List.replicate max fun bus => bus.tryReceive handle)
      (bus.tryReceiveMany handle max) id := by
  have found : bus.lookup handle none = some channel := here
  have singles := untilRefused_tryReceive max here
  have batch : bus.tryReceiveMany handle max = bus.popMany handle none max := if_pos enabled
  have values : (bus.untilRefused (List.replicate max fun bus =>
      bus.tryReceive handle)).result = channel.oldest max := by rw [singles]; rfl
  constructor
  case idle =>
    intro none
    have unwanted := (List.replicate_eq_nil_iff _).mp none
    rw [batch, popMany, found]
    exact if_pos unwanted
  case blocked =>
    intro wanted none
    rw [values] at none
    have some : max ≠ 0 := fun zero => wanted (by rw [zero]; rfl)
    rw [batch, popMany_eq found some, if_pos none]
  case moved =>
    intro some
    rw [values] at some
    have wanted : max ≠ 0 := fun zero => some (by rw [zero]; exact List.take_zero)
    rw [batch, popMany_eq found wanted, if_neg some, singles]
    rfl
  case stops =>
    intro operation next
    have same := List.eq_of_mem_replicate (List.mem_of_getElem? next)
    obtain ⟨error, refused⟩ := untilRefused_ends next
    subst same
    have there : (bus.untilRefused (List.replicate max fun bus =>
        bus.tryReceive handle)).bus.channel? handle = some (channel.releaseMany max).2 := by
      rw [singles]
      exact channel?_releasing here max _
    exact tryReceive_of_error there refused
  case quiet =>
    rw [singles]
    exact raises?_wokenNotices _

end Agreeing

/-- Batches that do not wait agree with single operations. Without a channel both fail alike. On an
open channel a batch of values does what sending them one after the other does until one would
block, and answers with their number; receiving up to a number of values does what receiving as many
one after the other does, and answers with these values. -/
theorem batches_iterate (bus : Bus α) (enabled : bus.config.batch = true) (handle : Handle) :
    (bus.channel? handle = none →
      (∀ values, bus.trySendMany handle values = bus.fail .noChannel) ∧
      (∀ value, bus.trySend handle value = bus.fail .noChannel) ∧
      (∀ max, bus.tryReceiveMany handle max = bus.fail .noChannel) ∧
      bus.tryReceive handle = bus.fail .noChannel) ∧
    (bus.channel? handle ≠ none →
      (∀ values, bus.Agrees (values.map fun value bus => bus.trySend handle value)
        (bus.trySendMany handle values) List.length) ∧
      ∀ max, bus.Agrees (List.replicate max fun bus => bus.tryReceive handle)
        (bus.tryReceiveMany handle max) id) := by
  constructor
  · intro closed
    have missing : bus.lookup handle none = none := closed
    refine ⟨fun values => ?_, fun value => ?_, fun max => ?_, ?_⟩
    · simp only [trySendMany, ensure, enabled, if_true, pushMany, missing]
    · simp only [trySend, push, missing]
    · simp only [tryReceiveMany, ensure, enabled, if_true, popMany, missing]
    · simp only [tryReceive, pop, missing]
  · intro opened
    obtain ⟨channel, here⟩ := Option.ne_none_iff_exists'.mp opened
    exact ⟨agrees_trySendMany here enabled, agrees_tryReceiveMany here enabled⟩

/-- Three receivers wait on a channel of capacity two. A batch of three values sends two of them and
wakes two receivers, as two single sends do, after which a third would block. -/
theorem batches_iterate_of_partial :
    let bus : Bus UInt32 := ((Session.new {}).run [.request (.openChannel 2),
      .start (.receive ⟨0⟩) 1, .start (.receive ⟨0⟩) 2, .start (.receive ⟨0⟩) 3]).bus
    let singles := bus.untilRefused ([7, 8, 9].map fun value bus => bus.trySend ⟨0⟩ value)
    bus.trySendMany ⟨0⟩ [7, 8, 9] = singles.map (fun results => .ok results.length) ∧
      singles.result.length = 2 ∧ singles.notices.filterMap Notice.wakes? = [1, 2] ∧
      singles.bus.trySend ⟨0⟩ 9 = singles.bus.fail .wouldBlock := by
  intro bus singles
  have agrees := ((batches_iterate bus rfl ⟨0⟩).2 (by decide)).1 [7, 8, 9]
  exact ⟨agrees.moved (by decide), by decide, by decide, agrees.stops _ rfl⟩

end Bus

end ChannelBus
