import ChannelBus.Proofs.Serving

/-!
# No waiter is overtaken

In every reachable state each line ascends in its keys, the keys being given out in the order of
arrival, and every move of a session serves the waits of each line in that order. A receiver is
dequeued only as the first of its line, and so is a sender, except that a receiver takes the offer
of the first sender that has one, past broadcasters, which have none. Whoever gives up leaves from
where it is, and whoever was woken in vain joins again at the end. The parcel of a dequeued wait
tells which of these happened to it: a wakeup leaves it as it was, a hand-off delivers to it, and a
receiver that takes an offer marks it.
-/

namespace ChannelBus

variable {α : Type}

namespace Session

section Moving

variable [Stored α] {session : Session α}

/-- What a move does to the wait of its own call: the call is polled or dropped after it was woken,
or it is dropped while it is queued. -/
def Own (session : Session α) (move : Move α) (occurrence : Occurrence α) : Prop :=
  ∃ id suspended, move.target? = some id ∧ session.waiting? id = some suspended ∧
    (occurrence = suspended.ticket.occurrence (.forgotten suspended.ticket.key) ∨
      move = .drop id ∧
        occurrence = suspended.ticket.occurrence (.withdrawn suspended.ticket.key))

/-- A move serves whoever is first, after its own call is done with its wait. -/
theorem Lawful.serves_act (lawful : session.Lawful) (move : Move α) :
    ∃ own, session.bus.ServesFairly own (session.act move) ∧
      ∀ occurrence ∈ own, session.Own move occurrence := by
  have sound := lawful.housed.sound
  have alone : session.bus.ServesFairly [] (session.act move) →
      ∃ own, session.bus.ServesFairly own (session.act move) ∧
        ∀ occurrence ∈ own, session.Own move occurrence :=
    fun serves => ⟨[], serves, fun _ listed => absurd listed List.not_mem_nil⟩
  have idle : session.bus.ServesFairly [] (session.bus.unchanged (none : Option (Status α))) :=
    (session.bus.servesFirst_unchanged _).fairly
  cases move with
  | request request =>
    apply alone
    rw [act]
    exact ((sound.servesFirst_perform request).map _).fairly
  | start call waker =>
    apply alone
    rw [act]
    exact (sound.servesFairly_start call waker).map _
  | overwrite code => exact alone idle
  | poll id waker =>
    cases waits : session.waiting? id with
    | none =>
      apply alone
      simp only [act, waits]
      exact idle
    | some suspended =>
      have houses := lawful.housed.houses id suspended waits
      obtain ⟨own, serves, forgets⟩ := houses.servesFairly_resume sound waker
      simp only [act, waits]
      exact ⟨own, serves.map _,
        fun occurrence listed => ⟨id, suspended, rfl, waits, .inl (forgets occurrence listed)⟩⟩
  | drop id =>
    cases waits : session.waiting? id with
    | none =>
      apply alone
      simp only [act, waits]
      exact idle
    | some suspended =>
      have houses := lawful.housed.houses id suspended waits
      obtain ⟨own, serves, leaves⟩ := houses.servesFairly_cancel sound
      simp only [act, waits]
      refine ⟨own, serves.map _, fun occurrence listed => ⟨id, suspended, rfl, waits, ?_⟩⟩
      exact (leaves occurrence listed).imp_right fun withdrawn => ⟨rfl, withdrawn⟩

/-- A move keeps every line in the order of its keys. -/
theorem Lawful.byKey_step (lawful : session.Lawful)
    (ascends : ∀ generation side, ByKey (session.bus.line generation side)) (move : Move α)
    (generation : Nat) (side : Side) : ByKey ((session.step move).bus.line generation side) := by
  rw [bus_step]
  obtain ⟨own, ⟨log, complete, _⟩, _⟩ := lawful.serves_act move
  exact (complete.queues generation side (ascends generation side)).byKey (ascends generation side)

/-- A run keeps every line in the order of its keys. -/
theorem Lawful.byKey_run (lawful : session.Lawful)
    (ascends : ∀ generation side, ByKey (session.bus.line generation side)) (moves : List (Move α))
    (generation : Nat) (side : Side) : ByKey ((session.run moves).bus.line generation side) := by
  induction moves generalizing session with
  | nil => exact ascends generation side
  | cons move rest ih => exact ih (lawful.step move) (lawful.byKey_step ascends move)

end Moving

/-- Whoever is skipped when an offer is taken broadcasts. -/
theorem Lawful.broadcaster_of_skips {session : Session α} (lawful : session.Lawful)
    {occurrence : Occurrence α} (skips : session.bus.Skips occurrence) {skipped : List (Wait α)}
    {wait : Wait α} {value : α} (taken : occurrence.happening = .taken skipped wait value)
    {other : Wait α} (inside : other ∈ skipped) :
    session.Broadcaster ⟨occurrence.generation, .senders, other.key⟩ := by
  obtain ⟨passed, first, offer, same, queued⟩ := skips
  rw [taken] at same
  obtain ⟨rfl, _, _⟩ := Happening.taken.inj same
  obtain ⟨member, nothing⟩ := queued other inside
  cases named : session.bus.identity? occurrence.generation with
  | none =>
    rw [Bus.line, Bus.queue, named] at member
    contradiction
  | some channel =>
    obtain ⟨known, generation⟩ := lawful.housed.sound.identity?_eq_some_iff.mp named
    rw [Bus.line, Bus.queue_of_identity? named] at member
    rw [← generation]
    exact lawful.broadcaster_of_known known member nothing

/-- The parcel of a woken wait lies under its key. -/
theorem Lawful.parcel?_of_woken {session : Session α} (lawful : session.Lawful) {generation : Nat}
    {side : Side} {wait : Wait α} (woken : wait ∈ (session.bus.queue generation side).woken) :
    session.bus.parcel? ⟨generation, side, wait.key⟩ = some wait.parcel := by
  cases named : session.bus.identity? generation with
  | none =>
    rw [Bus.queue, named] at woken
    contradiction
  | some channel =>
    have member := (lawful.housed.sound.identity?_eq_some_iff.mp named).1
    have keyed := ((lawful.housed.sound.channels channel member).orderly side).keyed
    rw [Bus.queue_of_identity? named] at woken
    rw [Bus.parcel?, named]
    exact keyed.parcel?_of_mem (List.mem_append_right _ woken)

/-- What an operation does that dequeues somebody is not done by a call to its own wait. -/
theorem Own.dequeued? {session : Session α} {move : Move α} {occurrence : Occurrence α}
    (own : session.Own move occurrence) : occurrence.happening.dequeued? = none := by
  obtain ⟨id, suspended, _, _, rfl | ⟨_, rfl⟩⟩ := own
  · rfl
  · rfl

/-- Whoever a move dequeues finds the parcel that its log tells. -/
theorem Lawful.parcel?_of_dequeued [Stored α] {session : Session α} (lawful : session.Lawful)
    (ascends : ∀ generation side, ByKey (session.bus.line generation side)) {move : Move α}
    {own log : List (Occurrence α)} (complete : session.bus.Serves (session.act move) (own ++ log))
    (owns : ∀ occurrence ∈ own, session.Own move occurrence)
    (fair : ∀ occurrence ∈ log, occurrence.happening.isPlain = true ∨ session.bus.Skips occurrence)
    {occurrence : Occurrence α} (listed : occurrence ∈ own ++ log) {wait : Wait α}
    (dequeued : occurrence.happening.dequeued? = some wait) :
    (session.step move).bus.parcel? ⟨occurrence.generation, occurrence.side, wait.key⟩ =
      some wait.parcel := by
  apply (lawful.step move).parcel?_of_woken
  rw [bus_step]
  rcases List.mem_append.mp listed with mine | other
  · rw [(owns occurrence mine).dequeued?] at dequeued
    contradiction
  · have inTurn := complete.queues occurrence.generation occurrence.side (ascends _ _)
    rw [happeningsAt_append] at inTurn
    obtain ⟨_, _, later⟩ := inTurn.split
    refine later.mem_woken (fun key forgotten => ?_) (mem_happeningsAt.mpr other) dequeued
    exact (Bus.not_leaves_of_fair (fair _ (mem_happeningsAt.mp forgotten)) key).2 rfl

/-- Whatever was done to a bus, waiters are served in the order of their arrival. Each line ascends
in its keys. The next move has a log that lists the dequeued waits as the notices tell them and
leads from each queue to the queue after the move, so a wait that is woken or given a value has the
lowest key in its line at that moment, and an offer that is taken is that of the first sender that
has one. A dequeued wait has afterwards the parcel that the log tells: its own if it was woken, the
value if it was given one, and the mark if its offer was taken. Those skipped there broadcast. A
wait leaves its line without being dequeued only by its own drop, and a dequeued wait is forgotten
only when its own call is polled or dropped. A closing wakes all senders of the channel in their
order, and then all receivers in theirs. -/
theorem served_in_arrival_order [Stored α] (config : Config) (moves : List (Move α))
    (move : Move α) :
    let session := (new config : Session α).run moves
    (∀ generation side, ByKey (session.bus.line generation side)) ∧
    (∃ log : List (Occurrence α),
      (session.act move).notices.filter Notice.isWoke = noticesOf log ∧
      (∀ generation side, InTurn side (session.bus.queue generation side)
        (happeningsAt log generation side) ((session.step move).bus.queue generation side)) ∧
      (∀ occurrence ∈ log, ∀ wait, occurrence.happening.dequeued? = some wait →
        (session.step move).bus.parcel? ⟨occurrence.generation, occurrence.side, wait.key⟩ =
          some wait.parcel) ∧
      (∀ occurrence ∈ log, ∀ skipped wait value,
        occurrence.happening = .taken skipped wait value → ∀ other ∈ skipped,
          session.Broadcaster ⟨occurrence.generation, .senders, other.key⟩) ∧
      (∀ occurrence ∈ log, ∀ key, occurrence.happening = .withdrawn key →
        ∃ id call ticket, move = .drop id ∧ session.Waits id call ticket ∧
          ticket.address = ⟨occurrence.generation, occurrence.side, key⟩) ∧
      (∀ occurrence ∈ log, ∀ key, occurrence.happening = .forgotten key →
        ∃ id call ticket, move.target? = some id ∧ session.Waits id call ticket ∧
          ticket.address = ⟨occurrence.generation, occurrence.side, key⟩)) ∧
    (∀ handle channel, session.bus.channel? handle = some channel →
      (session.act (.request (.close handle))).notices.filter Notice.isWoke =
        (session.bus.line channel.generation .senders ++
          session.bus.line channel.generation .receivers).map (·.wokenNotice)) := by
  intro session
  have lawful : session.Lawful := (lawful_new config).run moves
  have ascends : ∀ generation side, ByKey (session.bus.line generation side) :=
    (lawful_new config).byKey_run (fun _ _ => List.Pairwise.nil) moves
  refine ⟨ascends, ?_, fun handle channel here => ?_⟩
  · obtain ⟨own, ⟨log, complete, fair⟩, owns⟩ := lawful.serves_act move
    refine ⟨own ++ log, complete.told,
      fun generation side => complete.queues generation side (ascends generation side),
      fun occurrence listed wait => lawful.parcel?_of_dequeued ascends complete owns fair listed,
      fun occurrence listed skipped wait value taken other inside => ?_,
      fun occurrence listed key withdrawn => ?_, fun occurrence listed key forgotten => ?_⟩
    · rcases List.mem_append.mp listed with mine | others
      · have none := (owns occurrence mine).dequeued?
        rw [taken] at none
        contradiction
      · rcases fair occurrence others with plain | skips
        · rw [taken] at plain
          contradiction
        · exact lawful.broadcaster_of_skips skips taken inside
    · rcases List.mem_append.mp listed with mine | others
      · obtain ⟨id, suspended, _, waits, rfl | ⟨drops, rfl⟩⟩ := owns occurrence mine
        · contradiction
        · obtain rfl := Happening.withdrawn.inj withdrawn
          exact ⟨id, _, _, drops, lawful.waits_of_waiting? waits, rfl⟩
      · exact absurd withdrawn (Bus.not_leaves_of_fair (fair occurrence others) key).1
    · rcases List.mem_append.mp listed with mine | others
      · obtain ⟨id, suspended, target, waits, rfl | ⟨_, rfl⟩⟩ := owns occurrence mine
        · obtain rfl := Happening.forgotten.inj forgotten
          exact ⟨id, _, _, target, lawful.waits_of_waiting? waits, rfl⟩
        · contradiction
      · exact absurd forgotten (Bus.not_leaves_of_fair (fair occurrence others) key).2
  · have named := lawful.housed.sound.identity?_of_channel? here
    have lines : ∀ side, session.bus.line channel.generation side =
        (channel.queue side).waiting := by
      intro side
      rw [Bus.line, Bus.queue_of_identity? named]
    rw [lines, lines]
    exact Bus.filter_notices_close here

/-- A broadcaster and two senders wait for a rendezvous, and a receiver takes an offer. It is that
of the first sender, whose parcel is marked, past the broadcaster, who stays first in line. -/
theorem served_in_arrival_order_of_skipping :
    let session := (new {} : Session UInt32).run
      [.request (.openChannel 0), .start (.broadcast 5) 1, .start (.send ⟨0⟩ 6) 2,
        .start (.send ⟨0⟩ 7) 3]
    let queue : WaitQueue UInt32 :=
      { waiting := [⟨0, some 1, .empty⟩, ⟨1, some 2, .offered 6⟩, ⟨2, some 3, .offered 7⟩]
        woken := []
        nextKey := 3 }
    session.bus.queue 0 .senders = queue ∧
      ∃ log : List (Occurrence UInt32), noticesOf log = [.woke 1 (some 2)] ∧
        InTurn .senders queue (happeningsAt log 0 .senders)
          { waiting := [⟨0, some 1, .empty⟩, ⟨2, some 3, .offered 7⟩]
            woken := [⟨1, some 2, .taken⟩]
            nextKey := 3 } ∧
        ∀ occurrence ∈ log, ∀ skipped wait value,
          occurrence.happening = .taken skipped wait value → ∀ other ∈ skipped,
            session.Broadcaster ⟨occurrence.generation, .senders, other.key⟩ := by
  intro session queue
  obtain ⟨_, ⟨log, told, queues, _, skips, _⟩, _⟩ := served_in_arrival_order (α := UInt32) {}
    [.request (.openChannel 0), .start (.broadcast 5) 1, .start (.send ⟨0⟩ 6) 2,
      .start (.send ⟨0⟩ 7) 3] (.start (.receive ⟨0⟩) 4)
  exact ⟨rfl, log, told.symm, queues 0 .senders, skips⟩

end Session

end ChannelBus
