import ChannelBus.Proofs.Books

/-!
# The books after a call

A worker that runs makes a call on the open channel. The call moves messages through the buffer,
passes one to or from a waiting worker, or parks; each way is an entry in the accounts of the
workload, and each task that it wakes is paid for.
-/

open scoped List

namespace ChannelBus

/-- The number of seats after an open channel was replaced. -/
theorem Bus.Becomes.length_roster {α : Type} {bus after : Bus α} {handle : Handle}
    {channel new : Channel α} (becomes : bus.Becomes after handle new)
    (here : bus.channel? handle = some channel) (seated woken : List Seat)
    (moved : seated ++ channel.roster ~ woken ++ new.roster) :
    seated.length + bus.roster.length = woken.length + after.roster.length := by
  obtain ⟨update, rfl⟩ := becomes
  have same := (roster_setChannel here moved).length_eq
  rw [List.length_append, List.length_append] at same
  rw [roster_note]
  exact same

namespace Books

variable {workload : Workload} {config : Config} {opened : Bool} {fuel : Nat}
  {bus after : Bus Message} {tasks : List (Task Worker Message)} {id remaining count : Nat}
  {channel new : Channel Message} {call : Call Message} {state : Worker} {consumer : Consumer}
  {bill : Bill}

/-! ## Those who wait -/

/-- Every parcel is that of a worker in the middle of a call. -/
theorem owner (books : Books workload config opened fuel bus tasks) {address : Address}
    {parcel : Parcel Message} (lies : bus.parcel? address = some parcel) :
    ∃ owner suspended task, waitingOf tasks owner = some suspended ∧
      suspended.ticket.address = address ∧ tasks[owner]? = some task ∧
      suspended.call.Finds parcel ∧ task.state.next ⟨0⟩ = some (.call 0 suspended.call) ∧
      suspended.ticket.side = suspended.call.side ∧
      standing bus tasks owner = some (task.state, some parcel) := by
  obtain ⟨owner, suspended, waits, same⟩ := books.housed.owned address parcel lies
  obtain ⟨task, index, here, parked⟩ := waitingOf_eq_some_iff.mp waits
  have houses := books.housed.houses owner suspended waits
  obtain ⟨found, held, finds⟩ := houses.parcel
  obtain rfl : parcel = found := by
    rw [same, lies] at held
    exact Option.some.inj held
  have due := books.due owner task here
  rw [Task.Due, parked] at due
  obtain ⟨call, called⟩ := Worker.calls_of_next due
  obtain ⟨rfl, _⟩ := Step.call.inj called
  refine ⟨owner, suspended, task, waits, same, here, finds, due, houses.side, ?_⟩
  obtain ⟨another, there, stands⟩ := standing_of_waiting waits
  obtain rfl := Option.some.inj (here.symm.trans there)
  rw [stands, same, lies]

/-- An empty parcel is that of a consumer. -/
theorem buyer (books : Books workload config opened fuel bus tasks) {address : Address}
    (lies : bus.parcel? address = some .empty) : ∃ buyer suspended consumer,
      waitingOf tasks buyer = some suspended ∧ suspended.ticket.address = address ∧
      buyer < workload.producers + workload.consumers ∧ address.side = .receivers ∧
      standing bus tasks buyer = some (.consumer consumer, some .empty) := by
  obtain ⟨buyer, suspended, ⟨worker, phase⟩, waits, same, here, finds, follows, side, stands⟩ :=
    books.owner lies
  have known := (List.getElem?_eq_some_iff.mp here).1
  rw [books.crowd] at known
  cases worker with
  | consumer consumer =>
    obtain ⟨receives, _⟩ := Consumer.receives_of_call follows
    refine ⟨buyer, suspended, consumer, waits, same, known, ?_, stands⟩
    rw [← same]
    show suspended.ticket.side = .receivers
    rw [side, receives]
    rfl
  | producer producer =>
    obtain ⟨count, asks⟩ := Producer.asks_of_call follows
    cases finds with
    | empty wants => exact absurd asks.modest wants
    | unpinned everywhere =>
      rw [asks.named] at everywhere
      contradiction

/-- An offer is that of a producer, and what lies there is the next message of this producer. -/
theorem seller (books : Books workload config opened fuel bus tasks) {address : Address}
    {message : Message} (lies : bus.parcel? address = some (.offered message)) :
    ∃ seller suspended remaining,
      waitingOf tasks seller = some suspended ∧ suspended.ticket.address = address ∧
      seller < workload.producers ∧ 0 < remaining ∧ remaining ≤ workload.messages ∧
      message = Message.pack seller (workload.messages - remaining) ∧
      standing bus tasks seller =
        some (.producer (workload.producer seller remaining), some (.offered message)) := by
  obtain ⟨seller, suspended, task, waits, same, here, finds, follows, side, stands⟩ :=
    books.owner lies
  have employed := books.employed seller task here
  cases finds with
  | offered offers =>
    cases employed with
    | consumer consumer phase =>
      obtain ⟨receives, _⟩ := Consumer.receives_of_call follows
      rw [receives] at offers
      contradiction
    | producer remaining phase inside few done =>
      obtain ⟨count, asks⟩ := Producer.asks_of_call follows
      have some := asks.some
      have left : 0 < remaining := Nat.lt_of_lt_of_le some asks.few
      refine ⟨seller, suspended, remaining, waits, same, inside, left, few, ?_, stands⟩
      have split : count = 1 + (count - 1) := by omega
      rw [asks.offers, split, Message.series_add] at offers
      exact (List.cons.inj offers).1.symm

/-! ## The open channel -/

/-- The open channel is the first one of the bus. -/
theorem generation_eq (books : Books workload config opened fuel bus tasks)
    (here : bus.channel? ⟨0⟩ = some channel) : channel.generation = 0 := by
  have given := books.housed.sound.generation_lt here
  rw [books.sole] at given
  omega

/-- It has the capacity that was asked for. -/
theorem capacity_eq (books : Books workload config opened fuel bus tasks)
    (here : bus.channel? ⟨0⟩ = some channel) : channel.capacity = workload.capacity := by
  have sized := books.sized
  rw [← books.generation_eq here, books.housed.sound.identity?_of_channel? here] at sized
  exact Option.some.inj sized

/-- A call on it pays its bill. -/
theorem charges (books : Books workload config opened fuel bus tasks)
    (here : bus.channel? ⟨0⟩ = some channel) {outcome : Outcome Message (Progress Message)}
    (attempted : bus.Attempted ⟨0⟩ channel id call outcome) :
    bus.Charges outcome.bus workload.capacity (channel.bill call) :=
  books.capacity_eq here ▸ attempted.charges here books.housed.sound

/-- What is buffered. -/
theorem content_eq (books : Books workload config opened fuel bus tasks)
    (here : bus.channel? ⟨0⟩ = some channel) : bus.content 0 = channel.buffer := by
  rw [← books.generation_eq here]
  exact books.housed.sound.content_of_channel? here

/-- What is buffered after a call. -/
theorem content_after (books : Books workload config opened fuel bus tasks)
    (here : bus.channel? ⟨0⟩ = some channel) (becomes : bus.Becomes after ⟨0⟩ new)
    (same : new.generation = channel.generation) : after.content 0 = new.buffer := by
  rw [becomes.content books.housed.sound here same, if_pos (books.generation_eq here).symm]

/-- How the workers stand after one of them went on while no parcel changed. -/
theorem standing_of_board (known : id < tasks.length)
    (board : ∀ address, after.parcel? address = bus.parcel? address) (worker : Worker)
    (other : Nat) : standing after (tasks.set id ⟨worker, .fresh⟩) other =
      if other = id then some (worker, none) else standing bus tasks other := by
  rw [standing_set known]
  split
  · rfl
  · exact standing_kept fun suspended _ => board suspended.ticket.address

/-- How the workers stand after one of them went on while a message went through the parcel of
another. -/
theorem standing_of_passes (books : Books workload config opened fuel bus tasks)
    (known : id < tasks.length) {address : Address} {first now : Parcel Message}
    (passes : bus.Passes after address first now)
    {owner : Nat} {suspended : Suspended Message} (waits : waitingOf tasks owner = some suspended)
    (same : suspended.ticket.address = address) {worker : Worker}
    (stood : standing bus tasks owner = some (worker, some first)) (next : Worker) (other : Nat) :
    standing after (tasks.set id ⟨next, .fresh⟩) other =
      if other = id then some (next, none)
      else if other = owner then some (worker, some now) else standing bus tasks other := by
  rw [standing_set known]
  split
  case isTrue => rfl
  case isFalse =>
    split
    case isTrue equal =>
      obtain ⟨task, _, stands⟩ := standing_of_waiting waits
      rw [stands] at stood
      have state : task.state = worker := congrArg Prod.fst (Option.some.inj stood)
      rw [equal, stands, same, passes.after, if_pos rfl, state]
    case isFalse apart =>
      apply standing_kept
      intro another waitsToo
      rw [passes.after, if_neg]
      intro equal
      rw [← same] at equal
      exact apart (books.housed.apart other owner another suspended waitsToo waits equal)

/-- Where a producer stands. -/
theorem producer_inside (books : Books workload config opened fuel bus tasks)
    {phase : Phase Message}
    (here : tasks[id]? = some ⟨.producer (workload.producer id remaining), phase⟩) :
    id < workload.producers ∧ remaining ≤ workload.messages := by
  have employed := books.employed id _ here
  cases employed with
  | producer _ _ inside few _ => exact ⟨inside, few⟩

/-! ## Entries -/

/-- A producer sends into the buffer. -/
theorem accept (books : Books workload config opened fuel bus tasks)
    (idle : tasks[id]? = some ⟨.producer (workload.producer id remaining), .fresh⟩)
    (here : bus.channel? ⟨0⟩ = some channel)
    (asks : (workload.producer id remaining).Asks ⟨0⟩ call count)
    (becomes : bus.Becomes after ⟨0⟩ (channel.acceptMany call.offers).2)
    (charges : bus.Charges after workload.capacity bill) (nothing : bill.delivered = 0) :
    ∃ history, Accounts workload fuel after (tasks.set id
      ⟨.producer (workload.producer id (remaining - (channel.fitting call.offers).length)),
        .fresh⟩) history := by
  obtain ⟨history, ledger, covered, tallied⟩ := books.accounts
  obtain ⟨inside, few⟩ := books.producer_inside idle
  have known := (List.getElem?_eq_some_iff.mp idle).1
  have sound := books.housed.sound
  have content := books.content_eq here
  have contentAfter : after.content 0 = _ := books.content_after here becomes rfl
  have board := becomes.sameBoard sound here rfl
    fun side key => (sound.of_channel? here).parcel?_acceptMany call.offers side key
  have seats := becomes.length_roster here []
    ((channel.acceptMany call.offers).1.map (channel.seat .receivers))
    (channel.roster_acceptMany call.offers)
  have offers : call.offers =
    Message.series id (workload.messages - remaining) count := asks.offers
  have less : count ≤ remaining := asks.few
  have fits : channel.fitting call.offers = Message.series id (workload.messages - remaining)
      (min channel.freeSpace count) := by
    rw [Channel.fitting, offers, Message.take_series]
  have length : (channel.fitting call.offers).length = min channel.freeSpace count := by
    rw [fits, Message.length_series]
  have woken : (channel.acceptMany call.offers).1.length ≤ min channel.freeSpace count := by
    rw [← length]
    exact List.length_take_le _ _
  rw [length]
  have stands := standing_of_board known board
    (.producer (workload.producer id (remaining - min channel.freeSpace count)))
  have stood := standing_of_fresh bus idle
  have passed : goneOf (standing bus tasks) id = workload.messages - remaining :=
    goneOf_of_standing stood
  have tallies := charges.tallied tallied
  rw [nothing] at tallies
  refine ⟨history, ?_, ?_, tallies⟩
  · rw [heldOf_eq stood stands rfl, contentAfter, Channel.buffer_acceptMany, ← content, fits,
      ← passed]
    apply ledger.accept inside
    · omega
    · intro other
      rw [goneOf_of_change stands]
      split
      case isTrue equal =>
        rw [equal, passed]
        show workload.messages - (remaining - min channel.freeSpace count) + 0 = _
        omega
      case isFalse => rfl
  · rw [contentAfter, Channel.buffer_acceptMany, List.length_append, length, ← content,
      countP_set_live idle rfl rfl]
    simp only [List.length_nil, List.length_map] at seats
    omega

/-- A message passes between a worker that runs and one that waits for it to do so. -/
theorem meet (books : Books workload config opened fuel bus tasks)
    (idle : tasks[id]? = some ⟨state, .fresh⟩) (here : bus.channel? ⟨0⟩ = some channel)
    (rendezvous : channel.isRendezvous = true) (becomes : bus.Becomes after ⟨0⟩ new)
    (kept : new.Sound ∧ new.generation = channel.generation ∧ new.capacity = channel.capacity)
    {seat : Seat} (moved : channel.roster ~ seat :: new.roster)
    {address : Address} {first now : Parcel Message} (passes : bus.Passes after address first now)
    {partner : Nat} {suspended : Suspended Message}
    (waits : waitingOf tasks partner = some suspended)
    (there : suspended.ticket.address = address) {worker next : Worker}
    (waited : standing bus tasks partner = some (worker, some first)) {message : Message}
    {producer receiver : Nat}
    (pair : producer = id ∧ receiver = partner ∨ producer = partner ∧ receiver = id)
    (inside : producer < workload.producers)
    (room : goneOf (standing bus tasks) producer < workload.messages)
    (follows : message = Message.pack producer (goneOf (standing bus tasks) producer))
    (gone : next.gone none = state.gone none + (if id = producer then 1 else 0) ∧
      worker.gone (some now) = worker.gone (some first) + if partner = producer then 1 else 0)
    (held : next.held none = state.held none ++ (if id = receiver then [message] else []) ∧
      worker.held (some now) =
        worker.held (some first) ++ if partner = receiver then [message] else [])
    (charges : bus.Charges after workload.capacity bill) (one : bill.delivered = 1) :
    ∃ history, Accounts workload fuel after (tasks.set id ⟨next, .fresh⟩) history := by
  obtain ⟨history, ledger, covered, tallied⟩ := books.accounts
  obtain ⟨newSound, generation, capacity⟩ := kept
  have sound := books.housed.sound
  have known := (List.getElem?_eq_some_iff.mp idle).1
  obtain ⟨task, listed, _⟩ := standing_of_waiting waits
  have knownToo := (List.getElem?_eq_some_iff.mp listed).1
  have receives : receiver < workload.producers + workload.consumers := by
    rw [← books.crowd]
    omega
  -- Nothing is buffered, before or after.
  have still : new.isRendezvous = true := by rwa [Channel.isRendezvous, capacity]
  have content := (books.content_eq here).trans ((sound.of_channel? here).buffer_eq_nil rendezvous)
  have contentAfter :=
    (books.content_after here becomes generation).trans (newSound.buffer_eq_nil still)
  have seats := becomes.length_roster here [] [seat] moved
  have stands := books.standing_of_passes known passes waits there waited next
  have stood := standing_of_fresh bus idle
  have tallies := charges.tallied tallied
  rw [one] at tallies
  refine ⟨history ++ [message], ?_, ?_, List.length_append ▸ tallies⟩
  · rw [contentAfter]
    apply (content ▸ ledger).pass inside room follows receives
    · intro other
      rw [goneOf_of_changes stands]
      split
      case isTrue same =>
        rw [same, goneOf_of_standing stood]
        exact gone.1
      case isFalse apart =>
        split
        case isTrue same =>
          rw [same, goneOf_of_standing waited]
          exact gone.2
        case isFalse farther => rw [if_neg (by omega), Nat.add_zero]
    · intro other
      rw [heldOf_of_changes stands]
      split
      case isTrue same =>
        rw [same, heldOf_of_standing stood]
        exact held.1
      case isFalse apart =>
        split
        case isTrue same =>
          rw [same, heldOf_of_standing waited]
          exact held.2
        case isFalse farther => rw [if_neg (by omega), List.append_nil]
  · rw [contentAfter, countP_set_live idle rfl rfl, List.length_append]
    rw [content] at covered
    simp only [List.length_nil, List.length_singleton] at *
    omega

/-- A worker that runs is none of those that wait. -/
theorem ne_of_waiting {partner : Nat} {suspended : Suspended Message}
    (idle : tasks[id]? = some ⟨state, .fresh⟩) (waits : waitingOf tasks partner = some suspended) :
    partner ≠ id := by
  rintro rfl
  rw [waitingOf_of_fresh idle] at waits
  contradiction

/-- A producer hands a message to a waiting consumer. -/
theorem handOff (books : Books workload config opened fuel bus tasks)
    (idle : tasks[id]? = some ⟨.producer (workload.producer id remaining), .fresh⟩)
    (here : bus.channel? ⟨0⟩ = some channel)
    (asks : (workload.producer id remaining).Asks ⟨0⟩ call count) {message : Message}
    {rest : List Message} (offered : call.offers = message :: rest) {served : Wait Message}
    (handed : channel.handOff message = some (served, new)) (becomes : bus.Becomes after ⟨0⟩ new)
    (charges : bus.Charges after workload.capacity bill) (one : bill.delivered = 1) :
    ∃ history, Accounts workload fuel after
      (tasks.set id ⟨.producer (workload.producer id (remaining - 1)), .fresh⟩) history := by
  obtain ⟨inside, few⟩ := books.producer_inside idle
  have sound := books.housed.sound
  have channelSound := sound.of_channel? here
  have kept := channelSound.handOff handed
  obtain ⟨key, passes⟩ := channelSound.passes_handOff handed
  have through := becomes.passes sound here kept.2.1 passes
  obtain ⟨buyer, suspended, consumer, waits, address, _, _, waited⟩ := books.buyer through.before
  have apart := ne_of_waiting idle waits
  have passed : goneOf (standing bus tasks) id = workload.messages - remaining :=
    goneOf_of_standing (standing_of_fresh bus idle)
  have some : 0 < remaining := Nat.lt_of_lt_of_le asks.some asks.few
  have next : message = Message.pack id (goneOf (standing bus tasks) id) := by
    have split : count = 1 + (count - 1) := by
      have := asks.some
      omega
    rw [asks.offers, split, Message.series_add] at offered
    rw [passed]
    exact (List.cons.inj offered).1.symm
  apply books.meet idle here (channelSound.handOff_eq_some handed).1 becomes kept
    (channel.roster_handOff handed) through waits address waited (.inl ⟨rfl, rfl⟩) inside
    (by omega) next _ _ charges one
  · constructor
    · rw [if_pos rfl]
      show workload.messages - (remaining - 1) + 0 = workload.messages - remaining + 0 + 1
      omega
    · rw [if_neg apart]
      rfl
  · constructor
    · rw [if_neg apart.symm]
      rfl
    · rw [if_pos rfl]
      show consumer.received.reverse ++ [message] = (consumer.received.reverse ++ []) ++ [message]
      rw [List.append_nil]

/-- A consumer takes the oldest message out of the buffer. -/
theorem release (books : Books workload config opened fuel bus tasks)
    (idle : tasks[id]? = some ⟨.consumer consumer, .fresh⟩)
    (here : bus.channel? ⟨0⟩ = some channel) {message : Message} {rest : List Message}
    (oldest : channel.oldest 1 = message :: rest)
    (becomes : bus.Becomes after ⟨0⟩ (channel.releaseMany 1).2)
    (charges : bus.Charges after workload.capacity bill) (one : bill.delivered = 1) :
    ∃ history, Accounts workload fuel after (tasks.set id
      ⟨.consumer (consumer.after (.reply (.received (.ok message)))), .fresh⟩) history := by
  obtain ⟨history, ledger, covered, tallied⟩ := books.accounts
  have known := (List.getElem?_eq_some_iff.mp idle).1
  have sound := books.housed.sound
  have split : channel.buffer = message :: channel.buffer.drop 1 := by
    unfold Channel.oldest at oldest
    cases buffer : channel.buffer with
    | nil =>
      rw [buffer] at oldest
      contradiction
    | cons first others =>
      rw [buffer] at oldest
      rw [(List.cons.inj oldest).1, List.drop_one, List.tail_cons]
  have content := (books.content_eq here).trans split
  have contentAfter : after.content 0 = _ := books.content_after here becomes rfl
  rw [Channel.buffer_releaseMany] at contentAfter
  have board := becomes.sameBoard sound here rfl
    fun side key => (sound.of_channel? here).parcel?_releaseMany 1 side key
  have seats := becomes.length_roster here []
    ((channel.releaseMany 1).1.map (channel.seat .senders)) (channel.roster_releaseMany 1)
  have woken : (channel.releaseMany 1).1.length ≤ 1 := by
    apply Nat.le_trans (List.length_take_le _ _)
    exact List.length_take_le _ _
  have stands := standing_of_board known board
    (.consumer (consumer.after (.reply (.received (.ok message)))))
  have stood := standing_of_fresh bus idle
  have tallies := charges.tallied tallied
  rw [one] at tallies
  refine ⟨history ++ [message], ?_, ?_, List.length_append ▸ tallies⟩
  · rw [goneOf_eq stood stands rfl, contentAfter]
    apply (content ▸ ledger).release (books.crowd ▸ known)
    intro other
    rw [heldOf_of_change stands]
    split
    case isTrue equal =>
      rw [equal, heldOf_of_standing stood]
      show (message :: consumer.received).reverse ++ [] = (consumer.received.reverse ++ []) ++ _
      rw [List.reverse_cons, List.append_nil, List.append_nil]
    case isFalse => rw [List.append_nil]
  · rw [contentAfter, countP_set_live idle rfl rfl, List.length_append]
    rw [content] at covered
    simp only [List.length_cons, List.length_nil, List.length_map] at *
    omega

/-- A consumer takes the message that a waiting producer offers. -/
theorem takeOffer (books : Books workload config opened fuel bus tasks)
    (idle : tasks[id]? = some ⟨.consumer consumer, .fresh⟩)
    (here : bus.channel? ⟨0⟩ = some channel) {message : Message} {settled : Wait Message}
    (taken : channel.takeOffer = some (message, settled, new))
    (becomes : bus.Becomes after ⟨0⟩ new)
    (charges : bus.Charges after workload.capacity bill) (one : bill.delivered = 1) :
    ∃ history, Accounts workload fuel after (tasks.set id
      ⟨.consumer (consumer.after (.reply (.received (.ok message)))), .fresh⟩) history := by
  have sound := books.housed.sound
  have channelSound := sound.of_channel? here
  have kept := channelSound.takeOffer taken
  obtain ⟨key, passes⟩ := channelSound.passes_takeOffer taken
  have through := becomes.passes sound here kept.2.1 passes
  obtain ⟨seller, suspended, remaining, waits, address, inside, some, few, next, waited⟩ :=
    books.seller through.before
  have apart := ne_of_waiting idle waits
  have passed : goneOf (standing bus tasks) seller = workload.messages - remaining :=
    goneOf_of_standing waited
  rw [← passed] at next
  apply books.meet idle here (Channel.Sound.takeOffer_eq_some taken).1 becomes kept
    (channel.roster_takeOffer taken) through waits address waited (.inr ⟨rfl, rfl⟩) inside
    (by omega) next _ _ charges one
  · constructor
    · rw [if_neg apart.symm]
      rfl
    · rw [if_pos rfl]
      rfl
  · constructor
    · rw [if_pos rfl]
      show (message :: consumer.received).reverse ++ [] =
        (consumer.received.reverse ++ []) ++ [message]
      rw [List.reverse_cons, List.append_nil, List.append_nil]
    · rw [if_neg apart]
      rfl

/-- A worker parks and pays with a poll. -/
theorem park (books : Books workload config opened (fuel + 1) bus tasks)
    (idle : tasks[id]? = some ⟨state, .fresh⟩)
    {suspended : Suspended Message} (tries : bus.Tries after call (some suspended))
    {parcel : Parcel Message} (lies : after.parcel? suspended.ticket.address = some parcel)
    (unsettled : parcel.isSettled = false)
    (board : ∀ address, address ≠ suspended.ticket.address →
      after.parcel? address = bus.parcel? address)
    (content : after.content 0 = bus.content 0)
    (seats : after.roster.length = bus.roster.length + 1)
    (charges : bus.Charges after workload.capacity bill) (nothing : bill.delivered = 0) :
    ∃ history, Accounts workload fuel after
      (tasks.set id ⟨state, .parked 0 suspended⟩) history := by
  obtain ⟨history, ledger, covered, tallied⟩ := books.accounts
  have known := (List.getElem?_eq_some_iff.mp idle).1
  obtain ⟨_, _, absent⟩ := tries.parked suspended rfl
  have stands : ∀ other, standing after (tasks.set id ⟨state, .parked 0 suspended⟩) other =
      if other = id then some (state, some parcel) else standing bus tasks other := by
    intro other
    rw [standing_set known]
    split
    case isTrue => exact congrArg (fun parcel? => some (state, parcel?)) lies
    case isFalse =>
      apply standing_kept
      intro another waits
      apply board
      intro same
      obtain ⟨_, held, _⟩ := (books.housed.houses other another waits).parcel
      rw [same, absent] at held
      contradiction
  have stood := standing_of_fresh bus idle
  have tallies := charges.tallied tallied
  rw [nothing] at tallies
  refine ⟨history, ?_, ?_, tallies⟩
  · rw [goneOf_eq stood stands (Worker.gone_of_unsettled unsettled state),
      heldOf_eq stood stands (Worker.held_of_unsettled unsettled state), content]
    exact ledger
  · rw [content, countP_set_live idle rfl rfl]
    omega

/-- A consumer that waits for a message wakes no producer: if one were queued, its offer would be
taken. -/
theorem nobody_hinted (books : Books workload config opened fuel bus tasks)
    (here : bus.channel? ⟨0⟩ = some channel) (nothing : channel.takeOffer = none) :
    channel.front .senders (if channel.isRendezvous then 1 else 0) = [] := by
  cases rendezvous : channel.isRendezvous with
  | false => rfl
  | true =>
    suffices nobody : channel.senders.waiting = [] by
      show channel.senders.waiting.take 1 = []
      rw [nobody]
      rfl
    apply List.eq_nil_iff_forall_not_mem.mpr
    intro wait queued
    have sound := books.housed.sound
    have orderly := (sound.of_channel? here).orderly .senders
    have lies : bus.parcel? ⟨channel.generation, .senders, wait.key⟩ = some wait.parcel :=
      (sound.parcel?_of_channel? here .senders wait.key).trans
        (orderly.keyed.parcel?_of_mem (List.mem_append_left _ queued))
    have refused : wait.parcel.offer? = none := by
      rw [Channel.takeOffer, rendezvous, if_pos rfl, Option.map_eq_none_iff,
        WaitQueue.takeFirstOffer, Option.map_eq_none_iff] at nothing
      exact WaitQueue.extractFirst_eq_none_iff.mp nothing wait queued
    have allowed := orderly.queued wait queued
    cases parcel : wait.parcel with
    | empty =>
      rw [parcel] at lies
      obtain ⟨_, _, _, _, _, _, receiver, _⟩ := books.buyer lies
      contradiction
    | offered message =>
      rw [parcel] at refused
      contradiction
    | delivered | taken =>
      rw [parcel] at allowed
      contradiction

/-! ## Calls -/

/-- A worker goes on after its call. -/
theorem goOn (books : Books workload config opened fuel bus tasks)
    (idle : tasks[id]? = some ⟨state, .fresh⟩) (tries : bus.Tries after call none) {next : Worker}
    (employed : Employed workload opened id ⟨next, .fresh⟩)
    (received : state.receivedCount ≤ next.receivedCount)
    (charges : bus.Charges after workload.capacity bill)
    (dismissed : next.dismissed.toNat = state.dismissed.toNat + bill.missing)
    (accounts : ∃ history, Accounts workload fuel after (tasks.set id ⟨next, .fresh⟩) history) :
    Books workload config opened fuel after (tasks.set id ⟨next, .fresh⟩) := by
  have housed := books.housed.tries (waitingOf_of_fresh idle) tries
  have due : Task.Due (Worker.program ⟨0⟩) (⟨next, .fresh⟩ : Task Worker Message) := trivial
  exact books.change idle housed tries.stays due employed received charges dismissed accounts

/-- A producer that has sent some of its messages goes on behind these. -/
theorem sent (books : Books workload config opened fuel bus tasks)
    (idle : tasks[id]? = some ⟨.producer (workload.producer id remaining), .fresh⟩)
    (asks : (workload.producer id remaining).Asks ⟨0⟩ call count) {sent : Nat} (some : 0 < sent)
    (less : sent ≤ count) (tries : bus.Tries after call none)
    (charges : bus.Charges after workload.capacity bill) (heard : bill.missing = 0)
    (accounts : ∃ history, Accounts workload fuel after
      (tasks.set id ⟨.producer (workload.producer id (remaining - sent)), .fresh⟩) history) :
    Books workload config opened fuel after (tasks.set id
      ⟨(Worker.producer (workload.producer id remaining)).after (.reply (call.sent sent)),
        .fresh⟩) := by
  obtain ⟨inside, few⟩ := books.producer_inside idle
  have next := asks.after sent some less
  have employed : Employed workload opened id
      ⟨.producer (workload.producer id (remaining - sent)), .fresh⟩ :=
    .producer (remaining - sent) .fresh inside (by omega) nofun
  rw [Worker.after, next]
  exact books.goOn idle tries employed (Nat.le_refl _) charges (by rw [heard]; rfl) accounts

/-- A consumer that got a message goes on with one call less. -/
theorem received (books : Books workload config opened fuel bus tasks)
    (idle : tasks[id]? = some ⟨.consumer consumer, .fresh⟩) (busy : consumer.budget ≠ 0)
    {message : Message} (tries : bus.Tries after call none)
    (charges : bus.Charges after workload.capacity bill) (heard : bill.missing = 0)
    (accounts : ∃ history, Accounts workload fuel after (tasks.set id
      ⟨.consumer (consumer.after (.reply (.received (.ok message)))), .fresh⟩) history) :
    Books workload config opened fuel after (tasks.set id
      ⟨.consumer (consumer.after (.reply (.received (.ok message)))), .fresh⟩) := by
  obtain ⟨history, right⟩ := accounts
  have known := (List.getElem?_eq_some_iff.mp idle).1
  have few := right.held_le (standing_of_fresh after (List.getElem?_set_self known))
  have less : ((message :: consumer.received).reverse ++ []).length ≤ workload.expected := few
  rw [List.append_nil, List.length_reverse, List.length_cons] at less
  obtain ⟨employed, more⟩ := (books.employed id _ idle).received busy less message
  apply books.goOn idle tries employed (Nat.le_succ _) charges _ ⟨history, right⟩
  rw [heard, Worker.dismissed_consumer busy]
  exact congrArg Bool.toNat (Worker.dismissed_consumer more)

/-- A worker waits after its call. -/
theorem wait (books : Books workload config opened (fuel + 1) bus tasks)
    (idle : tasks[id]? = some ⟨state, .fresh⟩)
    (follows : state.next ⟨0⟩ = some (.call 0 call)) (here : bus.channel? ⟨0⟩ = some channel)
    (tried : channel.Tried id call none new) (becomes : bus.Becomes after ⟨0⟩ new)
    (named : call.handle? = some ⟨0⟩) (buffer : new.buffer = channel.buffer)
    (seats : after.roster.length = bus.roster.length + 1)
    (charges : bus.Charges after workload.capacity bill) (nothing : bill.delivered = 0)
    (heard : bill.missing = 0) :
    Books workload config opened fuel after (tasks.set id ⟨state, .parked 0
      ⟨call, ⟨⟨0⟩, channel.generation, call.side, (channel.queue call.side).nextKey⟩⟩⟩) := by
  have sound := books.housed.sound
  have channelSound := sound.of_channel? here
  obtain ⟨newSound, same, capacity⟩ := tried.keeps channelSound
  obtain ⟨parcel, finds, unsettled, board⟩ := tried.parks channelSound
  have tries := becomes.tries_of_parks sound here newSound same capacity finds
    (fun target equal => (Option.some.inj (named.symm.trans equal)).symm) board
  have place := becomes.parcel?_at sound here same board
  have content : after.content 0 = bus.content 0 := by
    rw [books.content_after here becomes same, books.content_eq here, buffer]
  have housed := books.housed.tries (waitingOf_of_fresh idle) tries
  have employed : Employed workload opened id ⟨state, .parked 0
      ⟨call, ⟨⟨0⟩, channel.generation, call.side, (channel.queue call.side).nextKey⟩⟩⟩ :=
    (books.employed id _ idle).moved nofun
  have accounts := books.park idle tries ((place _).trans (if_pos rfl)) unsettled
    (fun address apart => (place address).trans (if_neg apart)) content seats charges nothing
  exact books.change idle housed tries.stays follows employed (Nat.le_refl _) charges
    (by rw [heard]; rfl) accounts

end Books

/-- The books are right after a call of a worker: it goes on with the reply, or it has parked and
paid with a poll. -/
def Recorded (workload : Workload) (config : Config) (opened : Bool) (fuel : Nat)
    (tasks : List (Task Worker Message)) (id : Nat) (state : Worker) (bus : Bus Message) :
    Progress Message → Prop
  | .finished reply =>
    Books workload config opened (fuel + 1) bus (tasks.set id ⟨state.after (.reply reply), .fresh⟩)
  | .parked suspended =>
    Books workload config opened fuel bus (tasks.set id ⟨state, .parked 0 suspended⟩)

namespace Books

variable {workload : Workload} {config : Config} {opened : Bool} {fuel : Nat} {bus : Bus Message}
  {tasks : List (Task Worker Message)} {id remaining : Nat} {channel : Channel Message}
  {call : Call Message} {state : Worker} {consumer : Consumer}
  {outcome : Outcome Message (Progress Message)}

/-- A call of a producer on the open channel. -/
theorem sends (books : Books workload config opened (fuel + 1) bus tasks)
    (idle : tasks[id]? = some ⟨.producer (workload.producer id remaining), .fresh⟩)
    (follows : (workload.producer id remaining).next ⟨0⟩ = some (.call 0 call))
    (here : bus.channel? ⟨0⟩ = some channel)
    (attempted : bus.Attempted ⟨0⟩ channel id call outcome) :
    Recorded workload config opened fuel tasks id (.producer (workload.producer id remaining))
      outcome.bus outcome.result := by
  obtain ⟨count, asks⟩ := Producer.asks_of_call follows
  have sound := books.housed.sound
  have some := asks.some
  have tries := attempted.tries sound here asks.named
  have charges := books.charges here attempted
  have heard := channel.missing_bill call
  obtain ⟨reply?, new, tried, billed, result⟩ := attempted
  have becomes := billed.becomes
  cases tried with
  | moved moves =>
    cases moves with
    | sentNothing _ nothing =>
      rw [asks.offers] at nothing
      have length := congrArg List.length nothing
      rw [Message.length_series, List.length_nil] at length
      omega
    | tookNothing receiver => rw [asks.sender] at receiver; contradiction
    | accepted given spare =>
      have length : (channel.fitting call.offers).length = min channel.freeSpace count := by
        rw [Channel.length_fitting, asks.offers, Message.length_series]
      have nonempty := List.length_pos_iff.mpr (Channel.fitting_ne_nil given spare)
      have nothing : (channel.bill call).delivered = 0 := by
        rw [Channel.bill_of_accepted given spare]
        rfl
      have less : (channel.fitting call.offers).length ≤ count := by omega
      rw [result] at tries ⊢
      exact books.sent idle asks nonempty less tries charges heard
        (books.accept idle here asks becomes charges nothing)
    | released first rest held => rw [asks.modest] at held; contradiction
  | handedOff stuck offered handed =>
    have one : (channel.bill call).delivered = 1 := by
      rw [Channel.bill_of_handedOff stuck offered handed]
      rfl
    rw [result] at tries ⊢
    exact books.sent idle asks Nat.one_pos some tries charges heard
      (books.handOff idle here asks offered handed becomes charges one)
  | tookOffer stuck wanted => exact absurd asks.modest wanted
  | offering stuck offered nobody =>
    rw [result]
    have seats := becomes.length_roster here
      [⟨⟨channel.generation, .senders, (channel.queue .senders).nextKey⟩, id⟩] []
      (channel.roster_park .senders _ (Option.some id))
    simp only [List.length_singleton, List.length_nil] at seats
    have nothing : (channel.bill call).delivered = 0 := by
      rw [Channel.bill_of_offering stuck offered nobody]
      rfl
    exact books.wait idle follows here (.offering stuck offered nobody) becomes asks.named rfl
      (by omega) charges nothing heard
  | awaiting stuck wanted => exact absurd asks.modest wanted

/-- A call of a consumer on the open channel. -/
theorem receives (books : Books workload config opened (fuel + 1) bus tasks)
    (idle : tasks[id]? = some ⟨.consumer consumer, .fresh⟩)
    (follows : consumer.next ⟨0⟩ = some (.call 0 call)) (here : bus.channel? ⟨0⟩ = some channel)
    (attempted : bus.Attempted ⟨0⟩ channel id call outcome) :
    Recorded workload config opened fuel tasks id (.consumer consumer) outcome.bus
      outcome.result := by
  obtain ⟨rfl, busy⟩ := Consumer.receives_of_call follows
  have sound := books.housed.sound
  have tries := attempted.tries sound here rfl
  have charges := books.charges here attempted
  have heard := channel.missing_bill (.receive ⟨0⟩)
  obtain ⟨reply?, new, tried, billed, result⟩ := attempted
  have becomes := billed.becomes
  cases tried with
  | moved moves =>
    cases moves with
    | sentNothing sender => contradiction
    | tookNothing receiver nothing => contradiction
    | accepted given => exact absurd rfl given
    | released first rest held =>
      have few : (first :: rest).length ≤ 1 := held ▸ List.length_take_le _ _
      have one : (channel.bill (.receive ⟨0⟩)).delivered = 1 := by
        rw [Channel.bill_of_released held]
        exact Nat.le_antisymm few (Nat.succ_pos _)
      rw [result] at tries ⊢
      exact books.received idle busy tries charges heard
        (books.release idle here held becomes charges one)
  | handedOff stuck offered => contradiction
  | tookOffer stuck wanted taken =>
    have one : (channel.bill (.receive ⟨0⟩)).delivered = 1 := by
      rw [Channel.bill_of_tookOffer stuck wanted taken]
      rfl
    rw [result] at tries ⊢
    exact books.received idle busy tries charges heard
      (books.takeOffer idle here taken becomes charges one)
  | offering stuck offered => contradiction
  | awaiting stuck wanted nothing =>
    rw [result]
    have unhinted := channel.roster_wake .senders (if channel.isRendezvous then 1 else 0)
    rw [books.nobody_hinted here nothing] at unhinted
    have moved := (unhinted.cons _).trans
      ((channel.wake .senders (if channel.isRendezvous then 1 else 0)).roster_park .receivers .empty
        (some id))
    have seats := becomes.length_roster here [_] [] moved
    simp only [List.length_singleton, List.length_nil] at seats
    have nobody : (channel.bill (.receive ⟨0⟩)).delivered = 0 := by
      rw [Channel.bill_of_awaiting stuck wanted nothing]
      rfl
    exact books.wait idle follows here (.awaiting stuck wanted nothing) becomes rfl rfl
      (by omega) charges nobody heard

end Books

end ChannelBus
