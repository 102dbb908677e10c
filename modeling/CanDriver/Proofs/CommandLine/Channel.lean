import CanDriver.Proofs.CommandLine.Listening
import CanDriver.Proofs.Polling.Settling

namespace CanDriver

/-!
# What the worker of a dump sends

* `Item.data?` — the data frame that is read from a receive socket; `Cli.framesOf` — those of items in
  order; `Cli.recordsOf` — their records;
* `Cli.exists_taken` — what a turn takes from a queue; `Cli.sent_turn_rx` — what is sent of it;
* `Cli.Forwards` — the worker took items from the queue of the receive socket, and sent the records of
  their data frames, each once and in order, and nothing else;
* `Cli.Tuned.goes`, `Cli.Tuned.turns_forwards` — one turn of the worker forwards, and any number of them;
  `Cli.Tuned.tick_forwards` — the end of a wait forwards;
* `Cli.Listening.turns`, `Cli.Listening.tick` — turns and ticks keep a host where no other sockets are
  open.
-/

open Host Session

/-! ### Data frames -/

/-- The data frame that a receive of `item` brings, with its instant; `none` for error frames and
    for items that end the turn. -/
def Item.data? (c : Config) (fd : Fd) (item : Item) : Option (Frame × Instant) :=
  if item.endsTurn then none
  else (item.event? c .receive fd).bind fun e => if e.isError then none else some (e.frame, e.instant)

namespace Cli

/-- The data frames among `items`, in order. -/
def framesOf (c : Config) (fd : Fd) (items : List Item) : List (Frame × Instant) :=
  items.filterMap (·.data? c fd)

/-- The records of `framesOf`, which are what `dumpHandler` sends for the items. -/
def recordsOf (c : Config) (fd : Fd) (items : List Item) : List FrameRecord :=
  (framesOf c fd items).map fun p => .of p.1 p.2

variable {rx : Fd} {c : Config} {s s' : Session} {h h₁ h' : Host}

@[simp] theorem recordsOf_nil : recordsOf c rx [] = [] := rfl

theorem recordsOf_cons (item : Item) (items : List Item) :
    recordsOf c rx (item :: items) =
      ((item.data? c rx).map fun p => .of p.1 p.2).toList ++ recordsOf c rx items := by
  unfold recordsOf framesOf
  cases brings : item.data? c rx with
  | none   => rw [List.filterMap_cons_none brings, Option.map_none, Option.toList_none, List.nil_append]
  | some _ => rw [List.filterMap_cons_some brings, List.map_cons, Option.map_some, Option.toList_some,
      List.singleton_append]

theorem recordsOf_append (items more : List Item) :
    recordsOf c rx (items ++ more) = recordsOf c rx items ++ recordsOf c rx more := by
  rw [recordsOf, framesOf, List.filterMap_append, List.map_append]
  rfl

/-- What a turn takes from a queue, up to `afterTurn`, has the data frames of `turnItems`: the item
    that ends the turn has none. -/
theorem exists_taken (c : Config) (rx : Fd) (queue : List Item) :
    ∃ taken, queue = taken ++ afterTurn queue ∧
      recordsOf c rx taken = recordsOf c rx (turnItems queue) := by
  induction queue with
  | nil => exact ⟨[], rfl, rfl⟩
  | cons item rest ih =>
    cases ends : item.endsTurn with
    | true =>
      have nothing : turnItems (item :: rest) = [] := by simp [turnItems, ends]
      have others : afterTurn (item :: rest) = rest := by simp [afterTurn, ends]
      have none_ : item.data? c rx = none := if_pos ends
      -- The item that ends the turn is taken too, but brings no frame.
      refine ⟨[item], by rw [others, List.singleton_append], ?_⟩
      rw [recordsOf_cons, none_, nothing]
      rfl
    | false =>
      obtain ⟨taken, whole, same⟩ := ih
      have reads : turnItems (item :: rest) = item :: turnItems rest := by simp [turnItems, ends]
      have others : afterTurn (item :: rest) = afterTurn rest := by simp [afterTurn, ends]
      refine ⟨item :: taken, by rw [others, List.cons_append, ← whole], ?_⟩
      rw [reads, recordsOf_cons, recordsOf_cons, same]

/-! ### What is sent of a turn -/

theorem sent_announce (r : Registry) (n : Notice) : (r.announce n).filterMap sent? = [] := by
  rw [Registry.announce, List.filterMap_map]
  exact List.filterMap_eq_nil_iff.mpr fun _ _ => rfl

/-- With `dumpHandler` as the only receive handler, an event sends a record just if it is a data
    frame from `rx`. -/
theorem sent_deliveries {r : Registry} (only : r.rx = [(rx, dumpHandler)]) (e : Event) :
    (r.deliveries e).filterMap sent? =
      if (e.isRx ∧ ¬ e.isError) ∧ e.origin = some rx then [.of e.frame e.instant] else [] := by
  have told : (e.notices.flatMap r.announce).filterMap sent? = [] := by
    rw [List.filterMap_flatMap, List.flatMap_eq_nil_iff]
    exact fun n _ => sent_announce r n
  rw [Registry.deliveries, List.filterMap_append, told, List.nil_append, Registry.frameCalls]
  by_cases data : e.isRx ∧ ¬ e.isError
  · rw [if_pos data]
    cases origin : e.origin with
    | none    => simp
    | some fd =>
      by_cases own : fd = rx
      · simp [data, own, Registry.handlersFor, only, sent?]
      · simp [own, Ne.symm own, Registry.handlersFor, only]
  · rw [if_neg data, if_neg fun sends => data sends.1]
    rfl

/-- A turn of `rx` sends the records of the data frames that it reads. -/
theorem sent_turn_rx (handlers : s.registry.rx = [(rx, dumpHandler)]) (role : s.roleOf rx = .receive)
    (queue : List Item) :
    ((s.turnEvents rx queue).flatMap s.registry.deliveries).filterMap sent? =
      recordsOf s.config rx (turnItems queue) := by
  have goes : ∀ item ∈ turnItems queue, item.endsTurn = false := fun item there => by
    simpa using List.mem_takeWhile_imp there
  rw [turnEvents, role]
  generalize turnItems queue = items at goes
  induction items with
  | nil => rfl
  | cons item items ih =>
    obtain ⟨first, others⟩ := List.forall_mem_cons.mp goes
    -- Of the items that do not end a turn all are datagrams, and so events of `rx`.
    cases item with
    | failure _ => cases first
    | datagram bytes controls =>
      let e := Event.ofDatagram s.config .receive rx bytes controls
      have brings : Item.event? s.config .receive rx (.datagram bytes controls) = some e := rfl
      have own : e.isRx = true ∧ e.origin = some rx := ⟨rfl, rfl⟩
      rw [List.filterMap_cons_some brings, List.flatMap_cons, List.filterMap_append, ih others,
        sent_deliveries handlers, recordsOf_cons]
      congr 1
      by_cases error : e.isError <;> simp [Item.data?, first, brings, own, error]

/-- A turn of the transmit socket sends nothing: its events are no receive events. -/
theorem sent_turn_tx {fd : Fd} (handlers : s.registry.rx = [(rx, dumpHandler)])
    (role : s.roleOf fd = .transmit) (queue : List Item) :
    ((s.turnEvents fd queue).flatMap s.registry.deliveries).filterMap sent? = [] := by
  rw [List.filterMap_flatMap, List.flatMap_eq_nil_iff]
  intro e there
  obtain ⟨bytes, controls, rfl⟩ := exists_datagram there
  rw [sent_deliveries handlers, role]
  exact if_neg fun sends => Bool.false_ne_true sends.1.1

/-- A poll sends the records of what it reads from `rx`, if `rx` is among the sockets that
    it serves. -/
theorem Tuned.sent_pending (tuned : Tuned rx c s) (k : Kernel) :
    ((s.pendingEvents k (s.served k)).flatMap s.registry.deliveries).filterMap sent? =
      if rx ∈ s.served k then recordsOf c rx (turnItems (k.queue rx)) else [] := by
  have there : rx ∈ s.waitSet.rx := by
    rw [tuned.sockets]
    exact List.mem_singleton_self rx
  have apart : s.waitSet.tx ≠ some rx := tuned.apart rx there
  have receives : s.roleOf rx = .receive := if_neg apart
  have transmits : s.roleOf s.tx = .transmit := if_pos tuned.coherent.tx
  have other : rx ≠ s.tx := fun same => apart (same ▸ tuned.coherent.tx)
  have own := sent_turn_rx tuned.handlers receives (k.queue rx)
  have theirs := sent_turn_tx tuned.handlers transmits (k.queue s.tx)
  rw [tuned.config] at own
  unfold pendingEvents served
  rw [tuned.sockets, tuned.coherent.tx]
  -- The two sockets are served or not, each by what the wait reports of it.
  by_cases one : k.report rx &&& Kernel.readable ≠ 0 <;>
    by_cases two : k.report s.tx &&& Kernel.readable ≠ 0 <;>
      simp [one, two, own, theirs, other]

end Cli

/-! ### From one host to another -/

namespace Cli

/-- What was sent over the channel so far. -/
def sent (h : Host) : List FrameRecord := h.journal.callbacks.filterMap sent?

/-- On the way from `h` to `h'` the worker took items from the queue of `rx` and sent the records of
    their data frames, each once and in order, and nothing else. -/
structure Forwards (rx : Fd) (c : Config) (s : Session) (h : Host) (s' : Session) (h' : Host) : Prop where
  alike : s.Alike s'
  sound : s'.poisoned = false
  taken : ∃ items, h.kernel.queue rx = items ++ h'.kernel.queue rx ∧
    sent h' = sent h ++ recordsOf c rx items

variable {rx : Fd} {c : Config} {s s₁ s' : Session} {h h₁ h' : Host}

/-- `Forwards` where nothing was read. -/
theorem Forwards.of_same (alike : s.Alike s') (sound : s'.poisoned = false)
    (queue : h'.kernel.queue rx = h.kernel.queue rx) (same : sent h' = sent h) : Forwards rx c s h s' h' :=
  ⟨alike, sound, [], queue.symm, by rw [same, recordsOf_nil, List.append_nil]⟩

theorem Forwards.trans (first : Forwards rx c s h s₁ h₁) (more : Forwards rx c s₁ h₁ s' h') :
    Forwards rx c s h s' h' := by
  obtain ⟨items, queue, records⟩ := first.taken
  obtain ⟨items', queue', records'⟩ := more.taken
  refine ⟨first.alike.trans more.alike, more.sound, items ++ items', ?_, ?_⟩
  · rw [queue, queue', List.append_assoc]
  · rw [records', records, recordsOf_append, List.append_assoc]

/-- `Tuned` is kept along `Forwards`. -/
theorem Forwards.tuned (forwards : Forwards rx c s h s' h') (tuned : Tuned rx c s) : Tuned rx c s' where
  config   := forwards.alike.config.trans tuned.config
  coherent := forwards.alike.coherent tuned.coherent
  apart    := forwards.alike.waitSet ▸ tuned.apart
  sockets  := forwards.alike.waitSet ▸ tuned.sockets
  handlers := forwards.alike.registry ▸ tuned.handlers
  returns  := forwards.alike.registry ▸ tuned.returns
  sound    := forwards.sound

variable (tuned : Tuned rx c s)

include tuned

/-- **Step: one turn of the worker forwards.** The datagrams that `drain` takes are those whose
    records it sends. -/
theorem Tuned.goes (turn : s.Goes h s' h') : Forwards rx c s h s' h' := by
  obtain ⟨alike, sound⟩ := turn.alike
  refine ⟨alike, sound.trans tuned.sound, ?_⟩
  cases turn with
  | enters _ callbacks queues => exact ⟨[], (queues rx).symm, by simp [sent, callbacks]⟩
  | polls _ _ drained =>
    have made : sent h' = sent h ++
        if rx ∈ s.served h.kernel then recordsOf c rx (turnItems (h.kernel.queue rx)) else [] := by
      rw [sent, drained.callbacks, List.filterMap_append, tuned.sent_pending]
      rfl
    have queue := drained.queues rx
    -- A socket that is not ready is left alone.
    by_cases ready : rx ∈ s.served h.kernel
    · obtain ⟨items, whole, same⟩ := exists_taken c rx (h.kernel.queue rx)
      rw [if_pos ready] at made queue
      exact ⟨items, by rw [queue]; exact whole, by rw [made, same]⟩
    · rw [if_neg ready] at made queue
      exact ⟨[], queue.symm, made⟩

/-- **Run: any number of turns forward.** By induction on the number, with `Tuned.goes`. -/
theorem Tuned.turns_forwards (interval : Duration) (n : Nat) (h : Host) :
    ∃ s' h', (s.turns interval n : HostM Empty Session) h = .ok s' h' ∧ Forwards rx c s h s' h' := by
  induction n generalizing s h with
  | zero => exact ⟨s, h, rfl, .of_same (.refl s) tuned.sound rfl rfl⟩
  | succ n ih =>
    obtain ⟨-, run⟩ | ⟨s₁, h₁, turn, run⟩ := turns_cases tuned.returns tuned.apart tuned.sound interval n h
    · exact ⟨s, h.past .pause, run, .of_same (.refl s) tuned.sound rfl rfl⟩
    · have one := tuned.goes turn
      obtain ⟨s', h', rest, more⟩ := ih (one.tuned tuned) h₁
      exact ⟨s', h', run.trans rest, one.trans more⟩

/-- After a wait that failed or reported nothing, `afterWait` reads nothing and sends nothing. -/
theorem Tuned.afterWait_unready {result : Except Errno (List Reported)}
    (nothing : ∀ ready, result = .ok ready → ready = []) (h : Host) :
    ∃ outcome h', (s.afterWait result : HostM Empty (Session × Outcome)) h = .ok (s, outcome) h' ∧
      outcome ≠ .panicked ∧ h'.kernel = h.kernel ∧ sent h' = sent h := by
  cases result with
  | ok ready =>
    obtain rfl := nothing ready rfl
    exact ⟨.done, h, rfl, nofun, rfl, rfl⟩
  | error e =>
    unfold afterWait
    dsimp only
    by_cases interrupted : e = Errno.interrupted
    · rw [if_pos interrupted]
      exact ⟨.done, h, rfl, nofun, rfl, rfl⟩
    · have calm := tuned.returns.announce (.waitFailed e) h.journal.callbacks
      have silent := sent_announce s.registry (.waitFailed e)
      rw [if_neg interrupted, bind_ok (called_apply ..), calm]
      refine ⟨.failed (.os .pollWait e), _, rfl, nofun, rfl, ?_⟩
      simp [sent, silent, Callback.untilPanic_eq_self calm, Effect.callback?]

/-- Giving the lock back after such a wait changes only the state of the worker. -/
theorem Tuned.unready_forwards {result : Except Errno (List Reported)} {timeout : Nat}
    (waits : s.worker = some (.waiting timeout)) (nothing : ∀ ready, result = .ok ready → ready = [])
    (h : Host) :
    ∃ s' h', (do
        let (s, outcome) ← s.afterWait result
        return (← s.afterPoll outcome, true) : HostM Empty (Session × Bool)) h = .ok (s', true) h' ∧
      Forwards rx c s h s' h' := by
  obtain ⟨outcome, h₁, waited, calm, kernel, silent⟩ := tuned.afterWait_unready nothing h
  have queue : h₁.kernel.queue rx = h.kernel.queue rx := by rw [kernel]
  have alike : s.Alike { s with worker := some .asking } := ⟨rfl, rfl, rfl, rfl, rfl, by rw [waits]; rfl⟩
  rw [bind_ok waited]
  obtain asks | ⟨r, asks⟩ := afterPoll_asks calm h₁
  · exact ⟨_, h₁, bind_ok asks, .of_same alike tuned.sound queue silent⟩
  · refine ⟨_, _, bind_ok asks, .of_same alike tuned.sound queue ?_⟩
    rw [← silent, sent, Journal.callbacks_push_silent rfl]
    rfl

/-- **The end of a wait forwards**, whether it timed out or failed. -/
theorem Tuned.tick_forwards (h : Host) :
    ∃ s' waited h', (s.tick : HostM Empty (Session × Bool)) h = .ok (s', waited) h' ∧
      Forwards rx c s h s' h' := by
  have stays (h : Host) : Forwards rx c s h s h := .of_same (.refl s) tuned.sound rfl rfl
  have asked : (fault .workerWait : HostM Empty (Option Errno)) h =
      .ok (h.kernel.nextFault .workerWait) (h.past .workerWait) := rfl
  unfold tick
  -- Only a worker that waits has a wait to end.
  rcases worker : s.worker with _ | (_ | timeout | _ | _)
  · exact ⟨s, false, h, rfl, stays h⟩
  · exact ⟨s, false, h, rfl, stays h⟩
  · have before : Forwards rx c s h s (h.past .workerWait) := .of_same (.refl s) tuned.sound rfl rfl
    dsimp only
    rw [bind_ok asked]
    cases h.kernel.nextFault .workerWait with
    | some e =>
      have nothing : ∀ ready, (.error e : Except Errno (List Reported)) = .ok ready → ready = [] := nofun
      obtain ⟨s', h', run, more⟩ := tuned.unready_forwards worker nothing (h.past .workerWait)
      exact ⟨s', true, h', run, before.trans more⟩
    | none =>
      have nothing : ∀ ready, (.ok [] : Except Errno (List Reported)) = .ok ready → ready = [] :=
        fun _ same => (Except.ok.inj same).symm
      obtain ⟨s', h', run, more⟩ := tuned.unready_forwards worker nothing (h.past .workerWait)
      exact ⟨s', true, h', run, before.trans more⟩
  · exact ⟨s, false, h, rfl, stays h⟩
  · exact ⟨s, false, h, rfl, stays h⟩

omit tuned

/-- `Forwards` seen from the hosts alone, with what was sent as a difference of journals, as
    `Dumping.worked` has it. -/
def Sends (rx : Fd) (c : Config) (h h' : Host) : Prop :=
  ∃ items, h.kernel.queue rx = items ++ h'.kernel.queue rx ∧
    (h'.journal.callbacks.drop h.journal.callbacks.length).filterMap sent? = recordsOf c rx items

/-- `Listening` is kept along `Forwards`, and the way satisfies `Sends`. -/
theorem Listening.forwards (listening : Listening rx c s h) (more : Forwards rx c s h s' h')
    (course : h.Custody h') (holds : h'.Holds (s.estate [])) : Listening rx c s' h' ∧ Sends rx c h h' := by
  have held : s'.estate [] = s.estate [] := by rw [Session.estate, Session.estate, more.alike.sockets]
  obtain ⟨items, queue, records⟩ := more.taken
  obtain ⟨es, journal, -⟩ := course
  have calls : h'.journal.callbacks = h.journal.callbacks ++ es.filterMap Effect.callback? := by
    rw [Journal.callbacks, journal, List.filterMap_append]
    rfl
  refine ⟨⟨more.tuned listening.toTuned, held ▸ holds⟩, items, queue, ?_⟩
  rw [sent, calls, List.filterMap_append] at records
  rw [calls, List.drop_left]
  exact List.append_cancel_left records

/-- **`Listening` is kept by any number of turns**, which satisfy `Sends`. -/
theorem Listening.turns {interval : Duration} {n : Nat} (listening : Listening rx c s h)
    (run : (s.turns interval n : HostM Empty Session) h = .ok s' h') :
    Listening rx c s' h' ∧ Sends rx c h h' := by
  obtain ⟨_, _, run₁, more⟩ := listening.turns_forwards interval n h
  obtain ⟨rfl, rfl⟩ := EStateM.Result.ok.inj (run₁.symm.trans run)
  obtain ⟨_, _, run₂, course, _, holds, rfl, -⟩ :=
    (Session.turns_steady listening.coherent.heldBy n).answers listening.holds
  obtain ⟨rfl, rfl⟩ := EStateM.Result.ok.inj (run₂.symm.trans run)
  exact listening.forwards more course holds

/-- **`Listening` is kept by the end of a wait**, which satisfies `Sends`. -/
theorem Listening.tick {waited : Bool} (listening : Listening rx c s h)
    (run : (s.tick : HostM Empty (Session × Bool)) h = .ok (s', waited) h') :
    Listening rx c s' h' ∧ Sends rx c h h' := by
  obtain ⟨_, _, _, run₁, more⟩ := listening.tick_forwards h
  obtain ⟨same, rfl⟩ := EStateM.Result.ok.inj (run₁.symm.trans run)
  obtain ⟨rfl, rfl⟩ := Prod.mk.inj same
  obtain ⟨_, _, run₂, course, _, holds, rfl, -⟩ := (Session.tick_steady).answers listening.holds
  obtain ⟨-, rfl⟩ := EStateM.Result.ok.inj (run₂.symm.trans run)
  exact listening.forwards more course holds

end Cli

end CanDriver
