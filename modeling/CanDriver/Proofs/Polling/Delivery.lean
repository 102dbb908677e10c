import CanDriver.Proofs.Polling.Turn
import Mathlib.Data.List.Basic

namespace CanDriver

/-!
# What a draining poll delivers

The turns of all ready sockets, put together:

* `Session.served` — the sockets that a poll reads from;
* `Session.Drained` — what is left after their turns: the callbacks made, the reads, the queues,
  the drop counter and the outcome, each computed from the queues as they were;
* `Session.sweep_spec` — the turns of distinct sockets, one after the other;
* `Poller` — who polls: a caller, or the worker, woken or not;
* `Session.afterWait_spec` — the turns of what a wait reports: what is pending is delivered.
-/

/-- The descriptor of a reported socket; `none` for the wake-up pipe. -/
def Reported.socket? : Reported → Option Fd
  | .socket fd => some fd
  | .wakeUp    => none

/-- The descriptors of all `receive` calls in the journal, in order. -/
def Journal.reads (j : Journal) : List Fd := j.toList.filterMap Effect.read?

@[simp] theorem Journal.reads_append (j : Journal) (es : List Effect) :
    Journal.reads (j ++ es) = Journal.reads j ++ es.filterMap Effect.read? := by
  simp [Journal.reads]

@[simp] theorem Journal.reads_push (j : Journal) (e : Effect) :
    Journal.reads (j.push e) = Journal.reads j ++ e.read?.toList := by
  cases h : e.read? <;> simp [Journal.reads, h]

namespace Session

open Host

variable {ε : Type}

/-! ### One socket after the other -/

/-- The `turnEvents` of the queues of `fds` in the kernel `k`, descriptor by descriptor. -/
def pendingEvents (s : Session) (k : Kernel) (fds : List Fd) : List Event :=
  fds.flatMap fun fd => s.turnEvents fd (k.queue fd)

/-- `pendingEvents` depends on the session by `turnEvents`, and on the kernel by the queues
    of `fds`. -/
theorem pendingEvents_congr {s s₁ : Session} {k k₁ : Kernel} {fds : List Fd}
    (turns : ∀ fd queue, s₁.turnEvents fd queue = s.turnEvents fd queue)
    (queues : ∀ fd ∈ fds, k₁.queue fd = k.queue fd) :
    s₁.pendingEvents k₁ fds = s.pendingEvents k fds :=
  List.flatMap_congr fun fd member => by rw [turns, queues fd member]

/-- `downFailure` where one of the queues of `fds` has `meetsDown`. -/
def pendingFailure (k : Kernel) (fds : List Fd) : Option Failure :=
  if (fds.map (k.queue ·)).any meetsDown then some downFailure else none

/-- The session `s'`, the outcome and the host `h'` after turns of the sockets `fds` from `s` and
    `h`. `first` is the failure that was met before these turns. -/
structure Drained (s : Session) (h : Host) (fds : List Fd) (first : Option Failure)
    (s' : Session) (outcome : Outcome) (h' : Host) : Prop where
  /-- The callbacks that are added are the `deliveries` of `pendingEvents`. -/
  callbacks : h'.journal.callbacks =
    h.journal.callbacks ++ (s.pendingEvents h.kernel fds).flatMap s.registry.deliveries
  /-- Each socket is read once more than it has `turnItems`, and no other socket is read. -/
  reads     : h'.journal.reads = h.journal.reads ++ fds.flatMap fun fd =>
    List.replicate ((turnItems (h.kernel.queue fd)).length + 1) fd
  /-- The queues of `fds` are cut to their `afterTurn`; all other queues stay. -/
  queues    : ∀ fd, h'.kernel.queue fd =
    if fd ∈ fds then afterTurn (h.kernel.queue fd) else h.kernel.queue fd
  /-- Nothing but `dropped` changes, to the last counter of `pendingEvents` that is not zero. -/
  session   : s' = { s with dropped := (s.pendingEvents h.kernel fds).foldl keptDropped s.dropped }
  outcome   : outcome = .ofFailure? (first <|> pendingFailure h.kernel fds)

/-- `Session.serve` is `Session.drain` on the queue of `fd`, with the callbacks made so far in
    the journal. -/
theorem serve_apply (s : Session) (fd : Fd) (h : Host) :
    (s.serve fd : HostM ε (Session × Ending)) h =
      let turn := s.drain fd (h.kernel.idleError fd) s.dropped h.journal.callbacks (h.kernel.queue fd)
      .ok ({ s with dropped := turn.dropped, poisoned := s.poisoned || turn.ending == .panicked },
          turn.ending)
        { kernel := h.kernel.setQueue fd turn.rest, journal := h.journal ++ turn.effects } := rfl

/-- `Drained` for the one socket that `Session.serve` serves, where no handler panics. -/
theorem serve_spec {s : Session} (quiet : s.registry.Returns) (fd : Fd) (h : Host) :
    ∃ s₁ h₁, (s.serve fd : HostM ε (Session × Ending)) h =
        .ok (s₁, if meetsDown (h.kernel.queue fd) then .networkDown else .emptied) h₁ ∧
      s.Drained h [fd] none s₁ (.ofFailure? (pendingFailure h.kernel [fd])) h₁ := by
  -- The turn is told by `drain_spec`; only its fields are used from here on.
  have spec := drain_spec quiet fd (h.kernel.idleError fd) (h.kernel.queue fd) s.dropped h.journal.callbacks
  rw [serve_apply]
  generalize s.drain fd (h.kernel.idleError fd) s.dropped h.journal.callbacks (h.kernel.queue fd) = turn
    at spec
  have calm : (turn.ending == .panicked) = false := by
    rw [spec.ending]
    split <;> rfl
  -- `calm` is why the lock stays as it was: `serve` poisons it only behind a panic.
  refine ⟨{ s with dropped := turn.dropped, poisoned := s.poisoned || turn.ending == .panicked },
    { kernel := h.kernel.setQueue fd turn.rest, journal := h.journal ++ turn.effects }, ?_, ?_⟩
  · simp only [spec.ending]
  · refine ⟨?_, ?_, ?_, ?_, rfl⟩
    · simp [pendingEvents, spec.callbacks]
    · simp [spec.reads]
    · intro fd'
      simp only [spec.rest, List.mem_singleton]
      rw [Kernel.queue_setQueue_map afterTurn rfl]
      by_cases same : fd' = fd
      · rw [if_pos same, if_pos same, same]
      · rw [if_neg same, if_neg same]
    · simp [pendingEvents, spec.dropped, calm]

namespace Drained

variable {s s' s₁ : Session} {h h' h₁ : Host} {fd : Fd} {fds : List Fd} {first : Option Failure}
  {outcome : Outcome}

/-- `Drained` does not see a log record that is added at the end. -/
theorem say {r : Log.Record} (one : s.Drained h fds first s' outcome h') :
    s.Drained h fds first s' outcome { h' with journal := h'.journal.push (.record r) } where
  callbacks := by simp [one.callbacks, Effect.callback?]
  reads     := by simp [one.reads, Effect.read?]
  queues    := one.queues
  session   := one.session
  outcome   := one.outcome

/-- `Drained` goes by the callbacks, the reads and the queues of the host at the start, so that `h`
    may stand for `h₁` with the same ones. -/
theorem of_start (calls : h₁.journal.callbacks = h.journal.callbacks)
    (reads : h₁.journal.reads = h.journal.reads)
    (queues : ∀ fd, h₁.kernel.queue fd = h.kernel.queue fd)
    (turns : s.Drained h₁ fds first s' outcome h') : s.Drained h fds first s' outcome h' := by
  have events : s.pendingEvents h₁.kernel fds = s.pendingEvents h.kernel fds :=
    pendingEvents_congr (fun _ _ => rfl) fun fd _ => queues fd
  have failure : pendingFailure h₁.kernel fds = pendingFailure h.kernel fds := by
    simp only [pendingFailure, queues]
  refine ⟨?_, ?_, ?_, ?_, ?_⟩
  · rw [turns.callbacks, calls, events]
  · simp only [turns.reads, reads, queues]
  · simp only [turns.queues, queues, implies_true]
  · rw [turns.session, events]
  · rw [turns.outcome, failure]

/-- `Drained` for `[fd]` and then for `fds` is `Drained` for `fd :: fds`, where `fd` is not
    among `fds`. -/
theorem cons (one : s.Drained h [fd] none s₁ (.ofFailure? (pendingFailure h.kernel [fd])) h₁)
    (more : s₁.Drained h₁ fds (first <|> pendingFailure h.kernel [fd]) s' outcome h')
    (fresh : fd ∉ fds) : s.Drained h (fd :: fds) first s' outcome h' := by
  -- The first turn leaves all that the later ones go by: their queues, the settings, the handlers.
  have kept : ∀ fd' ∈ fds, h₁.kernel.queue fd' = h.kernel.queue fd' := by
    intro fd' hfd'
    have other : fd' ≠ fd := fun same => fresh (same ▸ hfd')
    rw [one.queues, if_neg (by simpa using other)]
  have turns : ∀ fd' q, s₁.turnEvents fd' q = s.turnEvents fd' q := by
    intro fd' q
    rw [one.session]
    rfl
  have handlers : s₁.registry = s.registry := by rw [one.session]
  have events : s.pendingEvents h.kernel (fd :: fds) =
      s.pendingEvents h.kernel [fd] ++ s₁.pendingEvents h₁.kernel fds := by
    rw [pendingEvents_congr turns kept, ← List.singleton_append]
    exact List.flatMap_append
  refine ⟨?_, ?_, ?_, ?_, ?_⟩
  · rw [more.callbacks, one.callbacks, events, handlers, List.flatMap_append, List.append_assoc]
  · rw [more.reads, one.reads, List.flatMap_cons, List.flatMap_cons, List.flatMap_nil,
      List.append_nil, List.append_assoc]
    congr 2
    refine List.flatMap_congr fun fd' hfd' => ?_
    rw [kept fd' hfd']
  · intro fd'
    rw [more.queues]
    by_cases among : fd' ∈ fds
    · simp only [among, if_true, List.mem_cons, or_true, kept fd' among]
    · simp only [among, if_false, List.mem_cons, or_false, one.queues, List.not_mem_nil]
  · rw [more.session, events, List.foldl_append, one.session]
  · have down : pendingFailure h.kernel (fd :: fds) =
        (pendingFailure h.kernel [fd] <|> pendingFailure h₁.kernel fds) := by
      have rest : fds.map (h₁.kernel.queue ·) = fds.map (h.kernel.queue ·) :=
        List.map_congr_left kept
      unfold pendingFailure
      rw [rest, List.map_cons, List.map_singleton, List.any_cons, List.any_cons, List.any_nil,
        Bool.or_false]
      cases meetsDown (h.kernel.queue fd) <;> rfl
    rw [more.outcome, down]
    cases first <;> rfl

end Drained

/-- `Session.sweep` over distinct sockets is `Drained` for them; a `.wakeUp` among `ready`
    takes no turn. -/
theorem sweep_spec {s : Session} (quiet : s.registry.Returns) (ready : List Reported) (h : Host)
    (distinct : (ready.filterMap Reported.socket?).Nodup) (first : Option Failure) :
    ∃ s' outcome h', (sweep first ready s : HostM ε (Session × Outcome)) h =
        .ok (s', outcome) h' ∧
      s.Drained h (ready.filterMap Reported.socket?) first s' outcome h' := by
  induction ready generalizing s h first with
  | nil => exact ⟨s, .ofFailure? first, h, rfl, by simp [pendingEvents], by simp, by simp, rfl,
      by cases first <;> rfl⟩
  | cons what ready ih =>
    cases what with
    | wakeUp => exact ih quiet h distinct first
    | socket fd =>
      obtain ⟨fresh, distinct⟩ := List.nodup_cons.mp distinct
      obtain ⟨s₁, h₁, run, one⟩ := serve_spec quiet fd h
      have quiet₁ : s₁.registry.Returns := by
        rw [one.session]
        exact quiet
      have failure : pendingFailure h.kernel [fd] =
          if meetsDown (h.kernel.queue fd) then some downFailure else none := by
        simp [pendingFailure]
      rw [sweep, bind_ok run]
      cases down : meetsDown (h.kernel.queue fd) with
      | false =>
        obtain ⟨s', outcome, h', rest, more⟩ := ih quiet₁ h₁ distinct first
        refine ⟨s', outcome, h', rest, one.cons ?_ fresh⟩
        rw [failure, down]
        cases first <;> exact more
      | true =>
        obtain ⟨r, said⟩ : ∃ r, (s₁.readError fd .networkDown : HostM ε Unit) h₁ =
            .ok () { h₁ with journal := h₁.journal.push (.record r) } := ⟨_, rfl⟩
        -- The failure goes to the log, and the others take their turns all the same.
        obtain ⟨s', outcome, h', rest, more⟩ :=
          ih quiet₁ { h₁ with journal := h₁.journal.push (.record r) } distinct
            (first <|> some downFailure)
        rw [show some downFailure = pendingFailure h.kernel [fd] by rw [failure, down]; rfl] at more
        exact ⟨s', outcome, h', (bind_ok said).trans rest, one.say.cons more fresh⟩

end Session

/-! ### A draining poll -/

/-- The two callers of a draining poll: `Session.poll` and `Session.workerPoll`. -/
inductive Poller
  | caller (timeout : Option Duration)
  /-- The worker, behind its wait; where it was `woken`, the wake-up is among what is reported. -/
  | worker (woken : Bool)

/-- The draining poll of the poller. -/
def Poller.poll {ε : Type} (s : Session) : Poller → HostM ε (Session × Outcome)
  | .caller timeout => s.poll timeout
  | .worker woken   => s.workerPoll woken

/-- `Host.wait` without a scripted failure reports `Kernel.ready`, and drops the overrides
    of `fds`. -/
theorem Host.wait_apply {h : Host} (spared : h.kernel.nextFault .wait = none) (fds : List Fd)
    (timeout : Int) :
    wait fds timeout h = .ok (h.kernel.ready fds)
      { kernel  := { h.kernel with faults := (h.kernel.faults.take .wait).2 }.dropOverrides fds
        journal := h.journal.push (.call (.wait fds timeout none)) } := by
  have none_scripted : Option.filter (fun n => decide (n ≠ 0)) (h.kernel.faults.take .wait).1 = none :=
    spared
  unfold wait
  rw [bind_ok (fault_apply ..), none_scripted]
  rfl

/-- `Host.wait` with a scripted failure `e` ends with `e` and takes it from the script. -/
theorem Host.wait_of_fault {h : Host} {e : Errno} (fails : h.kernel.nextFault .wait = some e)
    (fds : List Fd) (timeout : Int) :
    wait fds timeout h = .error e
      { kernel  := { h.kernel with faults := (h.kernel.faults.take .wait).2 }
        journal := h.journal.push (.call (.wait fds timeout (some e))) } := by
  rw [Kernel.nextFault] at fails
  rw [wait, bind_ok (fault_apply ..), fails]
  rfl

/-- `Host.wait` without a scripted failure leaves callbacks, reads and queues as they are. -/
theorem Host.wait_of_nextFault {h : Host} (reports : h.kernel.nextFault .wait = none)
    (fds : List Fd) (timeout : Int) :
    ∃ h', wait fds timeout h = .ok (h.kernel.ready fds) h' ∧
      h'.journal.callbacks = h.journal.callbacks ∧ h'.journal.reads = h.journal.reads ∧
      ∀ fd, h'.kernel.queue fd = h.kernel.queue fd := by
  refine ⟨_, wait_apply reports fds timeout, ?_, ?_, ?_⟩
  · exact Journal.callbacks_push_silent rfl _
  · rw [Journal.reads_push]
    exact List.append_nil _
  · exact fun fd => Kernel.queue_dropOverrides

namespace Session

open Host

variable {ε : Type} {s : Session} {h : Host}

/-- `Session.lock` succeeds on a session that is not poisoned, and changes nothing. -/
theorem attempt_lock (free : s.poisoned = false) :
    (attempt s.lock : HostM ε (Except Failure Unit)) h = .ok (.ok ()) h := by
  rw [attempt, lock_of_sound free]

/-- `Session.locked` on a session that is not poisoned is its action. -/
theorem locked_of_sound (free : s.poisoned = false) (action : HostM ε (Session × Outcome)) :
    s.locked action h = action h := by
  rw [locked, bind_ok (attempt_lock free)]

/-- The sockets that a poll reads from: those among the receive sockets, in ascending order, and the
    transmit socket, that are reported ready. -/
def served (s : Session) (k : Kernel) : List Fd :=
  (s.waitSet.rx ++ s.waitSet.tx.toList).filter fun fd => k.report fd &&& Kernel.readable ≠ 0

/-- `Kernel.ready` for the descriptors of the wait-set is `Session.served`. -/
theorem ready_descriptors (s : Session) (k : Kernel) :
    k.ready (s.waitSet.descriptors none) = s.served k := by
  unfold Kernel.ready served WaitSet.descriptors
  rw [Option.toList_none, List.append_nil]

/-- `Session.afterWait` on what a wait reports, with or without a wake-up behind it, is `Drained`
    for `Session.served`. -/
theorem afterWait_spec (quiet : s.registry.Returns) (apart : s.waitSet.Apart) (h : Host)
    (k : Kernel) {pipe : List Reported} (empty : pipe.filterMap Reported.socket? = []) :
    ∃ s' outcome h', (s.afterWait (.ok ((s.served k).map Reported.socket ++ pipe)) :
        HostM ε (Session × Outcome)) h = .ok (s', outcome) h' ∧
      s.Drained h (s.served k) none s' outcome h' := by
  have sockets : ((s.served k).map Reported.socket ++ pipe).filterMap Reported.socket? = s.served k := by
    rw [List.filterMap_append, empty, List.append_nil, List.filterMap_map]
    exact List.filterMap_some
  have distinct : (s.served k).Nodup := by
    rw [← ready_descriptors]
    exact apart.nodup.filter _
  obtain ⟨s', outcome, h', run, turns⟩ := sweep_spec quiet
    ((s.served k).map Reported.socket ++ pipe) h (sockets.symm ▸ distinct) none
  exact ⟨s', outcome, h', run, sockets ▸ turns⟩

/-- `Session.poll` is `Drained` for `Session.served`, where no wait is made to fail. -/
theorem poll_spec (quiet : s.registry.Returns) (apart : s.waitSet.Apart) (free : s.poisoned = false)
    (reports : h.kernel.nextFault .wait = none) (timeout : Option Duration) :
    ∃ s' outcome h', (s.poll timeout : HostM ε (Session × Outcome)) h = .ok (s', outcome) h' ∧
      s.Drained h (s.served h.kernel) none s' outcome h' := by
  obtain ⟨h₁, run, calls, reads, queues⟩ := Host.wait_of_nextFault reports
    (s.waitSet.descriptors none) (Duration.pollMillis timeout)
  have waited : (s.waitFor timeout : HostM ε (Except Errno (List Fd))) h =
      .ok (.ok (s.served h.kernel)) h₁ := by
    rw [waitFor, attempt, run, ready_descriptors]
  have all : (Except.ok (s.served h.kernel) : Except Errno (List Fd)).map (·.map .socket) =
      .ok ((s.served h.kernel).map Reported.socket ++ []) := by
    rw [List.append_nil]
    rfl
  obtain ⟨s', outcome, h', turns, drained⟩ :=
    afterWait_spec quiet apart h₁ h.kernel List.filterMap_nil
  refine ⟨s', outcome, h', ?_, drained.of_start calls reads queues⟩
  rw [poll, locked_of_sound free, bind_ok waited, all, turns]

/-- `Session.workerPoll` is `Drained` for `Session.served`, `woken` or not. -/
theorem workerPoll_spec (quiet : s.registry.Returns) (apart : s.waitSet.Apart) (woken : Bool) :
    ∃ s' outcome h', (s.workerPoll woken : HostM ε (Session × Outcome)) h = .ok (s', outcome) h' ∧
      s.Drained h (s.served h.kernel) none s' outcome h' := by
  have empty : (if woken then [Reported.wakeUp] else []).filterMap Reported.socket? = [] := by
    cases woken <;> rfl
  -- The overrides are used up before the turns, which leaves the queues as they are.
  let h₁ : Host := { h with kernel := h.kernel.dropOverrides (s.waitSet.descriptors none) }
  obtain ⟨s', outcome, h', turns, drained⟩ := afterWait_spec quiet apart h₁ h.kernel empty
  have calls : h₁.journal.callbacks = h.journal.callbacks := rfl
  have reads : h₁.journal.reads = h.journal.reads := rfl
  have queues : ∀ fd, h₁.kernel.queue fd = h.kernel.queue fd := fun _ =>
    Kernel.queue_dropOverrides
  refine ⟨s', outcome, h', ?_, drained.of_start calls reads queues⟩
  rw [workerPoll, bind_ok (ask_apply ..), bind_ok (modifyKernel_apply ..), ready_descriptors, turns]

/-- Every event among `turnEvents` is `Event.ofDatagram` of some datagram. -/
theorem exists_datagram {fd : Fd} {queue : List Item} {e : Event} (he : e ∈ s.turnEvents fd queue) :
    ∃ bytes controls, e = .ofDatagram s.config (s.roleOf fd) fd bytes controls := by
  obtain ⟨item, -, brings⟩ := List.mem_filterMap.mp he
  cases item with
  | failure e' => exact absurd brings (by simp [Item.event?])
  | datagram bytes controls => exact ⟨bytes, controls, (Option.some.inj brings).symm⟩

/-- `Registry.deliveries` is `[]` for an event of the transmit socket without the error flag. -/
theorem deliveries_of_tx {fd : Fd} {queue : List Item} {e : Event} (tx : s.waitSet.tx = some fd)
    (he : e ∈ s.turnEvents fd queue) (data : e.isError = false) :
    s.registry.deliveries e = [] := by
  obtain ⟨bytes, controls, rfl⟩ := exists_datagram he
  rw [roleOf, if_pos tx] at data ⊢
  have plain : (Frame.ofWire bytes).isError = false := data
  simp [Event.ofDatagram, Registry.deliveries, Event.notices, Registry.frameCalls, Event.blank, plain]

/-- A `.frame` callback among the deliveries of a `turnEvents` event of `fd` goes to a handler that
    is registered for `fd`, which is no transmit socket. -/
theorem handler_of_frame {fd origin : Fd} {queue : List Item} {e : Event} {handler : RxHandler}
    {f : Frame} {t : Instant} (he : e ∈ s.turnEvents fd queue)
    (hc : .frame handler origin f t ∈ s.registry.deliveries e) :
    origin = fd ∧ (fd, handler) ∈ s.registry.rx ∧ s.waitSet.tx ≠ some fd := by
  obtain ⟨bytes, controls, rfl⟩ := exists_datagram he
  rcases List.mem_append.mp hc with hc | hc
  · -- Among the notices there is no `.frame`.
    obtain ⟨n, -, hc⟩ := List.mem_flatMap.mp hc
    obtain ⟨_, -, hc⟩ := List.mem_map.mp hc
    exact absurd hc (by simp)
  · -- The event of a transmit socket has no receive flag, so that it reaches no handler.
    have rx : s.waitSet.tx ≠ some fd := by
      intro tx
      rw [roleOf, if_pos tx] at hc
      exact absurd hc List.not_mem_nil
    rw [roleOf, if_neg rx, Registry.frameCalls] at hc
    split at hc
    · -- The receive flag is set: the handlers are the entries whose descriptor is `fd`.
      obtain ⟨handler', bound, same⟩ := List.mem_map.mp hc
      obtain ⟨rfl, rfl, -, -⟩ := Callback.frame.inj same
      obtain ⟨entry, hentry, rfl⟩ := List.mem_map.mp bound
      obtain ⟨there, own⟩ := List.mem_filter.mp hentry
      obtain rfl : entry.1 = fd := by simpa using own
      exact ⟨rfl, there, rx⟩
    · exact absurd hc List.not_mem_nil

/-- `Session.dispatch` without a panic adds the effects of `deliveries e` to the journal, and does
    nothing else. -/
theorem dispatch_apply (quiet : s.registry.Returns) (free : s.poisoned = false) (e : Event)
    (h : Host) :
    (s.dispatch e : HostM ε (Session × Outcome)) h =
      .ok (s, .done)
        { h with journal := h.journal ++
            Callback.effectsOf h.journal.callbacks (s.registry.deliveries e) } := by
  rw [dispatch, locked_of_sound free, bind_ok (called_apply ..), bind_ok (addAll_apply ..),
    quiet.deliveries]
  rfl

/-- `Session.dispatch` without a panic adds the callbacks `deliveries e`. -/
theorem dispatch_spec (quiet : s.registry.Returns) (free : s.poisoned = false) (e : Event)
    (h : Host) :
    ∃ h', (s.dispatch e : HostM ε (Session × Outcome)) h = .ok (s, .done) h' ∧
      h'.journal.callbacks = h.journal.callbacks ++ s.registry.deliveries e := by
  refine ⟨_, dispatch_apply quiet free e h, ?_⟩
  rw [Journal.callbacks_append, Callback.callbacks_effectsOf,
    Callback.untilPanic_eq_self (quiet.deliveries e _)]

end Session

/-- **Exact delivery.** A draining poll makes the callbacks of each datagram that waits in a ready
    socket before the first receive that brings none, socket by socket and in order of arrival, and
    no others; these are the callbacks that `dispatch` makes.  It fails only where the network is
    down for one of the sockets.  A data frame is handed to the handlers of the socket that it was
    read from, and to nobody if that is the transmit socket. -/
theorem draining_poll_exact {ε : Type} (p : Poller) {s : Session} {h : Host}
    (quiet : s.registry.Returns) (apart : s.waitSet.Apart) (free : s.poisoned = false)
    (reports : h.kernel.nextFault .wait = none) :
    (∃ s' outcome h', (p.poll s : HostM ε (Session × Outcome)) h = .ok (s', outcome) h' ∧
      s.Drained h (s.served h.kernel) none s' outcome h') ∧
    (∀ e (h : Host), ∃ h', (s.dispatch e : HostM ε (Session × Outcome)) h = .ok (s, .done) h' ∧
      h'.journal.callbacks = h.journal.callbacks ++ s.registry.deliveries e) ∧
    (∀ fd, ∀ e ∈ s.turnEvents fd (h.kernel.queue fd),
      (s.waitSet.tx = some fd → e.isError = false → s.registry.deliveries e = []) ∧
      ∀ handler origin f t, .frame handler origin f t ∈ s.registry.deliveries e →
        origin = fd ∧ (fd, handler) ∈ s.registry.rx ∧ s.waitSet.tx ≠ some fd) := by
  refine ⟨?_, fun e h => Session.dispatch_spec quiet free e h, fun fd e he =>
    ⟨fun tx data => Session.deliveries_of_tx tx he data,
      fun handler origin f t hc => Session.handler_of_frame he hc⟩⟩
  cases p with
  | caller timeout => exact Session.poll_spec quiet apart free reports timeout
  | worker woken   => exact Session.workerPoll_spec quiet apart woken

/-! A session with a handler that returns on its one receive socket, and a host where that socket
holds a datagram, a failure and another datagram. -/

/-- A session with transmit socket 100 and receive socket 101, whose handler is `monitor`. -/
def Session.listening : Session where
  name     := "can0"
  index    := 3
  config   := .default
  tx       := 100
  txBuffer := 0
  rxBuffer := 0
  dropped  := 0
  waitSet  := (WaitSet.empty.setTx 100).insert 101
  registry := { rx := [(101, ⟨"monitor", .returns⟩)], errors := [.standard "can0"] }
  poisoned := false
  worker   := none

/-- A host for `Session.listening`: in socket 101 wait a datagram, the failure `networkDown`, and
    one more datagram. -/
def Host.withOutage : Host where
  kernel  := { Kernel.start [] .none [] with
    nextFd  := 102
    sockets := [⟨100, [], 0, 0, none⟩,
      ⟨101, [.datagram [1, 0, 0, 0, 1, 0, 0, 0, 7] [], .failure Errno.networkDown,
        .datagram [2] []], 0, 0, none⟩] }
  journal := #[]

/-- Socket 101 is read twice. Its first datagram goes to `monitor`, and the poll fails with
    `downFailure`. -/
theorem draining_poll_exact_listening :
    (Session.listening.served Host.withOutage.kernel = [101] ∧
      Session.pendingFailure Host.withOutage.kernel [101] = some Session.downFailure ∧
      (Session.listening.pendingEvents Host.withOutage.kernel [101]).length = 1) ∧
    ∃ s' outcome h', ((Poller.worker true).poll Session.listening :
        HostM Empty (Session × Outcome)) Host.withOutage = .ok (s', outcome) h' ∧
      Session.listening.Drained Host.withOutage
        (Session.listening.served Host.withOutage.kernel) none s' outcome h' := by
  have quiet : Session.listening.registry.Returns := by
    refine ⟨?_, ?_⟩ <;> simp [Session.listening]
  have apart : Session.listening.waitSet.Apart := by
    intro fd hfd tx
    obtain rfl : fd = 101 := List.mem_singleton.mp hfd
    exact absurd tx (by decide)
  exact ⟨⟨by decide, by decide, by decide⟩,
    (draining_poll_exact (.worker true) quiet apart rfl rfl).1⟩

end CanDriver
