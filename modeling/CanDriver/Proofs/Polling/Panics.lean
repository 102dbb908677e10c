import CanDriver.Proofs.Polling.OneDatagram

namespace CanDriver

/-!
# Handlers that panic

* `Callback.UpToPanic` — what is made of callbacks: all, or those up to the first that panics;
* `Session.Contained` — what is left of an operation that calls handlers with the lock: it makes its
  callbacks up to a panic, which poisons the lock, and nothing else of the session changes but the
  drop counter;
* `Session.serve_contained`, `sweep_contained`, `afterWait_contained` — the turn of a socket, the turns
  of sockets, and what follows a wait;
* `Calling` — the operations that call handlers: polls, those of the worker among them, and a
  delivery by hand;
* `Calling.contained` — all of them are.
-/

namespace Callback

/-- `UpToPanic called cs made panicked`: of the callbacks `cs`, after those `called` before, `made`
    are made. These are all of them, or those up to the first that panics, that one included;
    `panicked` tells which. -/
inductive UpToPanic (called cs : List Callback) : List Callback → Bool → Prop
  | whole (returns : anyPanics called cs = false) : UpToPanic called cs cs false
  | cut {before c rest} (split : cs = before ++ c :: rest) (returns : anyPanics called before = false)
      (panic : c.panics (called ++ before) = true) : UpToPanic called cs (before ++ [c]) true

/-- `untilPanic called cs` is what is made of `cs`, and `anyPanics called cs` tells whether
    one panics. -/
theorem upToPanic_untilPanic (called cs : List Callback) :
    UpToPanic called cs (untilPanic called cs) (anyPanics called cs) := by
  induction cs generalizing called with
  | nil => exact .whole rfl
  | cons c cs ih =>
    rw [untilPanic, anyPanics]
    cases panic : c.panics called with
    | true  =>
      have first : UpToPanic called (c :: cs) ([] ++ [c]) true :=
        .cut rfl rfl (by rw [List.append_nil]; exact panic)
      exact first
    | false =>
      -- The callbacks of `cs` come after `c`, which has returned.
      have goesOn : ∀ {bs}, anyPanics (called ++ [c]) bs = false → anyPanics called (c :: bs) = false :=
        fun none_ => by rw [anyPanics, panic, none_, Bool.or_self]
      have later := ih (called ++ [c])
      generalize untilPanic (called ++ [c]) cs = made, anyPanics (called ++ [c]) cs = panicked at later
      cases later with
      | whole returns           => exact .whole (goesOn returns)
      | cut split returns stops =>
        rw [List.append_assoc] at stops
        exact .cut (congrArg (c :: ·) split) (goesOn returns) stops

namespace UpToPanic

variable {called cs ds made more : List Callback} {panicked : Bool}

/-- `UpToPanic` of `cs` without a panic, and then of `ds`, is `UpToPanic` of `cs ++ ds`. -/
theorem append (first : UpToPanic called cs made false) (others : UpToPanic (called ++ made) ds more panicked) :
    UpToPanic called (cs ++ ds) (made ++ more) panicked := by
  cases first with
  | whole calm =>
    have goesOn : ∀ {bs}, anyPanics (called ++ cs) bs = false → anyPanics called (cs ++ bs) = false :=
      fun none_ => by rw [anyPanics_append, calm, none_, Bool.or_self]
    cases others with
    | whole returns           => exact .whole (goesOn returns)
    | cut split returns stops =>
      rw [List.append_assoc] at stops
      rw [← List.append_assoc]
      exact .cut (by rw [split, List.append_assoc]) (goesOn returns) stops

/-- `UpToPanic` of `cs` with a panic is `UpToPanic` of `cs ++ ds`, for any `ds`. -/
theorem append_of_panic (first : UpToPanic called cs made true) (ds : List Callback) :
    UpToPanic called (cs ++ ds) made true := by
  cases first with
  | cut split returns stops =>
    exact .cut (by rw [split, List.append_assoc, List.cons_append]) returns stops

end UpToPanic

end Callback

open Callback Host

namespace Session

variable {ε : Type} {s s₁ s' : Session} {h h₁ h' : Host} {all more : List Callback}
  {panicked : Bool}

/-! ### One socket -/

/-- `Session.drain` makes the callbacks of `turnEvents` as `UpToPanic` has it, and ends with
    `.panicked` exactly where one of them panics. -/
theorem drain_upToPanic (s : Session) (fd : Fd) (idle : Errno) (queue : List Item) (dropped : UInt32)
    (called : List Callback) :
    UpToPanic called ((s.turnEvents fd queue).flatMap s.registry.deliveries)
      ((s.drain fd idle dropped called queue).effects.filterMap Effect.callback?)
      ((s.drain fd idle dropped called queue).ending == .panicked) := by
  induction queue generalizing dropped called with
  | nil =>
    -- The receive at the end of the queue calls nobody.
    have silent := callbacks_read s.config (s.roleOf fd) fd (.failure idle)
    change UpToPanic called [] (((Item.failure idle).read s.config (s.roleOf fd) fd).1.filterMap
      Effect.callback?) false
    rw [silent]
    exact .whole rfl
  | cons item rest ih =>
    cases ends : item.endsTurn with
    | true =>
      have none_read : turnItems (item :: rest) = [] := by simp [turnItems, ends]
      have still : ((if item = .failure Errno.networkDown then Ending.networkDown else .emptied) ==
          .panicked) = false := by split <;> rfl
      rw [drain_cons_of_endsTurn ends, turnEvents, none_read]
      dsimp only
      rw [callbacks_read, still]
      exact .whole rfl
    | false =>
      obtain ⟨e, -, brings⟩ := reading_of_not_endsTurn s.config (s.roleOf fd) fd ends
      have events : s.turnEvents fd (item :: rest) = e :: s.turnEvents fd rest := by
        simp [turnEvents, turnItems, ends, brings]
      have first := upToPanic_untilPanic called (s.registry.deliveries e)
      rw [drain_cons_of_event ends brings, events, List.flatMap_cons]
      dsimp only
      cases panics : anyPanics called (s.registry.deliveries e) with
      | true =>
        rw [panics] at first
        simp only [if_true, List.filterMap_append, callbacks_read, List.nil_append,
          callbacks_effectsOf]
        exact first.append_of_panic _
      | false =>
        -- The rest of the turn comes after the callbacks of this datagram, which are all made.
        rw [panics, untilPanic_eq_self panics] at first
        simp only [Bool.false_eq_true, if_false, List.filterMap_append, callbacks_read,
          List.nil_append, callbacks_effectsOf, untilPanic_eq_self panics]
        exact first.append (ih _ _)

/-- The callbacks of `pendingEvents`. -/
def pendingCalls (s : Session) (k : Kernel) (fds : List Fd) : List Callback :=
  (s.pendingEvents k fds).flatMap s.registry.deliveries

/-- `pendingCalls` depends on the session by its registry and `turnEvents`, and on the kernel by the
    queues of `fds`. -/
theorem pendingCalls_congr {k k₁ : Kernel} {fds : List Fd} (handlers : s₁.registry = s.registry)
    (turns : ∀ fd queue, s₁.turnEvents fd queue = s.turnEvents fd queue)
    (queues : ∀ fd ∈ fds, k₁.queue fd = k.queue fd) : s₁.pendingCalls k₁ fds = s.pendingCalls k fds := by
  rw [pendingCalls, pendingCalls, pendingEvents_congr turns queues, handlers]

theorem pendingCalls_singleton (s : Session) (k : Kernel) (fd : Fd) :
    s.pendingCalls k [fd] = (s.turnEvents fd (k.queue fd)).flatMap s.registry.deliveries := by
  rw [pendingCalls, pendingEvents, List.flatMap_singleton]

theorem pendingCalls_cons (s : Session) (k : Kernel) (fd : Fd) (fds : List Fd) :
    s.pendingCalls k (fd :: fds) = s.pendingCalls k [fd] ++ s.pendingCalls k fds := by
  rw [pendingCalls, pendingEvents, List.flatMap_cons, List.flatMap_append, pendingCalls_singleton]
  rfl

/-- What an operation with the lock, which would make the callbacks `all`, leaves of `s` and `h`. It
    makes them up to a panic, and a panic poisons the lock. -/
structure Contained (s : Session) (h : Host) (all : List Callback) (s' : Session) (panicked : Bool)
    (h' : Host) : Prop where
  /-- The callbacks that are added are `UpToPanic` of `all`, after those in the journal. -/
  callbacks : ∃ made, UpToPanic h.journal.callbacks all made panicked ∧
    h'.journal.callbacks = h.journal.callbacks ++ made
  /-- Nothing but `dropped` and `poisoned` changes. -/
  session   : ∃ dropped, s' = { s with dropped, poisoned := s.poisoned || panicked }

namespace Contained

/-- `Contained` without callbacks, where the session stays. -/
theorem refl (s : Session) {h h' : Host} (silent : h'.journal.callbacks = h.journal.callbacks) :
    s.Contained h [] s false h' :=
  ⟨⟨[], .whole rfl, silent.trans (List.append_nil _).symm⟩, s.dropped, by rw [Bool.or_false]⟩

/-- `Contained` from `h₁` is `Contained` from `h`, where no callback is made between `h`
    and `h₁`. -/
theorem of_start (one : s.Contained h₁ all s' panicked h')
    (silent : h₁.journal.callbacks = h.journal.callbacks) : s.Contained h all s' panicked h' := by
  obtain ⟨callbacks, session⟩ := one
  exact ⟨silent ▸ callbacks, session⟩

/-- `Contained` up to `h₁` is `Contained` up to `h'`, where no callback is made between `h₁`
    and `h'`. -/
theorem of_end (one : s.Contained h all s' panicked h₁)
    (silent : h'.journal.callbacks = h₁.journal.callbacks) : s.Contained h all s' panicked h' := by
  obtain ⟨⟨made, cut, callbacks⟩, session⟩ := one
  exact ⟨⟨made, cut, silent.trans callbacks⟩, session⟩

/-- `Contained` for `all` without a panic, and then for `more`, is `Contained` for `all ++ more`. -/
theorem trans (one : s.Contained h all s₁ false h₁) (rest : s₁.Contained h₁ more s' panicked h') :
    s.Contained h (all ++ more) s' panicked h' := by
  obtain ⟨⟨made, cut, callbacks⟩, dropped₁, rfl⟩ := one
  obtain ⟨⟨others, cut', callbacks'⟩, dropped, rfl⟩ := rest
  rw [callbacks] at cut' callbacks'
  refine ⟨⟨made ++ others, cut.append cut', ?_⟩, dropped, by rw [Bool.or_false]⟩
  rw [callbacks', List.append_assoc]

/-- `Contained` for `all` with a panic is `Contained` for `all ++ more`. -/
theorem stop (one : s.Contained h all s' true h') (more : List Callback) :
    s.Contained h (all ++ more) s' true h' := by
  obtain ⟨⟨made, cut, callbacks⟩, session⟩ := one
  exact ⟨⟨made, cut.append_of_panic more, callbacks⟩, session⟩

end Contained

/-- `Contained` for `Host.called cs`, whose panic is that of `Callback.anyPanics`. -/
theorem calls_contained (cs : List Callback) (s : Session) (h : Host) :
    s.Contained h cs { s with poisoned := s.poisoned || anyPanics h.journal.callbacks cs }
      (anyPanics h.journal.callbacks cs)
      { h with journal := h.journal ++ effectsOf h.journal.callbacks cs } where
  callbacks := ⟨untilPanic h.journal.callbacks cs, upToPanic_untilPanic _ cs, by
    rw [Journal.callbacks_append, callbacks_effectsOf]⟩
  session   := ⟨s.dropped, rfl⟩

/-- `Session.serve` is `Contained` for the `pendingCalls` of its socket, and leaves all other queues
    as they are. -/
theorem serve_contained (s : Session) (fd : Fd) (h : Host) :
    ∃ s' ending h', (s.serve fd : HostM ε (Session × Ending)) h = .ok (s', ending) h' ∧
      s.Contained h (s.pendingCalls h.kernel [fd]) s' (ending == .panicked) h' ∧
      ∀ fd' ≠ fd, h'.kernel.queue fd' = h.kernel.queue fd' := by
  have cut := drain_upToPanic s fd (h.kernel.idleError fd) (h.kernel.queue fd) s.dropped
    h.journal.callbacks
  rw [← pendingCalls_singleton] at cut
  refine ⟨_, _, _, serve_apply s fd h, ⟨⟨_, cut, Journal.callbacks_append ..⟩, _, rfl⟩, ?_⟩
  intro fd' other
  rw [Kernel.queue_setQueue]
  exact if_neg fun own => other own.1

/-! ### All sockets -/

/-- `Session.sweep` over distinct sockets is `Contained` for their `pendingCalls`. -/
theorem sweep_contained (ready : List Reported) (s : Session) (h : Host)
    (distinct : (ready.filterMap Reported.socket?).Nodup) (first : Option Failure) :
    ∃ s' outcome h', (sweep first ready s : HostM ε (Session × Outcome)) h =
        .ok (s', outcome) h' ∧
      s.Contained h (s.pendingCalls h.kernel (ready.filterMap Reported.socket?)) s'
        (outcome == .panicked) h' := by
  induction ready generalizing s h first with
  | nil =>
    have calm : (Outcome.ofFailure? first == .panicked) = false := by cases first <;> rfl
    exact ⟨s, _, h, rfl, calm ▸ .refl s rfl⟩
  | cons what ready ih =>
    cases what with
    | wakeUp    => exact ih s h distinct first
    | socket fd =>
      obtain ⟨fresh, distinct⟩ := List.nodup_cons.mp distinct
      obtain ⟨s₁, ending, h₁, run, one, queues⟩ := serve_contained (ε := ε) s fd h
      -- The later turns go by the same handlers, and by queues that are as they were.
      have others : s₁.pendingCalls h₁.kernel (ready.filterMap Reported.socket?) =
          s.pendingCalls h.kernel (ready.filterMap Reported.socket?) := by
        obtain ⟨dropped, rfl⟩ := one.session
        exact pendingCalls_congr rfl (fun _ _ => rfl) fun fd' member =>
          queues fd' fun same => fresh (same ▸ member)
      -- Where the first turn did not panic, the others follow it; the host may have one more log
      -- record.
      have rest (h₂ : Host) {first : Option Failure} (kernel : h₂.kernel = h₁.kernel)
          (silent : h₂.journal.callbacks = h₁.journal.callbacks)
          (calm : (ending == .panicked) = false) :
          ∃ s' outcome h', (sweep first ready s₁ : HostM ε (Session × Outcome)) h₂ =
              .ok (s', outcome) h' ∧
            s.Contained h (s.pendingCalls h.kernel [fd] ++
              s.pendingCalls h.kernel (ready.filterMap Reported.socket?)) s' (outcome == .panicked) h' := by
        obtain ⟨s', outcome, h', swept, more⟩ := ih s₁ h₂ distinct first
        rw [kernel, others] at more
        rw [calm] at one
        exact ⟨s', outcome, h', swept, one.trans (more.of_start silent)⟩
      have whole : s.pendingCalls h.kernel ((Reported.socket fd :: ready).filterMap Reported.socket?) =
          s.pendingCalls h.kernel [fd] ++
            s.pendingCalls h.kernel (ready.filterMap Reported.socket?) := pendingCalls_cons ..
      rw [whole, sweep, bind_ok run]
      -- How the first turn ends decides whether the others are taken.
      cases ending with
      | emptied     => exact rest h₁ rfl rfl rfl
      | panicked    => exact ⟨s₁, .panicked, h₁, rfl, one.stop _⟩
      | networkDown =>
        obtain ⟨r, said⟩ : ∃ r, (s₁.readError fd .networkDown : HostM ε Unit) h₁ =
            .ok () { h₁ with journal := h₁.journal.push (.record r) } := ⟨_, rfl⟩
        obtain ⟨s', outcome, h', swept, contained⟩ :=
          rest { h₁ with journal := h₁.journal.push (.record r) } rfl
            (Journal.callbacks_push_silent rfl _) rfl
        exact ⟨s', outcome, h', (bind_ok said).trans swept, contained⟩

/-- The callbacks that follow a wait with this result where no handler panics: `pendingCalls` of
    what is reported, or `announce (.waitFailed e)`. -/
def waitCalls (s : Session) (k : Kernel) : Except Errno (List Reported) → List Callback
  | .ok ready => s.pendingCalls k (ready.filterMap Reported.socket?)
  | .error e  => if e = Errno.interrupted then [] else s.registry.announce (.waitFailed e)

/-- A wait of the session can have this result: a failure, or some of the descriptors of its
    wait-set, each once. -/
def Awaits (s : Session) : Except Errno (List Reported) → Prop
  | .ok ready => (ready.filterMap Reported.socket?).Sublist (s.waitSet.descriptors none)
  | .error _  => True

/-- `Session.afterWait` is `Contained` for `waitCalls`. -/
theorem afterWait_contained (apart : s.waitSet.Apart) {result : Except Errno (List Reported)}
    (awaits : s.Awaits result) (h : Host) :
    ∃ s' outcome h', (s.afterWait result : HostM ε (Session × Outcome)) h = .ok (s', outcome) h' ∧
      s.Contained h (s.waitCalls h.kernel result) s' (outcome == .panicked) h' := by
  cases result with
  | ok ready => exact sweep_contained ready s h (apart.nodup.sublist awaits) none
  | error e =>
    unfold afterWait waitCalls
    dsimp only
    by_cases interrupted : e = Errno.interrupted
    · rw [if_pos interrupted, if_pos interrupted]
      exact ⟨s, .done, h, rfl, .refl s rfl⟩
    · rw [if_neg interrupted, if_neg interrupted, bind_ok (called_apply ..), bind_ok (addAll_apply ..)]
      -- A wait that failed is announced, and only then answered.
      have told := calls_contained (s.registry.announce (.waitFailed e)) s h
      cases panics : anyPanics h.journal.callbacks (s.registry.announce (.waitFailed e)) with
      | true =>
        rw [panics, Bool.or_true] at told
        exact ⟨_, .panicked, _, rfl, told⟩
      | false =>
        rw [panics, Bool.or_false] at told
        exact ⟨s, .failed (.os .pollWait e), _, rfl, told.of_end (Journal.callbacks_push_silent rfl _)⟩

end Session

/-! ### All operations that call handlers -/

/-- The operations that call handlers with the lock. -/
inductive Calling
  /-- `Session.poll`, by a caller. -/
  | poll (timeout : Option Duration)
  /-- `Session.dispatch`, by a caller. -/
  | dispatch (e : Event)
  /-- `Session.workerPoll`, by the worker whose wait is over. -/
  | workerPoll (woken : Bool)
  /-- `Session.afterWait`, by the worker whose wait ended with `result`. -/
  | afterWait (result : Except Errno (List Reported))

namespace Calling

/-- Runs the operation in the session. -/
def run {ε : Type} (s : Session) : Calling → HostM ε (Session × Outcome)
  | .poll timeout     => s.poll timeout
  | .dispatch e       => s.dispatch e
  | .workerPoll woken => s.workerPoll woken
  | .afterWait result => s.afterWait result

/-- The callbacks of the operation where no handler panics. -/
def sequence (s : Session) (k : Kernel) : Calling → List Callback
  | .poll _           => s.waitCalls k ((s.waitAnswer k).map (·.map .socket))
  | .dispatch e       => s.registry.deliveries e
  | .workerPoll _     => s.waitCalls k (.ok ((s.served k).map .socket))
  | .afterWait result => s.waitCalls k result

/-- `Session.Awaits` for the result that `.afterWait` is given; nothing for the other operations. -/
def Fits (s : Session) : Calling → Prop
  | .afterWait result => s.Awaits result
  | _                 => True

end Calling

namespace Session

variable {ε : Type} {s : Session} {h : Host}

/-- `waitCalls` depends on the kernel by its queues alone. -/
theorem waitCalls_congr {k k₁ : Kernel} (queues : ∀ fd, k₁.queue fd = k.queue fd)
    (result : Except Errno (List Reported)) : s.waitCalls k₁ result = s.waitCalls k result := by
  cases result with
  | error e => rfl
  | ok ready => exact pendingCalls_congr rfl (fun _ _ => rfl) fun fd _ => queues fd

/-- `Session.served`, with or without a wake-up, is a result that `Session.Awaits` allows. -/
theorem awaits_served (s : Session) (k : Kernel) {pipe : List Reported}
    (empty : pipe.filterMap Reported.socket? = []) :
    s.Awaits (.ok ((s.served k).map .socket ++ pipe)) := by
  have sockets : ((s.served k).map Reported.socket ++ pipe).filterMap Reported.socket? = s.served k := by
    rw [List.filterMap_append, empty, List.append_nil, List.filterMap_map]
    exact List.filterMap_some
  rw [Awaits, sockets, ← ready_descriptors]
  exact List.filter_sublist

end Session

/-- **A panic is contained**: every `Calling` with a free lock is `Contained` for its `sequence`.
    Polls reduce to `afterWait_contained`, the delivery by hand to `calls_contained`. -/
theorem Calling.contained {ε : Type} (c : Calling) {s : Session} (apart : s.waitSet.Apart)
    (free : s.poisoned = false) (fits : c.Fits s) (h : Host) :
    ∃ s' outcome h', (c.run s : HostM ε (Session × Outcome)) h = .ok (s', outcome) h' ∧
      s.Contained h (c.sequence s h.kernel) s' (outcome == .panicked) h' := by
  -- Each operation is `Session.afterWait` behind a wait of its own, but for the delivery by hand.
  cases c with
  | afterWait result => exact Session.afterWait_contained apart fits h
  | poll timeout =>
    obtain ⟨h₁, waited, silent, -, queues⟩ := s.waitFor_spec timeout h
    have awaits : s.Awaits ((s.waitAnswer h.kernel).map (·.map .socket)) := by
      unfold Session.waitAnswer
      cases h.kernel.nextFault .wait with
      | some e => trivial
      | none   =>
        have sockets := s.awaits_served h.kernel List.filterMap_nil
        rwa [List.append_nil] at sockets
    obtain ⟨s', outcome, h', run, contained⟩ := Session.afterWait_contained (ε := ε) apart awaits h₁
    rw [Session.waitCalls_congr queues] at contained
    refine ⟨s', outcome, h', ?_, contained.of_start silent⟩
    exact (Session.locked_of_sound free _).trans ((bind_ok (waited ε)).trans run)
  | dispatch e =>
    have told := Session.calls_contained (s.registry.deliveries e) s h
    -- The lock is free, so that the callbacks are made with it.
    have taken (action : HostM ε (Session × Outcome)) := Session.locked_of_sound free action (h := h)
    unfold run Session.dispatch
    dsimp only
    rw [taken, bind_ok (called_apply ..), bind_ok (addAll_apply ..)]
    cases panics : anyPanics h.journal.callbacks (s.registry.deliveries e) with
    | true =>
      rw [panics, Bool.or_true] at told
      exact ⟨_, .panicked, _, rfl, told⟩
    | false =>
      rw [panics, Bool.or_false] at told
      exact ⟨s, .done, _, rfl, told⟩
  | workerPoll woken =>
    let pipe : List Reported := if woken then [.wakeUp] else []
    have empty : pipe.filterMap Reported.socket? = [] := by cases woken <;> rfl
    obtain ⟨s', outcome, h', run, contained⟩ := Session.afterWait_contained (ε := ε) apart
      (s.awaits_served h.kernel empty)
      { h with kernel := h.kernel.dropOverrides (s.waitSet.descriptors none) }
    -- The wake-up makes no callback.
    have same : s.waitCalls h.kernel (.ok ((s.served h.kernel).map .socket ++ pipe)) =
        s.waitCalls h.kernel (.ok ((s.served h.kernel).map .socket)) := by
      rw [Session.waitCalls, Session.waitCalls, List.filterMap_append, empty, List.append_nil]
    rw [Session.waitCalls_congr fun _ => Kernel.queue_dropOverrides, same] at contained
    refine ⟨s', outcome, h', ?_, contained.of_start rfl⟩
    rw [← run, ← Session.ready_descriptors]
    rfl

end CanDriver
