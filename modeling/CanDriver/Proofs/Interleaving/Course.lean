import CanDriver.Proofs.Interleaving.Quiescence
import CanDriver.Proofs.Polling.Delivery

namespace CanDriver

/-!
# The courses that a session takes

`Session.settle`, `Session.tick` and `Session.release` take many steps in one go.

* `Session.withWorker` — what a session says of its worker does not matter to a poll;
* `Steps.poll` — a poll of the worker, step by step;
* `Stands` — a session on a host is what a state has between the steps of its worker;
* `Stands.settle`, `Stands.tick` — the worker runs to its next wait, and out of it;
* `Stopping`, `Stands.release` — the release of the session, with the worker told to end;
* `quiet_after_release` — once the release is done nobody hears of frames any more, after every course and
  after `Session.release`.
-/

/-! ### What a session says of its worker -/

namespace Session

open Host

/-- `s` with `w` for its worker. `Step` keeps the phase of the worker outside of the session, so the
    two can differ in this field. -/
def withWorker (w : Option WorkerState) (s : Session) : Session := { s with worker := w }

variable {ε : Type} {s s' : Session} {h h' : Host} (w : Option WorkerState)

/-- `drain` does not look at the field `worker`. -/
theorem drain_withWorker (fd : Fd) (idle : Errno) (dropped : UInt32) (made : List Callback)
    (queue : List Item) :
    (s.withWorker w).drain fd idle dropped made queue = s.drain fd idle dropped made queue := by
  induction queue generalizing dropped made with
  | nil => rfl
  | cons item rest ih =>
    rw [drain, drain]
    simp only [ih]
    rfl

/-- `serve` passes the field `worker` through. -/
theorem serve_withWorker {fd : Fd} {ending : Ending}
    (run : (s.serve fd : HostM ε (Session × Ending)) h = .ok (s', ending) h') :
    ((s.withWorker w).serve fd : HostM ε (Session × Ending)) h =
      .ok (s'.withWorker w, ending) h' := by
  rw [serve_apply] at run ⊢
  rw [show (s.withWorker w).dropped = s.dropped from rfl, drain_withWorker]
  cases run
  rfl

/-- `sweep` passes the field `worker` through. -/
theorem sweep_withWorker {first : Option Failure} {ready : List Reported} {outcome : Outcome}
    (run : (sweep first ready s : HostM ε (Session × Outcome)) h = .ok (s', outcome) h') :
    (sweep first ready (s.withWorker w) : HostM ε (Session × Outcome)) h =
      .ok (s'.withWorker w, outcome) h' := by
  induction ready generalizing first s h with
  | nil =>
    cases run
    rfl
  | cons r ready ih =>
    cases r with
    | wakeUp    => exact ih run
    | socket fd =>
      obtain ⟨s₁, ending, h₁, one⟩ : ∃ s₁ ending h₁,
          (s.serve fd : HostM ε (Session × Ending)) h = .ok (s₁, ending) h₁ :=
        ⟨_, _, _, serve_apply s fd h⟩
      rw [sweep, bind_ok one] at run
      rw [sweep, bind_ok (serve_withWorker w one)]
      -- Both sweeps go on, or end, by the same ending of the turn.
      cases ending with
      | emptied     => exact ih run
      | networkDown => exact ih run
      | panicked    =>
        cases run
        rfl

/-- **`afterWait` passes the field `worker` through**, so a poll of `Session.turns` is one of
    `Step.serve`. -/
theorem afterWait_withWorker {result : Except Errno (List Reported)} {outcome : Outcome}
    (run : (s.afterWait result : HostM ε (Session × Outcome)) h = .ok (s', outcome) h') :
    ((s.withWorker w).afterWait result : HostM ε (Session × Outcome)) h =
      .ok (s'.withWorker w, outcome) h' := by
  cases result with
  | ok ready => exact sweep_withWorker w run
  | error e  =>
    unfold afterWait at run ⊢
    dsimp only at run ⊢
    split at run
    · next interrupted =>
      cases run
      rw [if_pos interrupted]
      rfl
    · next failed =>
      rw [if_neg failed]
      rw [bind_ok (called_apply _), bind_ok (addAll_apply _ _)] at run ⊢
      -- The handlers that are told, and so whether one of them panics, are the same.
      have same : (s.withWorker w).registry = s.registry := rfl
      rw [same]
      split at run
      · next panics =>
        rw [if_pos panics]
        cases run
        rfl
      · next back =>
        rw [if_neg back]
        cases run
        rfl

/-- `emptyWaitSet` passes the field `worker` through. -/
theorem emptyWaitSet_withWorker (run : (s.emptyWaitSet : HostM Empty Session) h = .ok s' h') :
    ((s.withWorker w).emptyWaitSet : HostM Empty Session) h = .ok (s'.withWorker w) h' := by
  obtain ⟨_, h₁, closed⟩ := exists_ok (s.waitSet.rx.forM closeSocket) h
  have closed_too : (((s.withWorker w).waitSet.rx.forM closeSocket : HostM Empty Unit)) h =
    .ok () h₁ := closed
  rw [emptyWaitSet, bind_ok closed] at run
  rw [emptyWaitSet, bind_ok closed_too]
  cases run
  rfl

/-! ### What calls nobody -/

/-- After `wake`, `stopWorker` leaves the session as it is and calls nobody; it only logs how the
    worker ends. -/
theorem stopWorker_of_wake {s₁ s₂ : Session} {h₁ h₂ : Host} {goesOn : Bool}
    (woken : (s.wake : HostM ε Session) h = .ok s₁ h₁)
    (run : (s.stopWorker : HostM ε (Session × Bool)) h = .ok (s₂, goesOn) h₂) :
    s₂ = s₁ ∧ h₂.journal.callbacks = h₁.journal.callbacks := by
  rw [stopWorker, bind_ok woken] at run
  cases worker : s₁.worker with
  | none =>
    rw [worker] at run
    cases run
    exact ⟨rfl, rfl⟩
  | some state =>
    rw [worker] at run
    dsimp only at run
    -- What differs between the policies is the log and who waits; neither touches the session.
    cases policy : s₁.config.shutdown with
    | detach =>
      rw [policy] at run
      dsimp only at run
      rw [sayWorker, log, bind_ok (add_apply ..)] at run
      split at run
      · cases run
        exact ⟨rfl, by simp [Effect.callback?]⟩
      · rw [bind_ok (fault_apply ..)] at run
        split at run
        · cases run
          exact ⟨rfl, by simp [Effect.callback?]⟩
        · cases run
          exact ⟨rfl, by simp [Effect.callback?]⟩
    | join =>
      rw [policy] at run
      dsimp only at run
      split at run
      · next asking =>
        subst asking
        cases run
        exact ⟨rfl, by simp [Effect.callback?]⟩
      · split at run
        · cases run
          exact ⟨rfl, by simp [Effect.callback?]⟩
        · cases run
          exact ⟨rfl, rfl⟩

/-- Closing sockets calls nobody. -/
theorem callbacks_closeAll {fds : List Fd}
    (run : (fds.forM closeSocket : HostM Empty Unit) h = .ok () h') :
    h'.journal.callbacks = h.journal.callbacks := by
  induction fds generalizing h with
  | nil =>
    cases run
    rfl
  | cons fd fds ih =>
    have closed : (closeSocket fd : HostM Empty Unit) h = .ok ()
      ⟨h.kernel.closeSocket fd, h.journal.push (.call (.close fd))⟩ := rfl
    rw [List.forM, bind_ok closed] at run
    rw [ih run]
    exact Journal.callbacks_push_silent rfl _

/-- `attempt s.lock` on a poisoned session gives the failure as a value and calls nobody. -/
theorem attempt_lock_poisoned (poisoned : s.poisoned = true) (h : Host) :
    ∃ h', (attempt s.lock : HostM Empty (Except Failure Unit)) h =
        .ok (.error (.ofCode .lockPoisoned)) h' ∧
      h'.journal.callbacks = h.journal.callbacks := by
  refine ⟨_, by rw [attempt, lock_of_poisoned poisoned], ?_⟩
  exact Journal.callbacks_push_silent rfl _

end Session

/-! ### Where the worker is -/

/-- The phase between two steps of the worker that `Session.worker` stands for. -/
def WorkerState.phase : WorkerState → Interleaving.WorkerPhase
  | .asking    => .checking
  | .waiting _ => .waiting
  | .stopped   => .ended
  | .panicked  => .ended

/-- The phase after a poll: the worker starts again, unless a handler panicked. -/
def Outcome.phase : Outcome → Interleaving.WorkerPhase
  | .panicked => .ended
  | _         => .checking

/-- `afterPoll` sets the field `worker` by `Outcome.phase`, leaves the rest of the session alone and
    calls nobody. -/
theorem Session.afterPoll_says {s s' : Session} {h h' : Host} {outcome : Outcome}
    (run : (s.afterPoll outcome : HostM Empty Session) h = .ok s' h') :
    s'.worker.map WorkerState.phase = some outcome.phase ∧
      (∀ w, s'.withWorker w = s.withWorker w) ∧
      h'.journal.callbacks = h.journal.callbacks := by
  cases outcome with
  | panicked =>
    cases run
    exact ⟨rfl, fun _ => rfl, rfl⟩
  | done =>
    cases run
    exact ⟨rfl, fun _ => rfl, rfl⟩
  | failed f =>
    cases run
    exact ⟨rfl, fun _ => rfl, Journal.callbacks_push_silent rfl _⟩

namespace Interleaving

open Host

variable {policy : ShutdownPolicy} {t u v : State} {s s' : Session} {h h' : Host}
  {outcome : Outcome}

/-! ### Steps of the worker, one after the other -/

theorem Steps.trans (first : Steps policy t u) (second : Steps policy u v) : Steps policy t v := by
  induction second with
  | refl           => exact first
  | tail _ next ih => exact ih.tail next

/-- `workerUnlock` after a panic, written with the next phase in place. -/
theorem Step.ends (leaves : t.worker = .leaving true) :
    Step policy t { t with worker := .ended, lock := none } := by
  have unlocked : Step policy t
      { t with worker := if true then .ended else .yielding, lock := none } := .workerUnlock leaves
  exact unlocked

/-- `workerUnlock` after a poll without a panic. -/
theorem Step.yields (leaves : t.worker = .leaving false) :
    Step policy t { t with worker := .yielding, lock := none } := by
  have unlocked : Step policy t
      { t with worker := if false then .ended else .yielding, lock := none } := .workerUnlock leaves
  exact unlocked

/-- `look` where nobody contends for the lock. -/
theorem Step.returns (yields : t.worker = .yielding) (alone : t.contenders = 0) :
    Step policy t { t with worker := .checking } := by
  have looked : Step policy t
      { t with worker := if t.contenders = 0 then .checking else .backingOff } := .look yields
  rwa [if_pos alone] at looked

/-- `check` while the run flag is up. -/
theorem Step.asks (checks : t.worker = .checking) (up : t.run = true) :
    Step policy t { t with worker := .asking } := by
  have checked : Step policy t { t with worker := if t.run then .asking else .ended } := .check checks
  rwa [if_pos up] at checked

/-- `check` once the run flag is down. -/
theorem Step.stops (checks : t.worker = .checking) (down : t.run = false) :
    Step policy t { t with worker := .ended } := by
  have checked : Step policy t { t with worker := if t.run then .asking else .ended } := .check checks
  rwa [if_neg (Bool.eq_false_iff.mp down)] at checked

/-- `afterServing` without a panic: by way of `draining` if the wait reported the wake-up. -/
theorem WorkerPhase.afterServing_of_ne (result : Except Errno (List Reported))
    (back : outcome ≠ .panicked) :
    afterServing result outcome =
      match result with
      | .ok ready => if .wakeUp ∈ ready then .draining else .leaving false
      | .error _  => .leaving false := by
  cases outcome with
  | panicked => exact absurd rfl back
  | done     => rfl
  | failed f => rfl

/-- **A poll from its wait to its end, in single steps**: `leaveWait`, `serve`, perhaps `drain`,
    `workerUnlock` and `look`. The wake-up is taken back, unless a handler panicked. -/
theorem Steps.poll (policy : ShutdownPolicy) {result : Except Errno (List Reported)} {h₁ : Host}
    (waits : t.worker = .waiting) (alone : t.contenders = 0) (reports : t.Reports result)
    (silent : h₁.journal.callbacks = t.host.journal.callbacks)
    (served : (t.session.afterWait result : HostM Empty _) h₁ = .ok (s', outcome) h')
    (woken : ∀ e, result = .error e → t.signalled = false) :
    ∃ signalled, (outcome.phase ≠ .ended → signalled = false) ∧
      Steps policy t { t with
        worker := outcome.phase, lock := none, signalled, session := s', host := h' } := by
  -- Whatever the outcome, the poll begins with these three steps.
  have read : Steps policy t
      { t with worker := .afterServing result outcome, session := s', host := h' } :=
    ((Steps.refl.tail (.leaveWait waits reports)).tail (.arrive h₁ silent)).tail (.serve rfl served)
  by_cases panicked : outcome = .panicked
  · subst panicked
    exact ⟨t.signalled, fun back => absurd rfl back, read.tail (.ends rfl)⟩
  · have again : outcome.phase = .checking := by
      cases outcome with
      | panicked => exact absurd rfl panicked
      | done     => rfl
      | failed f => rfl
    rw [WorkerPhase.afterServing_of_ne result panicked] at read
    rw [again]
    cases result with
    | error e  =>
      exact ⟨t.signalled, fun _ => woken e rfl,
        (read.tail (.yields rfl)).tail (.returns rfl alone)⟩
    | ok ready =>
      dsimp only at read
      split at read
      · exact ⟨false, fun _ => rfl,
          ((read.tail (.drain rfl)).tail (.yields rfl)).tail (.returns rfl alone)⟩
      -- The wait reported no wake-up, so there was none.
      · next unsignalled =>
        refine ⟨t.signalled, fun _ => ?_, (read.tail (.yields rfl)).tail (.returns rfl alone)⟩
        apply Bool.eq_false_iff.mpr
        intro signalled
        rw [State.Reports, signalled] at reports
        exact unsignalled (reports ▸ List.mem_append_right _ (List.mem_singleton_self _))

/-! ### Sessions and states -/

/-- The session `s` on the host `h` is what the state `t` has between the steps of its worker, while
    nobody else does anything. Only the field `worker` of the session is not compared, but turned
    into the phase. -/
structure Stands (s : Session) (h : Host) (t : State) : Prop where
  session     : ∃ w, t.session = s.withWorker w
  host        : t.host = h
  worker      : s.worker.map WorkerState.phase = some t.worker
  lock        : t.lock = if t.worker.holds then some .worker else none
  unsignalled : t.worker ≠ .ended → t.signalled = false
  alone       : t.contenders = 0
  up          : t.run = true
  unreleased  : t.release = .idle

namespace Stands

/-- A session whose worker was just started stands for `State.start`. -/
theorem start (n : Nat) (asks : s.worker = some .asking) : Stands s h (.start n s h) where
  session     := ⟨s.worker, rfl⟩
  host        := rfl
  worker      := by
    rw [asks]
    rfl
  lock        := rfl
  unsignalled := fun _ => rfl
  alone       := rfl
  up          := rfl
  unreleased  := rfl

variable (stands : Stands s h t)

include stands

/-- The phase of `t` where the field `worker` is known. -/
theorem phase {state : WorkerState} (is : s.worker = some state) : t.worker = state.phase := by
  have same := stands.worker
  rw [is] at same
  exact (Option.some.inj same).symm

/-- While the worker waits there is no wake-up, since nobody else does anything. -/
theorem unwoken {timeout : Nat} (waits : s.worker = some (.waiting timeout)) :
    t.signalled = false := by
  apply stands.unsignalled
  intro ended
  rw [stands.phase waits] at ended
  cases ended

/-- A host on which nobody was called may take the place of `h`, by `Step.arrive`. -/
theorem arrive (course : Steps policy u t) (silent : h'.journal.callbacks = h.journal.callbacks) :
    ∃ t', Steps policy u t' ∧ Stands s h' t' := by
  refine ⟨{ t with host := h' }, course.tail (.arrive h' ?_), { stands with host := rfl }⟩
  rw [silent, stands.host]

/-- `Session.enterWait` in single steps: `check`, then `workerAcquire` and `enterWait`, or
    `workerRefused`. -/
theorem enterWait {interval : Duration} (asks : s.worker = some .asking)
    (run : (s.enterWait interval : HostM Empty Session) h = .ok s' h') :
    ∃ t', Steps policy t t' ∧ Stands s' h' t' := by
  obtain ⟨w, same⟩ := stands.session
  have checks : t.worker = .checking := stands.phase asks
  have free : t.lock = none := by
    rw [stands.lock, checks]
    rfl
  -- The run flag is up, so a worker that starts again asks for the lock.
  have asked : Steps policy t { t with worker := .asking } := Steps.refl.tail (.asks checks stands.up)
  rw [Session.enterWait] at run
  cases poisoned : s.poisoned with
  | false =>
    have sound : t.session.poisoned = false := by
      rw [same]
      exact poisoned
    rw [bind_ok (Session.attempt_lock poisoned)] at run
    cases run
    refine Stands.arrive ?_ ((asked.tail (.workerAcquire rfl free sound)).tail (.enterWait rfl))
      (Journal.callbacks_push_silent rfl _)
    exact { stands with
      session     := ⟨w, same⟩
      worker      := rfl
      lock        := rfl
      unsignalled := fun _ => stands.unsignalled (by rw [checks]; nofun) }
  | true =>
    have refused : t.session.poisoned = true := by
      rw [same]
      exact poisoned
    obtain ⟨h₁, answered, silent⟩ := Session.attempt_lock_poisoned poisoned h
    rw [bind_ok answered] at run
    cases run
    refine Stands.arrive ?_ (asked.tail (.workerRefused rfl free refused))
      ((Journal.callbacks_push_silent rfl _).trans silent)
    exact { stands with
      session     := ⟨w, same⟩
      worker      := rfl
      lock        := free
      unsignalled := fun goes => absurd rfl goes }

/-- `afterWait` and `afterPoll` in single steps, for any result that the wait may report. -/
theorem poll {result : Except Errno (List Reported)} {s₁ : Session} {h₁ h₂ : Host} {timeout : Nat}
    (waits : s.worker = some (.waiting timeout)) (reports : t.Reports result)
    (silent : h₁.journal.callbacks = h.journal.callbacks)
    (served : (s.afterWait result : HostM Empty (Session × Outcome)) h₁ = .ok (s₁, outcome) h₂)
    (run : (s₁.afterPoll outcome : HostM Empty Session) h₂ = .ok s' h') :
    ∃ t', Steps policy t t' ∧ Stands s' h' t' := by
  obtain ⟨w, same⟩ := stands.session
  have served_too := Session.afterWait_withWorker w served
  rw [← same] at served_too
  obtain ⟨signalled, taken, course⟩ := Steps.poll policy (stands.phase waits) stands.alone
    reports (silent.trans (by rw [stands.host])) served_too fun _ _ => stands.unwoken waits
  obtain ⟨next, rest, said⟩ := Session.afterPoll_says run
  refine Stands.arrive ?_ course said
  exact { stands with
    session     := ⟨w, (rest w).symm⟩
    host        := rfl
    worker      := next
    lock        := by cases outcome <;> rfl
    unsignalled := taken }

/-- `Session.workerPoll` in single steps, without a wake-up. -/
theorem workerPoll {s₁ : Session} {h₁ : Host} {timeout : Nat} (waits : s.worker = some (.waiting timeout))
    (polled : (s.workerPoll false : HostM Empty (Session × Outcome)) h = .ok (s₁, outcome) h₁)
    (run : (s₁.afterPoll outcome : HostM Empty Session) h₁ = .ok s' h') :
    ∃ t', Steps policy t t' ∧ Stands s' h' t' := by
  obtain ⟨w, same⟩ := stands.session
  rw [Session.workerPoll, bind_ok (ask_apply ..), bind_ok (modifyKernel_apply ..)] at polled
  refine stands.poll waits ?_ ?_ polled run
  · rw [State.Reports, same, stands.host, stands.unwoken waits]
    rfl
  · rfl

omit stands

/-- **`Session.turns` in single steps.** By induction on their number. -/
theorem turns {interval : Duration} {n : Nat} (stands : Stands s h t)
    (run : (s.turns interval n : HostM Empty Session) h = .ok s' h') :
    ∃ t', Steps policy t t' ∧ Stands s' h' t' := by
  induction n generalizing s h t with
  | zero =>
    cases run
    exact ⟨t, .refl, stands⟩
  | succ n ih =>
    rw [Session.turns, bind_ok (fault_apply ..)] at run
    generalize held : ({ h with
      kernel := { h.kernel with faults := (h.kernel.faults.take .pause).2 } } : Host) = asked at run
    -- The host was asked whether the worker is held up, which calls nobody.
    obtain ⟨u, before, stands⟩ : ∃ u, Steps policy t u ∧ Stands s asked u :=
      stands.arrive .refl (by rw [← held])
    -- A step either ends the run where it is or is followed by the rest of it.
    have stays (same : (pure s : HostM Empty Session) asked = .ok s' h') :
        ∃ t', Steps policy t t' ∧ Stands s' h' t' := by
      cases same
      exact ⟨u, before, stands⟩
    have goesOn {s₁ : Session} {h₁ : Host} (turn : ∃ v, Steps policy u v ∧ Stands s₁ h₁ v)
        (run : (s₁.turns interval n : HostM Empty Session) h₁ = .ok s' h') :
        ∃ t', Steps policy t t' ∧ Stands s' h' t' := by
      obtain ⟨v, turned, stands⟩ := turn
      obtain ⟨t', more, stands'⟩ := ih stands run
      exact ⟨t', (before.trans turned).trans more, stands'⟩
    split at run
    · exact stays run
    · cases worker : s.worker with
      | none =>
        rw [worker] at run
        exact stays run
      | some phase =>
        rw [worker] at run
        cases phase with
        | asking =>
          obtain ⟨s₁, h₁, one⟩ := exists_ok (s.enterWait interval) asked
          dsimp only at run
          rw [bind_ok one] at run
          exact goesOn (stands.enterWait worker one) run
        | waiting timeout =>
          dsimp only at run
          rw [bind_ok (ask_apply ..)] at run
          split at run
          · obtain ⟨⟨s₁, outcome⟩, h₁, polled⟩ := exists_ok (s.workerPoll false) asked
            obtain ⟨s₂, h₂, ended⟩ := exists_ok (s₁.afterPoll outcome) h₁
            rw [bind_ok polled] at run
            dsimp only at run
            rw [bind_ok ended] at run
            exact goesOn (stands.workerPoll worker polled ended) run
          · exact stays run
        | stopped  => exact stays run
        | panicked => exact stays run

/-- **`Session.settle` in single steps**: it is `Session.turns` with the bound `turnBound`. -/
theorem settle {interval : Duration} (stands : Stands s h t)
    (run : (s.settle interval : HostM Empty Session) h = .ok s' h') :
    ∃ t', Steps policy t t' ∧ Stands s' h' t' := by
  rw [Session.settle, bind_ok (ask_apply ..)] at run
  exact stands.turns run

/-- `afterWait` and `afterPoll` in single steps, as `Session.tick` calls them. -/
theorem waitEnds (result : Except Errno (List Reported)) (h₁ : Host) {timeout : Nat} {waited : Bool}
    (stands : Stands s h t) (waits : s.worker = some (.waiting timeout)) (reports : t.Reports result)
    (silent : h₁.journal.callbacks = h.journal.callbacks)
    (run : (s.afterWait result >>= fun r => r.1.afterPoll r.2 >>= fun s => pure (s, true) :
      HostM Empty (Session × Bool)) h₁ = .ok (s', waited) h') :
    ∃ t', Steps policy t t' ∧ Stands s' h' t' := by
  obtain ⟨⟨s₁, outcome⟩, h₂, served⟩ := exists_ok (s.afterWait result) h₁
  obtain ⟨s₂, h₃, ended⟩ := exists_ok (s₁.afterPoll outcome) h₂
  rw [bind_ok served, bind_ok ended] at run
  cases run
  exact stands.poll waits reports silent served ended

/-- **`Session.tick` in single steps.** A wait that times out reports nothing, so the sockets are
    taken away for that moment by `Step.arrive`. -/
theorem tick {waited : Bool} (stands : Stands s h t)
    (run : (s.tick : HostM Empty (Session × Bool)) h = .ok (s', waited) h') :
    ∃ t', Steps policy t t' ∧ Stands s' h' t' := by
  rw [Session.tick] at run
  cases worker : s.worker with
  | none =>
    rw [worker] at run
    cases run
    exact ⟨t, .refl, stands⟩
  | some phase =>
    rw [worker] at run
    cases phase with
    | waiting timeout =>
      dsimp only at run
      rw [bind_ok (fault_apply ..)] at run
      generalize (h.kernel.faults.take .workerWait).1.filter (· ≠ 0) = failure at run
      generalize asked : ({ h with
        kernel := { h.kernel with faults := (h.kernel.faults.take .workerWait).2 } } : Host) = h₁ at run
      have silent : h₁.journal.callbacks = h.journal.callbacks := by rw [← asked]
      -- Nothing is ready while no socket is there.
      let unplugged : Host := { h with kernel := { h.kernel with sockets := [] } }
      obtain ⟨u, before, idle⟩ : ∃ u, Steps policy t u ∧ Stands s unplugged u :=
        stands.arrive .refl rfl
      have nothing : u.Reports (.ok []) := by
        have none_ready : ∀ fds, Kernel.ready fds { h.kernel with sockets := [] } = [] := by
          intro fds
          refine List.filter_eq_nil_iff.mpr fun fd _ => ?_
          show ¬ decide (Kernel.pollInvalid &&& Kernel.readable ≠ 0) = true
          decide
        rw [State.Reports, idle.host, none_ready, idle.unwoken worker]
        rfl
      obtain ⟨t', more, stands'⟩ : ∃ t', Steps policy u t' ∧ Stands s' h' t' := by
        cases failure with
        | some e => exact idle.waitEnds (.error e) h₁ worker trivial silent run
        | none   => exact idle.waitEnds (.ok []) h₁ worker nothing silent run
      exact ⟨t', before.trans more, stands'⟩
    | asking =>
      cases run
      exact ⟨t, .refl, stands⟩
    | stopped =>
      cases run
      exact ⟨t, .refl, stands⟩
    | panicked =>
      cases run
      exact ⟨t, .refl, stands⟩

end Stands

/-! ### The release -/

/-- `s` on `h` is what `t` has while the release waits for the worker, which is told to end and no
    longer polls. -/
structure Stopping (s : Session) (h : Host) (t : State) : Prop where
  session : ∃ w, t.session = s.withWorker w
  silent  : t.host.journal.callbacks = h.journal.callbacks
  worker  : t.worker = .checking ∨ t.worker = .ended
  free    : t.lock = none
  down    : t.run = false
  release : t.release = .joining

/-- `t` after `lower` and `wakeToStop`, the first two steps of the release. -/
def State.told (t : State) : State :=
  { t with run := false, release := .joining, signalled := true }

namespace Stands

variable (stands : Stands s h t) (policy : ShutdownPolicy)

include stands

/-- `told` is reached by those two steps. -/
theorem tell : Steps policy t t.told :=
  (Steps.refl.tail (.lower stands.unreleased)).tail (.wakeToStop rfl)

/-- A worker that does not wait polls no more: it is `Stopping` as soon as it is told. -/
theorem stays {state : WorkerState} (is : s.worker = some state) (out : state.phase.holds = false)
    (phase : state.phase = .checking ∨ state.phase = .ended) : Stopping s h t.told := by
  obtain ⟨w, same⟩ := stands.session
  rw [← stands.phase is] at out phase
  refine ⟨⟨w, same⟩, congrArg (·.journal.callbacks) stands.host, phase, ?_, rfl, rfl⟩
  show t.lock = none
  rw [stands.lock, out]
  rfl

/-- The wait of the worker ends with the wake-up, and the poll that follows leaves `Stopping`. -/
theorem wakes {timeout : Nat} {s₁ : Session} {h₁ : Host}
    (waits : s.worker = some (.waiting timeout))
    (polled : (s.workerPoll true : HostM Empty (Session × Outcome)) h = .ok (s₁, outcome) h₁)
    (run : (s₁.afterPoll outcome : HostM Empty Session) h₁ = .ok s' h') :
    ∃ t', Steps policy t.told t' ∧ Stopping s' h' t' := by
  obtain ⟨w, same⟩ := stands.session
  rw [Session.workerPoll, bind_ok (ask_apply ..), bind_ok (modifyKernel_apply ..)] at polled
  generalize asked : ({ h with
    kernel := h.kernel.dropOverrides (s.waitSet.descriptors none) } : Host) = h₀ at polled
  have served := Session.afterWait_withWorker w polled
  rw [← same] at served
  have waiting : t.told.worker = .waiting := stands.phase waits
  -- The wait of a state that was told reports the wake-up behind the sockets.
  have reports : t.told.Reports (.ok ((h.kernel.ready (s.waitSet.descriptors none)).map .socket ++
      if true then [.wakeUp] else [])) := by
    show _ = (t.host.kernel.ready (t.session.waitSet.descriptors none)).map _ ++ _
    rw [same, stands.host]
    rfl
  have silent : h₀.journal.callbacks = t.told.host.journal.callbacks := by
    rw [← asked]
    exact (congrArg (·.journal.callbacks) stands.host).symm
  obtain ⟨signalled, -, course⟩ :=
    Steps.poll policy waiting stands.alone reports silent served fun _ fails => by cases fails
  obtain ⟨-, rest, said⟩ := Session.afterPoll_says run
  refine ⟨_, course, ⟨w, (rest w).symm⟩, said.symm, ?_, rfl, rfl, rfl⟩
  cases outcome with
  | panicked => exact .inr rfl
  | done     => exact .inl rfl
  | failed f => exact .inl rfl

/-- `Session.wake` in single steps, as the release calls it. -/
theorem wake (run : (s.wake : HostM Empty Session) h = .ok s' h') :
    ∃ t', Steps policy t t' ∧ Stopping s' h' t' := by
  have tell := stands.tell policy
  rw [Session.wake] at run
  cases worker : s.worker with
  | none =>
    have phase := stands.worker
    rw [worker] at phase
    cases phase
  | some state =>
    rw [worker] at run
    cases state with
    | asking   =>
      cases run
      exact ⟨_, tell, stands.stays worker rfl (.inl rfl)⟩
    | stopped  =>
      cases run
      exact ⟨_, tell, stands.stays worker rfl (.inr rfl)⟩
    | panicked =>
      cases run
      exact ⟨_, tell, stands.stays worker rfl (.inr rfl)⟩
    | waiting timeout =>
      obtain ⟨⟨s₁, outcome⟩, h₁, polled⟩ := exists_ok (s.workerPoll true) h
      dsimp only at run
      rw [bind_ok polled] at run
      obtain ⟨t', course, stopping⟩ := stands.wakes policy worker polled run
      exact ⟨t', tell.trans course, stopping⟩

end Stands

/-- The step `join`: by the policy `join` after a step in which the worker ends, else at once. -/
theorem Stopping.join (stopping : Stopping s h t) (policy : ShutdownPolicy) :
    ∃ t', Steps policy t t' ∧ t'.release = .asking ∧ t'.session = t.session ∧ t'.lock = none ∧
      t'.host.journal.callbacks = h.journal.callbacks := by
  cases policy with
  | detach =>
    exact ⟨_, Steps.refl.tail (.join stopping.release nofun), rfl, rfl, stopping.free,
      stopping.silent⟩
  | join =>
    rcases stopping.worker with checks | ended
    · have stopped : Steps .join t { t with worker := .ended } :=
        Steps.refl.tail (.stops checks stopping.down)
      exact ⟨_, stopped.tail (.join stopping.release fun _ => rfl), rfl, rfl, stopping.free,
        stopping.silent⟩
    · exact ⟨_, Steps.refl.tail (.join stopping.release fun _ => ended), rfl, rfl, stopping.free,
        stopping.silent⟩

/-- `Session.clear` in single steps: `releaseAcquire`, `clear` and `releaseUnlock`, or
    `releaseRefused`. -/
theorem Stopping.clear {h₁ : Host} (stopping : Stopping s h t)
    (policy : ShutdownPolicy) (silent : h₁.journal.callbacks = h.journal.callbacks)
    (run : (s.clear : HostM Empty Session) h₁ = .ok s' h') :
    ∃ t', Steps policy t t' ∧ t'.release = .done ∧
      t'.host.journal.callbacks = h'.journal.callbacks := by
  obtain ⟨w, same⟩ := stopping.session
  obtain ⟨u, asked, asking, session, free, calls⟩ := stopping.join policy
  rw [Session.clear] at run
  cases poisoned : s.poisoned with
  | false =>
    have sound : u.session.poisoned = false := by
      rw [session, same]
      exact poisoned
    rw [bind_ok (Session.attempt_lock poisoned)] at run
    have cleared := Session.emptyWaitSet_withWorker w run
    rw [← same, ← session] at cleared
    -- The log and the closing of the worker's part come between, which `arrive` allows.
    have held := (asked.tail (.releaseAcquire asking free sound)).tail
      (.arrive h₁ (silent.trans calls.symm))
    exact ⟨_, (held.tail (.clear rfl cleared)).tail (.releaseUnlock rfl), rfl, rfl⟩
  | true =>
    have refused : u.session.poisoned = true := by
      rw [session, same]
      exact poisoned
    obtain ⟨h₂, answered, told⟩ := Session.attempt_lock_poisoned poisoned h₁
    rw [bind_ok answered] at run
    cases run
    refine ⟨_, asked.tail (.releaseRefused asking free refused), rfl, ?_⟩
    exact calls.trans ((Journal.callbacks_push_silent rfl _).trans (told.trans silent)).symm

/-- **`Session.release` in single steps**, to a state with the same host. The worker is told to end
    first, as `Stopping` has it. -/
theorem Stands.release (stands : Stands s h t)
    (run : (s.release : HostM Empty Unit) h = .ok () h') :
    ∃ t', Steps policy t t' ∧ t'.release = .done ∧ t'.host = h' := by
  obtain ⟨s₁, h₁, woken⟩ := exists_ok s.wake h
  obtain ⟨⟨s₂, goesOn⟩, h₂, stopped⟩ := exists_ok s.stopWorker h
  obtain ⟨s₃, h₃, cleared⟩ := exists_ok s₂.clear h₂
  obtain ⟨rfl, said⟩ := Session.stopWorker_of_wake woken stopped
  rw [Session.release, bind_ok stopped] at run
  dsimp only at run
  rw [bind_ok cleared] at run
  -- After the wait-set is emptied sockets are closed or given to a thread, and nobody is called.
  have silent : h'.journal.callbacks = h₃.journal.callbacks := by
    split at run
    · cases run
      rfl
    · exact Session.callbacks_closeAll run
  obtain ⟨u, told, stopping⟩ := stands.wake policy woken
  obtain ⟨v, emptied, done, calls⟩ := stopping.clear policy said cleared
  exact ⟨{ v with host := h' }, (told.trans emptied).tail (.arrive h' (silent.trans calls.symm)),
    done, rfl⟩

/-! ### After any course -/

/-- **Once the release is done, no handler of frames is called and no error frame or count of
    dropped frames is told any more.** Where the worker was waited for, it has ended and nothing is
    called at all; else it begins one more poll at most, which waits for no socket and of which
    error handlers can only be told that its wait failed. `Session.release`, which runs in one go,
    takes single steps to such a state: from every state that a session stands for, to one with the
    host that it leaves. -/
theorem quiet_after_release {n : Nat} (reached : Reachable policy n t) :
    (t.release = .done → ∀ u, Steps policy t u →
      ∃ told, u.host.journal.callbacks = t.host.journal.callbacks ++ told ∧
        (∀ c ∈ told, ∃ handler e, c = .notice handler (.waitFailed e)) ∧
        (policy = .join → told = [] ∧ u.worker = .ended) ∧
        u.polls ≤ t.polls + 1 ∧
        (u.worker.holds = true → u.session.waitSet.descriptors none = []) ∧
        ∀ ready, u.worker = .serving (.ok ready) → ∀ fd, .socket fd ∉ ready) ∧
    ∀ (s : Session) (h h' : Host), Stands s h t → (s.release : HostM Empty Unit) h = .ok () h' →
      ∃ u, Steps policy t u ∧ u.release = .done ∧ u.host = h' := by
  refine ⟨fun done u more => ?_, fun s h h' stands run => stands.release run⟩
  have before : Quiet policy t := (Orderly.of_reachable reached).quiet done
  obtain ⟨after, settles⟩ := before.steps more
  obtain ⟨told, calls, waits, none_told⟩ := settles.told
  refine ⟨told, calls, waits, ?_, ?_, ?_, ?_⟩
  · intro join
    exact ⟨none_told (before.joined join), after.joined join⟩
  · -- One poll at most is left to a worker that has asked for the lock.
    have few := t.worker.pollsLeft_le
    have polls := settles.polls
    omega
  · intro has
    rw [after.waitSet has]
    rfl
  · intro ready now fd among
    cases after.silent ready now _ among

/-! A worker that nobody waits for has asked for the lock before the release, and gets it after. -/

/-- A state after the release by the policy `detach`, in which the worker still asks for
    the lock. -/
def released : State where
  callers    := []
  worker     := .asking
  release    := .done
  run        := false
  contenders := 0
  signalled  := true
  lock       := none
  session    := { watched with waitSet := .empty }
  host       := { kernel := twoSockets.kernel.closeSocket 101, journal := #[.call (.close 101)] }
  polls      := 0

/-- From `released` the worker polls once more; the wait fails, and the observer is told. The
    release that runs from the start of the worker ends in such a state as well. -/
theorem quiet_after_release_detached :
    Reachable .detach 0 released ∧ released.release = .done ∧
      (∃ t, Steps .detach released t ∧
        t.host.journal.callbacks = [.notice (.observer "watch" .returns) (.waitFailed 9)] ∧
        ∃ told, t.host.journal.callbacks = released.host.journal.callbacks ++ told ∧
          (∀ c ∈ told, ∃ handler e, c = .notice handler (.waitFailed e)) ∧
          (ShutdownPolicy.detach = .join → told = [] ∧ t.worker = .ended) ∧
          t.polls ≤ released.polls + 1 ∧
          (t.worker.holds = true → t.session.waitSet.descriptors none = []) ∧
          ∀ ready, t.worker = .serving (.ok ready) → ∀ fd, .socket fd ∉ ready) ∧
      ∃ h' t, (watched.release : HostM Empty Unit) twoSockets = .ok () h' ∧
        Steps .detach (.start 0 watched twoSockets) t ∧ t.release = .done ∧ t.host = h' := by
  have first : Steps .detach (.start 0 watched twoSockets) (.start 0 watched twoSockets) := .refl
  have reached : Reachable .detach 0 released := by
    refine ⟨watched, twoSockets, ?_⟩
    have stopped := ((first.tail (.check rfl)).tail (.lower rfl)).tail (.wakeToStop rfl)
    have holds := (stopped.tail (.join rfl nofun)).tail (.releaseAcquire rfl rfl rfl)
    exact (holds.tail (.clear rfl rfl)).tail (.releaseUnlock rfl)
  -- The wait fails on the host as it stands: waits may fail at any time.
  have again : Steps .detach released released := .refl
  have waits := (again.tail (.workerAcquire rfl rfl rfl)).tail (.enterWait rfl)
  have fails : ∀ t : State, t.Reports (.error 9) := fun _ => trivial
  have more := (waits.tail (.leaveWait rfl (fails _))).tail (.serve rfl rfl)
  refine ⟨reached, rfl, ⟨_, more, by decide, (quiet_after_release reached).1 rfl _ more⟩, ?_⟩
  obtain ⟨_, h', run⟩ := exists_ok (watched.release : HostM Empty Unit) twoSockets
  have started : Reachable .detach 0 (.start 0 watched twoSockets) := ⟨watched, twoSockets, first⟩
  obtain ⟨t, course, done, same⟩ := (quiet_after_release started).2 _ _ _ (.start 0 rfl) run
  exact ⟨h', t, run, course, done, same⟩

end Interleaving

end CanDriver
