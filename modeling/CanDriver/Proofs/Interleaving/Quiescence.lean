import CanDriver.Proofs.Interleaving.Exclusion

namespace CanDriver

/-!
# Silence after the release

* `Callback.TellsWait` — an error handler is told of a failed wait;
* `Session.sweep_wakeUps`, `Session.afterWait_error` — what is left of a poll without sockets;
* `Quiet` — what is so once the release is done, whichever way it came to its end;
* `Settles` — all that steps may still do from there, and `Quiet.step`, `Quiet.steps`;
* `Orderly` — what the release has made sure of, phase by phase, and `Orderly.step`.
-/

/-- The callback tells an error handler that a wait failed. -/
def Callback.TellsWait (c : Callback) : Prop := ∃ handler e, c = .notice handler (.waitFailed e)

/-! ### Polls without sockets -/

namespace Session

open Host

variable {ε : Type} {s s' : Session} {h h' : Host} {outcome : Outcome}

/-- `sweep` over wake-ups alone reads nothing and calls nobody. -/
theorem sweep_wakeUps (first : Option Failure) {ready : List Reported}
    (only : ∀ r ∈ ready, r = .wakeUp) :
    (sweep first ready s : HostM ε (Session × Outcome)) h = .ok (s, .ofFailure? first) h := by
  induction ready with
  | nil => rfl
  | cons r ready ih =>
    obtain ⟨rfl, others⟩ := List.forall_mem_cons.mp only
    exact ih others

/-- `afterWait` on a failed wait calls nobody but error handlers, with the failure, and leaves the
    wait-set alone. -/
theorem afterWait_error {e : Errno}
    (run : (s.afterWait (.error e) : HostM Empty (Session × Outcome)) h = .ok (s', outcome) h') :
    s'.waitSet = s.waitSet ∧ ∃ told, h'.journal.callbacks = h.journal.callbacks ++ told ∧
      ∀ c ∈ told, c.TellsWait := by
  -- All callbacks are notices to the error handlers.
  have tells : ∀ c ∈ Callback.untilPanic h.journal.callbacks (s.registry.announce (.waitFailed e)),
      c.TellsWait := by
    intro c hc
    obtain ⟨handler, -, rfl⟩ := List.mem_map.mp (Callback.mem_of_untilPanic hc)
    exact ⟨handler, e, rfl⟩
  unfold afterWait at run
  dsimp only at run
  split at run
  · cases run
    exact ⟨rfl, [], (List.append_nil _).symm, nofun⟩
  · rw [bind_ok (called_apply _), bind_ok (addAll_apply _ _)] at run
    split at run
    · cases run
      exact ⟨rfl, _, by rw [Journal.callbacks_append, Callback.callbacks_effectsOf], tells⟩
    · cases run
      refine ⟨rfl, _, ?_, tells⟩
      simp [Effect.callback?]

theorem waitSet_of_emptyWaitSet
    (run : (s.emptyWaitSet : HostM Empty Session) h = .ok s' h') : s'.waitSet = .empty := by
  obtain ⟨_, h₁, closed⟩ := exists_ok (s.waitSet.rx.forM closeSocket) h
  rw [emptyWaitSet, bind_ok closed] at run
  cases run
  rfl

end Session

namespace Interleaving

variable {policy : ShutdownPolicy} {s t u : State}

/-! ### After the release -/

/-- The polls that the worker still begins while the run flag is down: one if it has passed the
    check already. -/
def WorkerPhase.pollsLeft : WorkerPhase → Nat
  | .asking => 1
  | _       => 0

theorem WorkerPhase.pollsLeft_le (w : WorkerPhase) : w.pollsLeft ≤ 1 := by
  unfold pollsLeft
  split <;> omega

/-- The invariant of states in which the release is done. -/
structure Quiet (policy : ShutdownPolicy) (s : State) : Prop where
  done    : s.release = .done
  stopped : s.run = false
  joined  : policy = .join → s.worker = .ended
  /-- There is nothing to wait for; or the lock is poisoned, and the worker does not have it. -/
  shut    : s.session.waitSet = .empty ∨ s.session.poisoned = true ∧ s.worker.holds = false
  /-- The wait that the worker comes from reported no socket. -/
  silent  : ∀ ready, s.worker = .serving (.ok ready) → ∀ r ∈ ready, r = .wakeUp

/-- All that may happen from `s` to `t` once the release is done: error handlers are told of failed
    waits, unless the worker has ended, and the polls that it was about to begin are begun. -/
structure Settles (s t : State) : Prop where
  told  : ∃ told, t.host.journal.callbacks = s.host.journal.callbacks ++ told ∧
    (∀ c ∈ told, c.TellsWait) ∧ (s.worker = .ended → told = [])
  ended : s.worker = .ended → t.worker = .ended
  polls : t.polls + t.worker.pollsLeft ≤ s.polls + s.worker.pollsLeft

/-- A step in which neither the worker nor the release moves, and nothing changes of what
    they go by. -/
structure Aside (s t : State) : Prop where
  worker  : t.worker = s.worker
  release : t.release = s.release
  run     : t.run = s.run
  session : t.session = s.session
  silent  : t.host.journal.callbacks = s.host.journal.callbacks
  polls   : t.polls = s.polls

namespace Settles

/-- `Settles` where nobody was called. -/
theorem of_silent (silent : t.host.journal.callbacks = s.host.journal.callbacks)
    (ended : s.worker = .ended → t.worker = .ended)
    (polls : t.polls + t.worker.pollsLeft ≤ s.polls + s.worker.pollsLeft) : Settles s t where
  told  := ⟨[], by rw [silent, List.append_nil], nofun, fun _ => rfl⟩
  ended := ended
  polls := polls

theorem refl (s : State) : Settles s s := of_silent rfl id (Nat.le_refl _)

theorem trans (first : Settles s t) (second : Settles t u) : Settles s u := by
  obtain ⟨told₁, calls₁, waits₁, none₁⟩ := first.told
  obtain ⟨told₂, calls₂, waits₂, none₂⟩ := second.told
  refine ⟨⟨told₁ ++ told₂, ?_, ?_, ?_⟩, fun h => second.ended (first.ended h),
    Nat.le_trans second.polls first.polls⟩
  · rw [calls₂, calls₁, List.append_assoc]
  · intro c hc
    exact (List.mem_append.mp hc).elim (waits₁ c) (waits₂ c)
  · intro h
    rw [none₁ h, none₂ (first.ended h), List.append_nil]

end Settles

theorem WorkerPhase.not_serving {w : WorkerPhase} (out : w.holds = false)
    {result : Except Errno (List Reported)} : w ≠ .serving result := by
  rintro rfl
  cases out

/-- After `afterServing` the worker neither reads again nor begins a poll. -/
theorem WorkerPhase.afterServing_over (result : Except Errno (List Reported)) (outcome : Outcome) :
    (∀ r, afterServing result outcome ≠ .serving r) ∧
      (afterServing result outcome).pollsLeft = 0 := by
  unfold afterServing
  split
  · exact ⟨nofun, rfl⟩
  · split
    · split <;> exact ⟨nofun, rfl⟩
    · exact ⟨nofun, rfl⟩

namespace Quiet

/-- `Quiet` is kept by a step `Aside`, which `Settles`. -/
theorem aside (quiet : Quiet policy s) (same : Aside s t) : Quiet policy t ∧ Settles s t := by
  refine ⟨⟨?_, ?_, ?_, ?_, ?_⟩, .of_silent same.silent ?_ ?_⟩
  · rw [same.release, quiet.done]
  · rw [same.run, quiet.stopped]
  · rw [same.worker]
    exact quiet.joined
  · rw [same.session, same.worker]
    exact quiet.shut
  · rw [same.worker]
    exact quiet.silent
  · rw [same.worker]
    exact id
  · exact Nat.le_of_eq (by rw [same.worker, same.polls])

/-- Under `Quiet` the worker has the lock only where the wait-set is empty. -/
theorem waitSet (quiet : Quiet policy s) (has : s.worker.holds = true) :
    s.session.waitSet = .empty := by
  rcases quiet.shut with nothing | ⟨-, out⟩
  · exact nothing
  · rw [has] at out
    cases out

/-- `Quiet` is kept where the worker goes to another phase and all else stays but the lock and the
    wake-up. It needs that the phase takes no lock that is poisoned and begins no poll that was
    not left. -/
theorem advance (quiet : Quiet policy s) (goes : s.worker ≠ .ended) {w : WorkerPhase}
    {lock : Option Party} {signalled : Bool} {polls : Nat}
    (holds : w.holds = true → s.worker.holds = true ∨ s.session.poisoned = false)
    (silent : ∀ ready, w = .serving (.ok ready) → ∀ r ∈ ready, r = .wakeUp)
    (count : polls + w.pollsLeft ≤ s.polls + s.worker.pollsLeft) :
    Quiet policy { s with worker := w, lock, signalled, polls } ∧
      Settles s { s with worker := w, lock, signalled, polls } := by
  refine ⟨⟨quiet.done, quiet.stopped, fun join => absurd (quiet.joined join) goes, ?_, silent⟩,
    .of_silent rfl (fun ended => absurd ended goes) count⟩
  refine quiet.shut.imp_right fun ⟨poisoned, out⟩ => ⟨poisoned, Bool.eq_false_iff.mpr fun has => ?_⟩
  rcases holds has with had | sound
  · rw [had] at out
    cases out
  · rw [poisoned] at sound
    cases sound

/-- `advance` to a phase without the lock and without a poll to begin. -/
theorem rest (quiet : Quiet policy s) (goes : s.worker ≠ .ended) {w : WorkerPhase}
    {lock : Option Party} (out : w.holds = false) (begins : w.pollsLeft = 0) :
    Quiet policy { s with worker := w, lock } ∧ Settles s { s with worker := w, lock } := by
  refine quiet.advance goes (fun has => ?_) (fun _ now => absurd now (WorkerPhase.not_serving out)) ?_
  · rw [out] at has
    cases has
  · rw [begins]
    exact Nat.le_add_right _ _

/-- Under `Quiet` a wait reports no socket. -/
theorem silent_of_reports (quiet : Quiet policy s) (has : s.worker.holds = true)
    {ready : List Reported} (reports : s.Reports (.ok ready)) : ∀ r ∈ ready, r = .wakeUp := by
  have none_ready : s.host.kernel.ready (s.session.waitSet.descriptors none) = [] := by
    rw [quiet.waitSet has]
    rfl
  rw [State.Reports, none_ready] at reports
  subst reports
  intro r hr
  split at hr
  · exact List.mem_singleton.mp hr
  · cases hr

/-- `Quiet` is kept by `Step.serve`: what was reported is nothing but wake-ups, or a failure. -/
theorem serve (quiet : Quiet policy s) {result : Except Errno (List Reported)} {session : Session}
    {outcome : Outcome} {host : Host} (h : s.worker = .serving result)
    (served : (s.session.afterWait result : HostM Empty _) s.host = .ok (session, outcome) host) :
    Quiet policy { s with worker := .afterServing result outcome, session, host } ∧
      Settles s { s with worker := .afterServing result outcome, session, host } := by
  have goes : s.worker ≠ .ended := by
    rw [h]
    nofun
  have nothing : s.session.waitSet = .empty := quiet.waitSet (by rw [h]; rfl)
  -- Either way the wait-set stays empty.
  have left : session.waitSet = s.session.waitSet ∧
      ∃ told, host.journal.callbacks = s.host.journal.callbacks ++ told ∧
        ∀ c ∈ told, c.TellsWait := by
    cases result with
    | error e  => exact Session.afterWait_error served
    | ok ready =>
      have run := served.symm.trans (Session.sweep_wakeUps none (quiet.silent ready h))
      cases run
      exact ⟨rfl, [], (List.append_nil _).symm, nofun⟩
  obtain ⟨waitSet, told, calls, waits⟩ := left
  obtain ⟨served_once, begins_none⟩ := WorkerPhase.afterServing_over result outcome
  refine ⟨⟨quiet.done, quiet.stopped, fun join => absurd (quiet.joined join) goes,
    .inl (waitSet.trans nothing), fun ready again => absurd again (served_once _)⟩,
    ⟨told, calls, waits, fun ended => absurd ended goes⟩, fun ended => absurd ended goes, ?_⟩
  show s.polls + (WorkerPhase.afterServing result outcome).pollsLeft ≤ _
  rw [begins_none]
  exact Nat.le_add_right _ _

/-- **Step: `Quiet` is kept, and every step `Settles`.** Once the release is done, only callers are
    left to move. -/
theorem step (quiet : Quiet policy s) (next : Step policy s t) : Quiet policy t ∧ Settles s t := by
  have released : ∀ {phase : ReleasePhase}, s.release = phase → phase = .done :=
    fun h => h.symm.trans quiet.done
  cases next with
  -- Callers, who get at nothing that the worker goes by.
  | count _ => exact quiet.aside ⟨rfl, rfl, rfl, rfl, rfl, rfl⟩
  | wake _ => exact quiet.aside ⟨rfl, rfl, rfl, rfl, rfl, rfl⟩
  | acquire _ _ _ => exact quiet.aside ⟨rfl, rfl, rfl, rfl, rfl, rfl⟩
  | use _ _ _ unreleased => cases released unreleased
  | uncount _ => exact quiet.aside ⟨rfl, rfl, rfl, rfl, rfl, rfl⟩
  | unlock _ => exact quiet.aside ⟨rfl, rfl, rfl, rfl, rfl, rfl⟩
  | refuse _ _ _ => exact quiet.aside ⟨rfl, rfl, rfl, rfl, rfl, rfl⟩
  | giveUp _ => exact quiet.aside ⟨rfl, rfl, rfl, rfl, rfl, rfl⟩
  -- The worker.
  | check h =>
    -- The flag is down, so this is where the loop ends.
    have ends : (if s.run then WorkerPhase.asking else .ended) = .ended := by
      rw [quiet.stopped]
      rfl
    rw [ends]
    exact quiet.rest (by rw [h]; nofun) rfl rfl
  | workerAcquire h _ sound =>
    -- The one poll that was left is begun, and a lock that is taken is not poisoned.
    refine quiet.advance (by rw [h]; nofun) (fun _ => .inr sound) nofun ?_
    rw [h]
    exact Nat.le_refl _
  | workerRefused h _ _ => exact quiet.rest (by rw [h]; nofun) rfl rfl
  | enterWait h =>
    exact quiet.advance (by rw [h]; nofun) (fun _ => .inl (by rw [h]; rfl)) nofun
      (Nat.le_add_right _ _)
  | leaveWait h reports =>
    have has : s.worker.holds = true := by
      rw [h]
      rfl
    refine quiet.advance (by rw [h]; nofun) (fun _ => .inl has) ?_ (Nat.le_add_right _ _)
    rintro ready now
    cases now
    exact quiet.silent_of_reports has reports
  | serve h served => exact quiet.serve h served
  | drain h =>
    exact quiet.advance (by rw [h]; nofun) (fun _ => .inl (by rw [h]; rfl)) nofun
      (Nat.le_add_right _ _)
  | workerUnlock h =>
    split
    · exact quiet.rest (by rw [h]; nofun) rfl rfl
    · exact quiet.rest (by rw [h]; nofun) rfl rfl
  | look h =>
    split
    · exact quiet.rest (by rw [h]; nofun) rfl rfl
    · exact quiet.rest (by rw [h]; nofun) rfl rfl
  | lookAgain h =>
    have checks : (if s.run then WorkerPhase.yielding else .checking) = .checking := by
      rw [quiet.stopped]
      rfl
    rw [checks]
    exact quiet.rest (by rw [h]; nofun) rfl rfl
  -- The release, which is over.
  | lower h => cases released h
  | wakeToStop h => cases released h
  | join h _ => cases released h
  | releaseAcquire h _ _ => cases released h
  | releaseRefused h _ _ => cases released h
  | clear h _ => cases released h
  | releaseUnlock h => cases released h
  | arrive _ silent => exact quiet.aside ⟨rfl, rfl, rfl, rfl, silent, rfl⟩

/-- Run: `Quiet` is kept and all steps together `Settle`. -/
theorem steps (quiet : Quiet policy s) (more : Steps policy s t) :
    Quiet policy t ∧ Settles s t := by
  induction more with
  | refl => exact ⟨quiet, .refl s⟩
  | tail _ next ih =>
    obtain ⟨before, settles⟩ := ih
    obtain ⟨after, more⟩ := before.step next
    exact ⟨after, settles.trans more⟩

end Quiet

/-! ### Up to the release -/

/-- The phases after `join`, in which the worker has been waited for if that is the policy. -/
def ReleasePhase.pastJoin : ReleasePhase → Bool
  | .idle     => false
  | .stopping => false
  | .joining  => false
  | _         => true

/-- What the release has made sure of, phase by phase. -/
structure Orderly (policy : ShutdownPolicy) (s : State) : Prop where
  exclusive : s.Exclusive
  stopped   : s.release ≠ .idle → s.run = false
  joined    : policy = .join → s.release.pastJoin = true → s.worker = .ended
  emptied   : s.release = .leaving → s.session.waitSet = .empty
  quiet     : s.release = .done → Quiet policy s

namespace Orderly

/-- Before the release begins `Orderly` says only `Exclusive`. -/
theorem unreleased (exclusive : s.Exclusive) (idle : s.release = .idle) : Orderly policy s where
  exclusive := exclusive
  stopped   := fun begun => absurd idle begun
  joined    := fun _ past => by
    rw [idle] at past
    cases past
  emptied   := fun leaving => by
    rw [idle] at leaving
    cases leaving
  quiet     := fun done => by
    rw [idle] at done
    cases done

theorem start (n : Nat) (session : Session) (host : Host) :
    Orderly policy (.start n session host) :=
  unreleased (.start n session host) rfl

variable (orderly : Orderly policy s) (next : Step policy s t)

include orderly next

/-- `Orderly` is kept by a step `Aside`. -/
theorem aside (same : Aside s t) : Orderly policy t where
  exclusive := orderly.exclusive.step next
  stopped   := by
    rw [same.release, same.run]
    exact orderly.stopped
  joined    := by
    rw [same.release, same.worker]
    exact orderly.joined
  emptied   := by
    rw [same.release, same.session]
    exact orderly.emptied
  quiet     := fun done => ((orderly.quiet (same.release.symm.trans done)).step next).1

/-- `Orderly` is kept by a step of the worker, which changes the session only while it has
    the lock. -/
theorem byWorker (goes : s.worker ≠ .ended) (release : t.release = s.release) (run : t.run = s.run)
    (reads : s.worker.holds = true ∨ t.session = s.session) : Orderly policy t where
  exclusive := orderly.exclusive.step next
  stopped   := by
    rw [release, run]
    exact orderly.stopped
  joined    := by
    rw [release]
    exact fun join past => absurd (orderly.joined join past) goes
  emptied   := by
    intro leaving
    rw [release] at leaving
    rcases reads with has | same
    · -- The release has the lock, so this is not the worker's.
      have held : s.Holds .release := State.holds_release leaving rfl
      cases orderly.exclusive.unique (p := .worker) has held
    · rw [same]
      exact orderly.emptied leaving
  quiet     := fun done => ((orderly.quiet (release.symm.trans done)).step next).1

/-- `Orderly` is kept by a step of the release to a phase before `done`. -/
theorem byRelease (stopped : t.run = false) (worker : t.worker = s.worker)
    (joined : policy = .join → t.release.pastJoin = true → s.worker = .ended)
    (emptied : t.release = .leaving → t.session.waitSet = .empty) (going : t.release ≠ .done) :
    Orderly policy t where
  exclusive := orderly.exclusive.step next
  stopped   := fun _ => stopped
  joined    := by
    rw [worker]
    exact joined
  emptied   := emptied
  quiet     := fun done => absurd done going

omit next

/-- The last step of the release establishes `Quiet`: the wait-set is empty, or the lock is
    poisoned. -/
theorem finish {lock : Option Party} (past : s.release.pastJoin = true)
    (exclusive : State.Exclusive { s with release := .done, lock }) (out : s.worker.holds = false)
    (shut : s.session.waitSet = .empty ∨ s.session.poisoned = true) :
    Orderly policy { s with release := .done, lock } := by
  have begun : s.release ≠ .idle := by
    intro idle
    rw [idle] at past
    cases past
  have joined : policy = .join → s.worker = .ended := fun join => orderly.joined join past
  exact {
    exclusive := exclusive
    stopped   := fun _ => orderly.stopped begun
    joined    := fun join _ => joined join
    emptied   := nofun
    -- The worker is out of the lock at this moment, so it is not reading.
    quiet     := fun _ => {
      done    := rfl
      stopped := orderly.stopped begun
      joined  := joined
      shut    := shut.imp_right fun poisoned => ⟨poisoned, out⟩
      silent  := fun _ now => absurd now (WorkerPhase.not_serving out) } }

/-- **Step: `Orderly` is kept by every step.** -/
theorem step (next : Step policy s t) : Orderly policy t := by
  have exclusive : t.Exclusive := orderly.exclusive.step next
  have begun : ∀ {phase : ReleasePhase}, s.release = phase → phase ≠ .idle → s.run = false := by
    rintro phase rfl begun
    exact orderly.stopped begun
  cases next with
  -- Callers.
  | count h => exact orderly.aside (.count h) ⟨rfl, rfl, rfl, rfl, rfl, rfl⟩
  | wake h => exact orderly.aside (.wake h) ⟨rfl, rfl, rfl, rfl, rfl, rfl⟩
  | acquire h free sound => exact orderly.aside (.acquire h free sound) ⟨rfl, rfl, rfl, rfl, rfl, rfl⟩
  | use session host h idle => exact unreleased exclusive idle
  | uncount h => exact orderly.aside (.uncount h) ⟨rfl, rfl, rfl, rfl, rfl, rfl⟩
  | unlock h => exact orderly.aside (.unlock h) ⟨rfl, rfl, rfl, rfl, rfl, rfl⟩
  | refuse h free poisoned =>
    exact orderly.aside (.refuse h free poisoned) ⟨rfl, rfl, rfl, rfl, rfl, rfl⟩
  | giveUp h => exact orderly.aside (.giveUp h) ⟨rfl, rfl, rfl, rfl, rfl, rfl⟩
  -- The worker.
  | check h => exact orderly.byWorker (.check h) (by rw [h]; nofun) rfl rfl (.inr rfl)
  | workerAcquire h free sound =>
    exact orderly.byWorker (.workerAcquire h free sound) (by rw [h]; nofun) rfl rfl (.inr rfl)
  | workerRefused h free poisoned =>
    exact orderly.byWorker (.workerRefused h free poisoned) (by rw [h]; nofun) rfl rfl (.inr rfl)
  | enterWait h => exact orderly.byWorker (.enterWait h) (by rw [h]; nofun) rfl rfl (.inr rfl)
  | leaveWait h reports =>
    exact orderly.byWorker (.leaveWait h reports) (by rw [h]; nofun) rfl rfl (.inr rfl)
  | serve h served =>
    exact orderly.byWorker (.serve h served) (by rw [h]; nofun) rfl rfl (.inl (by rw [h]; rfl))
  | drain h => exact orderly.byWorker (.drain h) (by rw [h]; nofun) rfl rfl (.inr rfl)
  | workerUnlock h =>
    exact orderly.byWorker (.workerUnlock h) (by rw [h]; nofun) rfl rfl (.inr rfl)
  | look h => exact orderly.byWorker (.look h) (by rw [h]; nofun) rfl rfl (.inr rfl)
  | lookAgain h => exact orderly.byWorker (.lookAgain h) (by rw [h]; nofun) rfl rfl (.inr rfl)
  -- The release.
  | lower h => exact orderly.byRelease (.lower h) rfl rfl nofun nofun nofun
  | wakeToStop h =>
    exact orderly.byRelease (.wakeToStop h) (begun h nofun) rfl nofun nofun nofun
  | join h ended =>
    exact orderly.byRelease (.join h ended) (begun h nofun) rfl (fun join _ => ended join) nofun
      nofun
  | releaseAcquire h free sound =>
    exact orderly.byRelease (.releaseAcquire h free sound) (begun h nofun) rfl
      (fun join _ => orderly.joined join (by rw [h]; rfl)) nofun nofun
  | releaseRefused h free poisoned =>
    -- The lock is free, so the worker does not have it, and it will not get it.
    have out : s.worker.holds = false := orderly.exclusive.worker_out (by rw [free]; nofun)
    exact orderly.finish (by rw [h]; rfl) exclusive out (.inr poisoned)
  | clear h cleared =>
    exact orderly.byRelease (.clear h cleared) (begun h nofun) rfl
      (fun join _ => orderly.joined join (by rw [h]; rfl))
      (fun _ => Session.waitSet_of_emptyWaitSet cleared) nofun
  | releaseUnlock h =>
    -- The release has the lock, so the worker does not.
    have held : s.lock = some .release := orderly.exclusive .release (State.holds_release h rfl)
    have out : s.worker.holds = false := orderly.exclusive.worker_out (by rw [held]; nofun)
    exact orderly.finish (by rw [h]; rfl) exclusive out (.inl (orderly.emptied h))
  | arrive host silent => exact orderly.aside (.arrive host silent) ⟨rfl, rfl, rfl, rfl, silent, rfl⟩

/-- Run: `Orderly` is kept by any number of steps. -/
theorem steps (more : Steps policy s t) : Orderly policy t := by
  induction more with
  | refl           => exact orderly
  | tail _ next ih => exact ih.step next

omit orderly

/-- `Orderly` holds in every reachable state. -/
theorem of_reachable {n : Nat} (reached : Reachable policy n s) : Orderly policy s := by
  obtain ⟨session, host, course⟩ := reached
  exact (start n session host).steps course

end Orderly

/-! ### A session with one receive socket -/

/-- A session with one receive socket, whose failures are told to an observer. -/
def watched : Session where
  name     := "can0"
  index    := 3
  config   := .default
  tx       := 100
  txBuffer := 0
  rxBuffer := 0
  dropped  := 0
  waitSet  := (WaitSet.empty.setTx 100).insert 101
  registry := { rx := [(101, ⟨"monitor", .returns⟩)], errors := [.observer "watch" .returns] }
  poisoned := false
  worker   := some .asking

/-- A host with the two sockets of `watched`. -/
def twoSockets : Host where
  kernel  := { Kernel.start [] .none [] with
    nextFd  := 102
    sockets := [⟨100, [], 0, 0, none⟩, ⟨101, [], 0, 0, none⟩] }
  journal := #[]

end Interleaving

end CanDriver
