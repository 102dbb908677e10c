import CanDriver.Proofs.Interleaving.Wakeups

namespace CanDriver.Interleaving

/-!
# Nobody gets a poisoned lock

* `Refused` — the session, the lock and the callbacks stay as they are from the moment on when a
  poisoned lock is given back;
* `Refused.step`, `Refused.steps` — one step keeps `Refused`, and so does every run;
* `asking_of_poisoned` — a worker that asks for the lock ends with its next step;
* `ShutOut` — nobody comes to the session any more, and nobody is kept waiting for it.
-/

open Relation

variable {policy : ShutdownPolicy} {s t u : State} {n : Nat} {session : Session} {host : Host}

/-- From `s` to `t` nobody has come to the session: it is unchanged, the lock is free, no poll was
    begun and nobody called. -/
structure Refused (s t : State) : Prop where
  session   : t.session = s.session
  lock      : t.lock = none
  polls     : t.polls = s.polls
  callbacks : t.host.journal.callbacks = s.host.journal.callbacks

namespace Refused

/-- A step from a state with a poisoned and free lock satisfies `Refused`: no party is in a phase
    with the lock, and none can enter one. -/
theorem step (alert : Alert s) (poisoned : s.session.poisoned = true) (free : s.lock = none)
    (next : FreeStep policy s t) : Refused s t := by
  have unheld {p : Party} : ¬ s.Holds p := fun holds => alert.lock_ne_none holds free
  have unsound : s.session.poisoned ≠ false := fun sound => nomatch sound.symm.trans poisoned
  have beside : Refused s s := ⟨rfl, free, rfl, rfl⟩
  cases next with
  | use session' host' h => exact absurd (State.holds_caller h rfl) unheld
  | step next =>
    cases next with
    -- Callers.
    | acquire h _ sound      => exact absurd sound unsound
    | use session' host' h _ => exact absurd (State.holds_caller h rfl) unheld
    | uncount h              => exact absurd (State.holds_caller h rfl) unheld
    | unlock h               => exact absurd (State.holds_caller h rfl) unheld
    -- The worker.
    | workerAcquire h _ sound => exact absurd sound unsound
    | enterWait h             => exact absurd (State.holds_worker h rfl) unheld
    | leaveWait h reports     => exact absurd (State.holds_worker h rfl) unheld
    | serve h served          => exact absurd (State.holds_worker h rfl) unheld
    | drain h                 => exact absurd (State.holds_worker h rfl) unheld
    | workerUnlock h          => exact absurd (State.holds_worker h rfl) unheld
    -- The release of the session.
    | releaseAcquire h _ sound => exact absurd sound unsound
    | clear h cleared          => exact absurd (State.holds_release h rfl) unheld
    | releaseUnlock h          => exact absurd (State.holds_release h rfl) unheld
    | arrive host' silent      => exact ⟨rfl, free, rfl, silent⟩
    -- Nobody else has to do with the session, or with the lock.
    | _ => exact ⟨beside.session, beside.lock, beside.polls, beside.callbacks⟩

/-- **Nobody gets a poisoned lock**: `Refused` after any number of steps. By induction on them, with
    `Refused.step`. -/
theorem steps (reached : ReflTransGen (FreeStep policy) (.start n session host) s)
    (poisoned : s.session.poisoned = true) (free : s.lock = none)
    (more : ReflTransGen (FreeStep policy) s t) : Refused s t := by
  induction more with
  | refl => exact ⟨rfl, free, rfl, rfl⟩
  | tail course next ih =>
    have alert := Alert.of_reached (reached.trans course)
    have one := step alert (ih.session ▸ poisoned) ih.lock next
    exact ⟨one.session.trans ih.session, one.lock, one.polls.trans ih.polls,
      one.callbacks.trans ih.callbacks⟩

end Refused

/-- A worker that asks for a poisoned lock still asks after a step of others, and its own
    step ends it. -/
theorem asking_of_poisoned (asks : s.worker = .asking) (poisoned : s.session.poisoned = true)
    (next : Step policy s t) : t.worker = .asking ∨ t.worker = .ended := by
  have other {w : WorkerPhase} (h : s.worker = w) (differs : w ≠ .asking) : False :=
    differs (h.symm.trans asks)
  cases next with
  | check h                 => exact (other h nofun).elim
  | workerAcquire h _ sound => exact nomatch sound.symm.trans poisoned
  | workerRefused h _ _     => exact .inr rfl
  | enterWait h             => exact (other h nofun).elim
  | leaveWait h reports     => exact (other h nofun).elim
  | serve h served          => exact (other h nofun).elim
  | drain h                 => exact (other h nofun).elim
  | workerUnlock h          => exact (other h nofun).elim
  | look h                  => exact (other h nofun).elim
  | lookAgain h             => exact (other h nofun).elim
  | _                       => exact .inl asks

/-- Nobody has come to the session since, and nobody waits for it: who asks for the lock can go on,
    a caller as one that is refused and the worker to its end. -/
structure ShutOut (policy : ShutdownPolicy) (s t : State) : Prop where
  nobody  : Refused s t
  /-- The contenders are still those callers that count themselves. -/
  counted : t.contenders = t.callers.countP CallerPhase.counts
  callers : ∀ i, t.caller? i = some .asking → Step policy t (t.move i .refused)
  worker  : t.worker = .asking → Step policy t { t with worker := .ended } ∧
    ∀ u, Step policy t u → u.worker = .asking ∨ u.worker = .ended

/-- **A panic shuts everybody out**, from the moment on when the poisoned lock is given back. -/
theorem shutOut_of_poisoned (reached : ReflTransGen (FreeStep policy) (.start n session host) s)
    (poisoned : s.session.poisoned = true) (free : s.lock = none)
    (more : ReflTransGen (FreeStep policy) s t) : ShutOut policy s t := by
  have nobody := Refused.steps reached poisoned free more
  have still : t.session.poisoned = true := nobody.session ▸ poisoned
  exact ⟨nobody, (Alert.of_reached (reached.trans more)).counted,
    fun _ asks => .refuse asks nobody.lock still,
    fun asks => ⟨.workerRefused asks nobody.lock still, fun _ => asking_of_poisoned asks still⟩⟩

end CanDriver.Interleaving
