import CanDriver.Proofs.Interleaving.Quiescence
import Mathlib.Data.List.Count
import Mathlib.Logic.Relation

namespace CanDriver.Interleaving

/-!
# No wake-up is lost

One drain takes back the wake-ups of all callers and of the release at once.  Nobody is left behind,
because the worker looks at the number of contenders before it waits again.

* `FreeStep policy` — a step in which callers may use the session at any time, also in a panic;
* `CallerPhase.counts`, `CallerPhase.awaits`, `ReleasePhase.called` — who is counted, and who has
  sent a wake-up and still needs the worker to let go;
* `State.Heeds` — the worker is to wait, or comes from a wait, and has taken no wake-up back since;
* `Alert` — while the worker heeds, a wake-up that somebody relies on is still there; and
  `Alert.step`, case by case;
* `no_lost_wakeup` — every state that is reached is `Alert`.
-/

/-- `Step`, and beside it a use of the session by a caller that has the lock even after the release
    has begun. -/
inductive FreeStep (policy : ShutdownPolicy) : State → State → Prop
  | step {s t : State} (next : Step policy s t) : FreeStep policy s t
  | use {s : State} {i : Nat} (session : Session) (host : Host)
      (h : s.caller? i = some .holding) : FreeStep policy s { s with session, host }

/-- Every course of `Step`s is one of `FreeStep`s. -/
theorem Steps.free {policy : ShutdownPolicy} {s t : State} (course : Steps policy s t) :
    Relation.ReflTransGen (FreeStep policy) s t := by
  induction course with
  | refl           => exact .refl
  | tail _ next ih => exact ih.tail (.step next)

/-! ### Phases -/

/-- The phases between `count` and `uncount` or `giveUp`, in which `contenders` includes
    the caller. -/
def CallerPhase.counts : CallerPhase → Bool
  | .counted => true
  | .asking  => true
  | .holding => true
  | .refused => true
  | .idle    => false
  | .leaving => false

/-- The phases in which a wake-up was sent and the lock is not held. -/
def CallerPhase.awaits : CallerPhase → Bool
  | .asking  => true
  | .refused => true
  | _        => false

/-- The phases after `wakeToStop`. -/
def ReleasePhase.called : ReleasePhase → Bool
  | .idle     => false
  | .stopping => false
  | _         => true

/-- The phases from `asking` up to `drain`: the worker is to wait or comes from a wait, and has not
    taken a wake-up back. -/
def WorkerPhase.undrained : WorkerPhase → Bool
  | .asking    => true
  | .entering  => true
  | .waiting   => true
  | .serving _ => true
  | .draining  => true
  | _          => false

namespace State

variable {s t : State} {i : Nat} {phase phase' : CallerPhase}

/-- The worker is `undrained`, or nothing but a raised run flag stands between it and its
    next wait. -/
def Heeds (s : State) : Prop := s.worker.undrained = true ∨ s.worker = .checking ∧ s.run = true

/-- Somebody has sent a wake-up and relies on it: a caller that asks for the lock, or
    the release. -/
def Called (s : State) : Prop := (∃ i, s.caller? i = some .asking) ∨ s.release.called = true

theorem heeds_of_phase {worker : WorkerPhase} (h : s.worker = worker)
    (undrained : worker.undrained = true) : s.Heeds := .inl (h ▸ undrained)

/-- A worker that has taken the wake-up back and does not look at the run flag heeds nothing. -/
theorem not_heeds (drained : s.worker.undrained = false) (other : s.worker ≠ .checking) :
    ¬ s.Heeds := by
  rintro (undrained | ⟨checking, -⟩)
  · rw [drained] at undrained
    cases undrained
  · exact other checking

/-- `move` adds the new phase to the count and takes the old one away. -/
theorem countP_move (h : s.caller? i = some phase) (phase' : CallerPhase) :
    (s.move i phase').callers.countP CallerPhase.counts + phase.counts.toNat =
      s.callers.countP CallerPhase.counts + phase'.counts.toNat := by
  obtain ⟨short, there⟩ := List.getElem?_eq_some_iff.mp h
  have counted : s.callers[i].counts = true → 0 < s.callers.countP CallerPhase.counts := fun counts =>
    List.countP_pos_iff.mpr ⟨_, List.getElem_mem short, counts⟩
  rw [move, List.countP_set short]
  rw [there] at counted ⊢
  cases counts : phase.counts with
  | false => cases phase'.counts <;> simp
  | true =>
    have positive := counted counts
    cases phase'.counts <;> simp <;> omega

/-- After a caller has moved, `Called` held before or it is this caller that asks now. -/
theorem Called.of_move (callers : t.callers = (s.move i phase').callers)
    (release : t.release = s.release) (called : t.Called) : s.Called ∨ phase' = .asking := by
  rcases called with ⟨j, asks⟩ | sent
  · rw [caller?, callers] at asks
    obtain ⟨-, same⟩ | ⟨-, before⟩ := caller?_move asks
    · exact .inr same.symm
    · exact .inl (.inl ⟨j, before⟩)
  · exact .inl (.inr (release ▸ sent))

end State

/-! ### What steps keep -/

/-- The invariant: `contenders` is exact, and a wake-up that somebody relies on is there for as long
    as the worker heeds it. -/
structure Alert (s : State) : Prop where
  exclusive : s.Exclusive
  counted   : s.contenders = s.callers.countP CallerPhase.counts
  stopped   : s.release ≠ .idle → s.run = false
  /-- Who is refused by a poisoned lock leaves it free, and nobody gets it any more. -/
  refused   : ∀ i, s.caller? i = some .refused → s.session.poisoned = true ∧ s.lock = none
  heard     : s.Heeds → s.Called → s.signalled = true

namespace Alert

variable {policy : ShutdownPolicy} {s t : State} {i : Nat} {phase phase' : CallerPhase}

theorem start (n : Nat) (session : Session) (host : Host) : Alert (.start n session host) where
  exclusive := .start n session host
  counted   := by
    have idle : ∀ phase ∈ List.replicate n CallerPhase.idle, ¬ phase.counts = true := by
      intro phase member
      rw [List.eq_of_mem_replicate member]
      exact Bool.false_ne_true
    exact (List.countP_eq_zero.mpr idle).symm
  stopped   := fun begun => absurd rfl begun
  refused   := by
    intro i found
    cases List.eq_of_mem_replicate (List.mem_of_getElem? found)
  heard     := by
    rintro - (⟨i, found⟩ | sent)
    · cases List.eq_of_mem_replicate (List.mem_of_getElem? found)
    · cases sent

variable (alert : Alert s)

include alert

/-- The field `refused` of `Alert` is kept where no caller moves and a poisoned lock stays free. -/
theorem refused_of_aside (callers : t.callers = s.callers)
    (locked : s.session.poisoned = true → s.lock = none →
      t.session.poisoned = true ∧ t.lock = none) :
    ∀ i, t.caller? i = some .refused → t.session.poisoned = true ∧ t.lock = none := by
  intro i found
  rw [State.caller?, callers] at found
  obtain ⟨poisoned, free⟩ := alert.refused i found
  exact locked poisoned free

/-- `Alert` is kept by a move of one caller that keeps the count in step and sends a wake-up
    before it asks. -/
theorem byCaller {contenders : Nat} {signalled : Bool} {lock : Option Party}
    (h : s.caller? i = some phase)
    (exclusive : State.Exclusive { s.move i phase' with contenders, signalled, lock })
    (counted : contenders + phase.counts.toNat = s.contenders + phase'.counts.toNat)
    (sent : s.signalled = true → signalled = true) (asks : phase' = .asking → signalled = true)
    (refused : phase' = .refused → s.session.poisoned = true ∧ lock = none)
    (stays : s.session.poisoned = true → s.lock = none → lock = none) :
    Alert { s.move i phase' with contenders, signalled, lock } where
  exclusive := exclusive
  -- The count changes by one phase, and `contenders` by the same.
  counted   := by
    have moved := State.countP_move h phase'
    rw [← alert.counted] at moved
    show contenders = (s.move i phase').callers.countP CallerPhase.counts
    omega
  stopped   := alert.stopped
  refused   := by
    intro j found
    obtain ⟨-, same⟩ | ⟨-, before⟩ := State.caller?_move found
    · exact refused same.symm
    · obtain ⟨poisoned, free⟩ := alert.refused j before
      exact ⟨poisoned, stays poisoned free⟩
  -- Either somebody relied on the wake-up before, or this caller does from now on.
  heard     := by
    intro heeds called
    rcases State.Called.of_move rfl rfl called with before | now
    · exact sent (alert.heard heeds before)
    · exact asks now

/-- `Alert` is kept where neither callers nor the release move, if a wake-up is heeded as before or
    nobody has called. -/
theorem beside {worker : WorkerPhase} {signalled : Bool} {lock : Option Party} {session : Session}
    {host : Host} {polls : Nat}
    (exclusive : State.Exclusive { s with worker, signalled, lock, session, host, polls })
    (locked : s.session.poisoned = true → s.lock = none → session.poisoned = true ∧ lock = none)
    (heeds : State.Heeds { s with worker, signalled, lock, session, host, polls } →
      s.Heeds ∧ signalled = s.signalled ∨ ¬ s.Called) :
    Alert { s with worker, signalled, lock, session, host, polls } where
  exclusive := exclusive
  counted   := alert.counted
  stopped   := alert.stopped
  refused   := alert.refused_of_aside rfl locked
  heard     := by
    intro now called
    rcases heeds now with ⟨heeded, same⟩ | nobody
    · exact same ▸ alert.heard heeded called
    · exact absurd called nobody

/-- `Alert` is kept by a move of the release with the run flag down, if it sends a wake-up before
    it waits. -/
theorem byRelease {release : ReleasePhase} {run signalled : Bool} {lock : Option Party}
    {session : Session} {host : Host} (down : run = false)
    (exclusive : State.Exclusive { s with release, run, signalled, lock, session, host })
    (locked : s.session.poisoned = true → s.lock = none → session.poisoned = true ∧ lock = none)
    (sent : s.signalled = true → signalled = true)
    (calls : release.called = true → s.release.called = true ∨ signalled = true) :
    Alert { s with release, run, signalled, lock, session, host } where
  exclusive := exclusive
  counted   := alert.counted
  stopped   := fun _ => down
  refused   := alert.refused_of_aside rfl locked
  heard     := by
    intro heeds called
    have heeded : s.Heeds := heeds.imp_right fun up => absurd (down.symm.trans up.2) Bool.false_ne_true
    rcases called with asks | now
    · exact sent (alert.heard heeded (.inl asks))
    · rcases calls now with before | signalled
      · exact sent (alert.heard heeded (.inr before))
      · exact signalled

/-- With no contenders and the run flag up nobody has called. This is what the worker finds out
    before it waits again. -/
theorem not_called (alone : s.contenders = 0) (up : s.run = true) : ¬ s.Called := by
  rintro (⟨i, asks⟩ | called)
  · have none_counted := List.countP_eq_zero.mp (alert.counted.symm.trans alone)
    exact none_counted .asking (List.mem_of_getElem? asks) rfl
  · have begun : s.release ≠ .idle := by
      intro idle
      rw [idle] at called
      cases called
    rw [alert.stopped begun] at up
    cases up

theorem lock_ne_none {p : Party} (holds : s.Holds p) : s.lock ≠ none := by
  rw [alert.exclusive p holds]
  nofun

/-- A caller in a phase that counts makes `contenders` positive. -/
theorem contenders_pos (h : s.caller? i = some phase) (counts : phase.counts = true) :
    0 < s.contenders := by
  rw [alert.counted]
  exact List.countP_pos_iff.mpr ⟨phase, List.mem_of_getElem? h, counts⟩

/-- `Alert` is kept by any use of the session by a caller that has the lock. -/
theorem use (session : Session) (host : Host) (h : s.caller? i = some .holding) :
    Alert { s with session, host } := by
  have exclusive : State.Exclusive { s with session, host } :=
    alert.exclusive.keep rfl fun _ holds => holds
  have held : s.lock ≠ none := alert.lock_ne_none (State.holds_caller h rfl)
  exact alert.beside exclusive (fun _ free => absurd free held) fun heeds => .inl ⟨heeds, rfl⟩

/-- **Step: `Alert` is kept by every `FreeStep`.** -/
theorem step (next : Step policy s t) : Alert t := by
  have exclusive : t.Exclusive := alert.exclusive.step next
  have kept : s.session.poisoned = true → s.lock = none →
      s.session.poisoned = true ∧ s.lock = none := fun poisoned free => ⟨poisoned, free⟩
  have sounds : ∀ {α : Prop}, s.session.poisoned = false → s.session.poisoned = true → α := by
    intro α sound poisoned
    rw [sound] at poisoned
    cases poisoned
  have down : ∀ {phase : ReleasePhase}, s.release = phase → phase ≠ .idle → s.run = false := by
    rintro phase rfl begun
    exact alert.stopped begun
  have called : ∀ {phase : ReleasePhase}, s.release = phase → phase.called = true →
      s.release.called = true := by
    rintro phase rfl calls
    exact calls
  cases next with
  -- Callers.
  | count h => exact alert.byCaller h exclusive rfl id nofun nofun fun _ => id
  | wake h => exact alert.byCaller h exclusive rfl (fun _ => rfl) (fun _ => rfl) nofun fun _ => id
  | acquire h free sound =>
    exact alert.byCaller h exclusive rfl id nofun nofun fun poisoned _ => sounds sound poisoned
  | use session host h idle => exact alert.use session host h
  | uncount h =>
    have positive := alert.contenders_pos h rfl
    exact alert.byCaller h exclusive (Nat.sub_add_cancel positive) id nofun nofun fun _ => id
  | unlock h => exact alert.byCaller h exclusive rfl id nofun nofun fun _ _ => rfl
  | refuse h free poisoned =>
    exact alert.byCaller h exclusive rfl id nofun (fun _ => ⟨poisoned, free⟩) fun _ => id
  | giveUp h =>
    have positive := alert.contenders_pos h rfl
    exact alert.byCaller h exclusive (Nat.sub_add_cancel positive) id nofun nofun fun _ => id
  -- The worker.
  | check h =>
    refine alert.beside exclusive kept fun heeds => .inl ⟨.inr ⟨h, ?_⟩, rfl⟩
    -- With the flag down the loop ends here.
    cases up : s.run with
    | true  => rfl
    | false => simp [State.Heeds, WorkerPhase.undrained, up] at heeds
  | workerAcquire h free sound =>
    exact alert.beside exclusive (fun poisoned _ => sounds sound poisoned) fun _ =>
      .inl ⟨State.heeds_of_phase h rfl, rfl⟩
  | workerRefused h free poisoned => exact alert.beside exclusive kept nofun
  | enterWait h => exact alert.beside exclusive kept fun _ => .inl ⟨State.heeds_of_phase h rfl, rfl⟩
  | leaveWait h reports =>
    exact alert.beside exclusive kept fun _ => .inl ⟨State.heeds_of_phase h rfl, rfl⟩
  | serve h served =>
    have held : s.lock ≠ none := alert.lock_ne_none (State.holds_worker h rfl)
    exact alert.beside exclusive (fun _ free => absurd free held) fun _ =>
      .inl ⟨State.heeds_of_phase h rfl, rfl⟩
  | drain h => exact alert.beside exclusive kept nofun
  | workerUnlock h =>
    refine alert.beside exclusive (fun poisoned _ => ⟨poisoned, rfl⟩) fun heeds => ?_
    split at heeds
    · exact absurd heeds (State.not_heeds rfl nofun)
    · exact absurd heeds (State.not_heeds rfl nofun)
  | look h =>
    refine alert.beside exclusive kept fun heeds => .inr ?_
    -- The wake-ups of all contenders may be gone, so that it matters that there are none.
    by_cases alone : s.contenders = 0
    · rw [if_pos alone] at heeds
      rcases heeds with never | ⟨-, up⟩
      · cases never
      · exact alert.not_called alone up
    · rw [if_neg alone] at heeds
      exact absurd heeds (State.not_heeds rfl nofun)
  | lookAgain h =>
    refine alert.beside exclusive kept fun heeds => ?_
    cases up : s.run with
    | true  => simp [State.Heeds, WorkerPhase.undrained, up] at heeds
    | false => simp [State.Heeds, WorkerPhase.undrained, up] at heeds
  -- The release of the session.
  | lower h => exact alert.byRelease rfl exclusive kept id nofun
  | wakeToStop h =>
    exact alert.byRelease (down h nofun) exclusive kept (fun _ => rfl) fun _ => .inr rfl
  | join h ended =>
    exact alert.byRelease (down h nofun) exclusive kept id fun _ => .inl (called h rfl)
  | releaseAcquire h free sound =>
    exact alert.byRelease (down h nofun) exclusive (fun poisoned _ => sounds sound poisoned) id
      fun _ => .inl (called h rfl)
  | releaseRefused h free poisoned =>
    exact alert.byRelease (down h nofun) exclusive kept id fun _ => .inl (called h rfl)
  | clear h cleared =>
    have held : s.lock ≠ none := alert.lock_ne_none (State.holds_release h rfl)
    exact alert.byRelease (down h nofun) exclusive (fun _ free => absurd free held) id
      fun _ => .inl (called h rfl)
  | releaseUnlock h =>
    exact alert.byRelease (down h nofun) exclusive (fun poisoned _ => ⟨poisoned, rfl⟩) id
      fun _ => .inl (called h rfl)
  | arrive host silent =>
    exact alert.beside exclusive kept fun heeds => .inl ⟨heeds, rfl⟩

omit alert

/-- Run: `Alert` holds in every state that is reached from a start. -/
theorem of_reached {n : Nat} {session : Session} {host : Host}
    (reached : Relation.ReflTransGen (FreeStep policy) (.start n session host) s) : Alert s := by
  induction reached with
  | refl => exact start n session host
  | tail _ next ih =>
    cases next with
    | step next            => exact ih.step next
    | use session' host' h => exact ih.use session' host' h

end Alert

/-! ### After any course -/

/-- **No wake-up is lost.** The number of contenders is that of the callers between counting
    themselves and taking that back, whether they get the lock, are refused, or panic with it. And
    while the worker waits, the wake-up is there if some caller has sent one and does not have the
    lock, or if the release has lowered the run flag and sent one; so that the wait, unless it
    fails, ends with the wake-up. -/
theorem no_lost_wakeup {policy : ShutdownPolicy} {n : Nat} {session : Session} {host : Host}
    {s : State} (reached : Relation.ReflTransGen (FreeStep policy) (.start n session host) s) :
    s.contenders = s.callers.countP CallerPhase.counts ∧
      (s.worker = .waiting →
        (∃ i phase, s.caller? i = some phase ∧ phase.awaits = true) ∨
          s.run = false ∧ s.release.called = true →
        s.signalled = true ∧ ∀ ready, s.Reports (.ok ready) → .wakeUp ∈ ready) := by
  have alert := Alert.of_reached reached
  refine ⟨alert.counted, fun waits called => ?_⟩
  have heeds : s.Heeds := State.heeds_of_phase waits rfl
  have sent : s.Called := by
    rcases called with ⟨i, phase, found, awaits⟩ | ⟨-, called⟩
    · cases phase with
      | asking  => exact .inl ⟨i, found⟩
      | refused =>
        -- The lock is free where a caller was refused, and the worker has it while it waits.
        have free := (alert.refused i found).2
        exact absurd free (alert.lock_ne_none (State.holds_worker waits rfl))
      | idle    => cases awaits
      | counted => cases awaits
      | holding => cases awaits
      | leaving => cases awaits
    · exact .inr called
  have signalled := alert.heard heeds sent
  refine ⟨signalled, fun ready reports => ?_⟩
  rw [State.Reports, signalled] at reports
  rw [reports]
  exact List.mem_append_right _ (List.mem_singleton_self _)

/-- Two callers and the release wake a worker that waits; the first caller had the lock before, and
    a wake-up of it was drained. -/
theorem no_lost_wakeup_together :
    ∃ s, Relation.ReflTransGen (FreeStep .join) (.start 2 watched twoSockets) s ∧
      s.worker = .waiting ∧ s.caller? 0 = some .asking ∧ s.caller? 1 = some .asking ∧
      s.release = .joining ∧ s.run = false ∧ s.contenders = 2 ∧
      s.signalled = true ∧ ∀ ready, s.Reports (.ok ready) → .wakeUp ∈ ready := by
  have first : Steps .join (.start 2 watched twoSockets) (.start 2 watched twoSockets) := .refl
  -- The first caller wakes the worker while that asks for the lock.
  have woken := ((first.tail (.check rfl)).tail (.count (i := 0) rfl)).tail (.wake (i := 0) rfl)
  have waited := (woken.tail (.workerAcquire rfl rfl rfl)).tail (.enterWait rfl)
  have reported := waited.tail (.leaveWait rfl (show State.Reports _ (.ok [.wakeUp]) from rfl))
  have drained := (reported.tail (.serve rfl rfl)).tail (.drain rfl)
  have backsOff := (drained.tail (.workerUnlock rfl)).tail (.look rfl)
  have served := (backsOff.tail (.acquire (i := 0) rfl rfl rfl)).tail (.uncount (i := 0) rfl)
  have alone := ((served.tail (.unlock (i := 0) rfl)).tail (.lookAgain rfl)).tail (.look rfl)
  have again := ((alone.tail (.check rfl)).tail (.workerAcquire rfl rfl rfl)).tail (.enterWait rfl)
  have called := (again.tail (.count (i := 0) rfl)).tail (.wake (i := 0) rfl)
  have both := (called.tail (.count (i := 1) rfl)).tail (.wake (i := 1) rfl)
  have reached := ((both.tail (.lower rfl)).tail (.wakeToStop rfl)).free
  exact ⟨_, reached, rfl, rfl, rfl, rfl, rfl, rfl,
    (no_lost_wakeup reached).2 rfl (.inl ⟨0, .asking, rfl, rfl⟩)⟩

end CanDriver.Interleaving
