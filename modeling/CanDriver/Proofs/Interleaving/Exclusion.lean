import CanDriver.Session.Interleaving

namespace CanDriver.Interleaving

/-!
# One party at a time

* `CallerPhase.holds`, `WorkerPhase.holds`, `ReleasePhase.holds` — the phases that have the lock;
* `State.Holds`, `State.Exclusive` — who has the lock, and that it is who holds it;
* `Exclusive.keep`, `Exclusive.take`, `Exclusive.give` — what a step may do about the lock;
* `Exclusive.step` — it is so after every step, whoever takes it.
-/

/-! ### Phases -/

/-- The phases between `acquire` and `unlock`. -/
def CallerPhase.holds : CallerPhase → Bool
  | .holding => true
  | .leaving => true
  | _        => false

/-- The phases between `workerAcquire` and `workerUnlock`. -/
def WorkerPhase.holds : WorkerPhase → Bool
  | .entering  => true
  | .waiting   => true
  | .serving _ => true
  | .draining  => true
  | .leaving _ => true
  | _          => false

/-- The phases between `releaseAcquire` and `releaseUnlock`. -/
def ReleasePhase.holds : ReleasePhase → Bool
  | .holding => true
  | .leaving => true
  | _        => false

namespace State

variable {s t : State} {p q : Party}

/-- The party is in a phase in which it has the lock, by what it has done itself. -/
def Holds (s : State) : Party → Prop
  | .caller i => ∃ phase, s.caller? i = some phase ∧ phase.holds = true
  | .worker   => s.worker.holds = true
  | .release  => s.release.holds = true

/-- The field `lock` names every party that `Holds` it. -/
def Exclusive (s : State) : Prop := ∀ p, s.Holds p → s.lock = some p

/-- At the start no party `Holds` the lock. -/
theorem Exclusive.start (n : Nat) (session : Session) (host : Host) :
    (State.start n session host).Exclusive := by
  intro p hp
  cases p with
  | caller i =>
    obtain ⟨phase, found, has⟩ := hp
    have idle : phase = .idle := (List.mem_replicate.mp (List.mem_of_getElem? found)).2
    subst idle
    cases has
  | worker  => cases hp
  | release => cases hp

/-- Under `Exclusive` at most one party `Holds` the lock, since the field names one. -/
theorem Exclusive.unique (exclusive : s.Exclusive) (hp : s.Holds p) (hq : s.Holds q) : p = q :=
  Option.some.inj ((exclusive p hp).symm.trans (exclusive q hq))

/-- While the field names somebody else or nobody, the worker does not hold the lock. -/
theorem Exclusive.worker_out (exclusive : s.Exclusive) (other : s.lock ≠ some .worker) :
    s.worker.holds = false := by
  apply Bool.eq_false_iff.mpr
  intro has
  exact other (exclusive .worker has)

/-- `Exclusive` is kept where the field stays and nobody begins to hold the lock. -/
theorem Exclusive.keep (exclusive : s.Exclusive) (same : t.lock = s.lock)
    (fewer : ∀ q, t.Holds q → s.Holds q) : t.Exclusive := by
  intro q hq
  rw [same]
  exact exclusive q (fewer q hq)

/-- `Exclusive` is kept where the lock was free and the field names who takes it. -/
theorem Exclusive.take (exclusive : s.Exclusive) (free : s.lock = none) (taken : t.lock = some p)
    (others : ∀ q, t.Holds q → q = p ∨ s.Holds q) : t.Exclusive := by
  intro q hq
  rcases others q hq with rfl | before
  · exact taken
  · have held := exclusive q before
    rw [free] at held
    cases held

/-- `Exclusive` is kept where the only holder stops to hold the lock, whatever the field
    says then. -/
theorem Exclusive.give (exclusive : s.Exclusive) (held : s.Holds p)
    (others : ∀ q, t.Holds q → q ≠ p ∧ s.Holds q) : t.Exclusive := by
  intro q hq
  obtain ⟨other, before⟩ := others q hq
  exact absurd (exclusive.unique before held) other

/-! ### Callers that move -/

/-- `move i` changes the phase of caller `i` and of no other. -/
theorem caller?_move {i j : Nat} {phase phase' : CallerPhase}
    (h : (s.move i phase).caller? j = some phase') :
    (j = i ∧ phase' = phase) ∨ (j ≠ i ∧ s.caller? j = some phase') := by
  unfold move caller? at h
  rw [List.getElem?_set] at h
  -- Setting a phase beyond the last caller has no effect.
  by_cases same : i = j
  · subst same
    rw [if_pos rfl] at h
    split at h
    · exact .inl ⟨rfl, (Option.some.inj h).symm⟩
    · cases h
  · rw [if_neg same] at h
    exact .inr ⟨Ne.symm same, h⟩

/-- Where a caller moves, the other parties hold the lock just if they did before. -/
theorem holds_of_caller {i : Nat} {phase : CallerPhase}
    (callers : t.callers = (s.move i phase).callers) (worker : t.worker = s.worker)
    (release : t.release = s.release) (q : Party) (hq : t.Holds q) :
    (q = .caller i ∧ phase.holds = true) ∨ (q ≠ .caller i ∧ s.Holds q) := by
  cases q with
  | caller j =>
    obtain ⟨phase', found, holds⟩ := hq
    rw [caller?, callers] at found
    obtain ⟨rfl, rfl⟩ | ⟨other, before⟩ := caller?_move found
    · exact .inl ⟨rfl, holds⟩
    · exact .inr ⟨fun same => other (Party.caller.inj same), phase', before, holds⟩
  | worker =>
    rw [Holds, worker] at hq
    exact .inr ⟨nofun, hq⟩
  | release =>
    rw [Holds, release] at hq
    exact .inr ⟨nofun, hq⟩

/-- Where the worker moves, the other parties hold the lock just if they did before. -/
theorem holds_of_worker (callers : t.callers = s.callers) (release : t.release = s.release)
    (q : Party) (hq : t.Holds q) :
    (q = .worker ∧ t.worker.holds = true) ∨ (q ≠ .worker ∧ s.Holds q) := by
  cases q with
  | caller j =>
    obtain ⟨phase, found, holds⟩ := hq
    rw [caller?, callers] at found
    exact .inr ⟨nofun, phase, found, holds⟩
  | worker => exact .inl ⟨rfl, hq⟩
  | release =>
    rw [Holds, release] at hq
    exact .inr ⟨nofun, hq⟩

/-- Where the release moves, the other parties hold the lock just if they did before. -/
theorem holds_of_release (callers : t.callers = s.callers) (worker : t.worker = s.worker)
    (q : Party) (hq : t.Holds q) :
    (q = .release ∧ t.release.holds = true) ∨ (q ≠ .release ∧ s.Holds q) := by
  cases q with
  | caller j =>
    obtain ⟨phase, found, holds⟩ := hq
    rw [caller?, callers] at found
    exact .inr ⟨nofun, phase, found, holds⟩
  | worker =>
    rw [Holds, worker] at hq
    exact .inr ⟨nofun, hq⟩
  | release => exact .inl ⟨rfl, hq⟩

end State

/-! ### Steps -/

section Steps

variable {policy : ShutdownPolicy} {s t : State} {p : Party} {gets : Prop}

/-- `Exclusive.keep` for a step of the party `p`, which holds the lock afterwards only if it
    did before. -/
theorem State.Exclusive.move (exclusive : s.Exclusive) (same : t.lock = s.lock)
    (own : gets → s.Holds p) (others : ∀ q, t.Holds q → (q = p ∧ gets) ∨ (q ≠ p ∧ s.Holds q)) :
    t.Exclusive := by
  refine exclusive.keep same fun q hq => ?_
  rcases others q hq with ⟨rfl, got⟩ | ⟨-, before⟩
  · exact own got
  · exact before

/-- `Exclusive.take` for a step of the party `p`. -/
theorem State.Exclusive.acquire (exclusive : s.Exclusive) (free : s.lock = none)
    (taken : t.lock = some p) (others : ∀ q, t.Holds q → (q = p ∧ gets) ∨ (q ≠ p ∧ s.Holds q)) :
    t.Exclusive := by
  apply exclusive.take free taken
  intro q hq
  exact (others q hq).imp And.left And.right

/-- `Exclusive.give` for a step of the party `p`. -/
theorem State.Exclusive.unlock (exclusive : s.Exclusive) (held : s.Holds p) (loses : ¬ gets)
    (others : ∀ q, t.Holds q → (q = p ∧ gets) ∨ (q ≠ p ∧ s.Holds q)) : t.Exclusive := by
  apply exclusive.give held
  intro q hq
  exact (others q hq).resolve_left fun own => loses own.2

namespace State

theorem holds_caller {i : Nat} {phase : CallerPhase} (h : s.caller? i = some phase)
    (has : phase.holds = true) : s.Holds (.caller i) := ⟨phase, h, has⟩

theorem holds_worker {phase : WorkerPhase} (h : s.worker = phase) (has : phase.holds = true) :
    s.Holds .worker := by
  subst h
  exact has

theorem holds_release {phase : ReleasePhase} (h : s.release = phase) (has : phase.holds = true) :
    s.Holds .release := by
  subst h
  exact has

end State

open State

/-- **`Exclusive` is kept by every step**, one case for each constructor of `Step`. -/
theorem State.Exclusive.step (exclusive : s.Exclusive) (next : Step policy s t) : t.Exclusive := by
  cases next with
  -- Callers.
  | count _ => exact exclusive.move rfl nofun (holds_of_caller rfl rfl rfl)
  | wake _ => exact exclusive.move rfl nofun (holds_of_caller rfl rfl rfl)
  | acquire _ free _ => exact exclusive.acquire free rfl (holds_of_caller rfl rfl rfl)
  | use session host _ _ => exact exclusive.keep rfl fun _ hq => hq
  | uncount h =>
    exact exclusive.move rfl (fun _ => holds_caller h rfl) (holds_of_caller rfl rfl rfl)
  | unlock h => exact exclusive.unlock (holds_caller h rfl) nofun (holds_of_caller rfl rfl rfl)
  | refuse _ _ _ => exact exclusive.move rfl nofun (holds_of_caller rfl rfl rfl)
  | giveUp _ => exact exclusive.move rfl nofun (holds_of_caller rfl rfl rfl)
  -- The worker.
  | check _ =>
    refine exclusive.move rfl (fun got => ?_) (holds_of_worker rfl rfl)
    dsimp only at got
    split at got <;> cases got
  | workerAcquire _ free _ => exact exclusive.acquire free rfl (holds_of_worker rfl rfl)
  | workerRefused _ _ _ => exact exclusive.move rfl nofun (holds_of_worker rfl rfl)
  | enterWait h =>
    exact exclusive.move rfl (fun _ => holds_worker h rfl) (holds_of_worker rfl rfl)
  | leaveWait h _ =>
    exact exclusive.move rfl (fun _ => holds_worker h rfl) (holds_of_worker rfl rfl)
  | serve h _ => exact exclusive.move rfl (fun _ => holds_worker h rfl) (holds_of_worker rfl rfl)
  | drain h => exact exclusive.move rfl (fun _ => holds_worker h rfl) (holds_of_worker rfl rfl)
  | workerUnlock h =>
    refine exclusive.unlock (holds_worker h rfl) (fun got => ?_) (holds_of_worker rfl rfl)
    dsimp only at got
    split at got <;> cases got
  | look _ =>
    refine exclusive.move rfl (fun got => ?_) (holds_of_worker rfl rfl)
    dsimp only at got
    split at got <;> cases got
  | lookAgain _ =>
    refine exclusive.move rfl (fun got => ?_) (holds_of_worker rfl rfl)
    dsimp only at got
    split at got <;> cases got
  -- The release.
  | lower _ => exact exclusive.move rfl nofun (holds_of_release rfl rfl)
  | wakeToStop _ => exact exclusive.move rfl nofun (holds_of_release rfl rfl)
  | join _ _ => exact exclusive.move rfl nofun (holds_of_release rfl rfl)
  | releaseAcquire _ free _ => exact exclusive.acquire free rfl (holds_of_release rfl rfl)
  | releaseRefused _ _ _ => exact exclusive.move rfl nofun (holds_of_release rfl rfl)
  | clear h _ => exact exclusive.move rfl (fun _ => holds_release h rfl) (holds_of_release rfl rfl)
  | releaseUnlock h => exact exclusive.unlock (holds_release h rfl) nofun (holds_of_release rfl rfl)
  | arrive _ _ => exact exclusive.keep rfl fun _ hq => hq

end Steps

end CanDriver.Interleaving
