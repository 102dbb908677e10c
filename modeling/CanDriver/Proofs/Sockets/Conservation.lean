import CanDriver.Proofs.Sockets.Steps
import Mathlib.Data.List.Induction

namespace CanDriver

/-!
# No socket is lost and none is used after it was closed

* `Scenario.history` — an interface is asked for, and then steps are taken in any order;
* `Scenario.Traced` — what is known of the host after a history;
* `sockets_conserved` — after every history the open sockets are those of the session and those that
  detached workers keep, each socket is closed once at most, those that are not closed are open, and
  none is used after it was closed.
-/

open Host Effect

/-- The host before the first call. -/
def Host.start (links : List NetworkLink) (faults : Faults) (traffic : List Item) : Host where
  kernel  := .start links faults traffic
  journal := #[]

/-- `Kernel.Sound` for `Host.start`, where nothing is open. -/
theorem Host.start_sound (links : List NetworkLink) (faults : Faults) (traffic : List Item) :
    (Host.start links faults traffic).kernel.Sound where
  ascending := .nil
  issued    := fun _ there => absurd there List.not_mem_nil
  positive  := show (0 : Int) ≤ Kernel.firstFd by decide

/-- A computation with `Spec` that cannot fail answers, and its way is `Host.Custody`. -/
theorem Spec.answers {α : Type} {e : Estate} {m : HostM Empty α} {ok : α → Estate → Prop}
    {bad : Empty → Estate → Prop} (spec : Spec e m ok bad) {h : Host} (holds : h.Holds e) :
    ∃ a h', m h = .ok a h' ∧ h.Custody h' ∧ ∃ e', h'.Holds e' ∧ ok a e' := by
  have done := spec h holds
  obtain ⟨a, h', run⟩ := exists_ok m h
  rw [run] at done
  exact ⟨a, h', run, done⟩

namespace Scenario

/-- The operations in order. -/
def steps : List Operation → Scenario → HostM Empty Scenario
  | [], x        => return x
  | op :: ops, x => do
    let (x, _) ← x.step op
    steps ops x

/-- `Interface.named`, and then `steps`. -/
def history (name : String) (link : Link) (ops : List Operation) : HostM Empty Scenario := do
  let i ← Interface.named name link
  steps ops (ofInterface i)

/-! ### From step to step -/

section Traces

variable {name : String} {link : Link} {first : Host} {ops : List Operation} {op : Operation}
  {x : Scenario} {h : Host}

/-- `steps` of `op :: ops` from the step of `op`. -/
theorem steps_cons {r : Scenario × Reply} {h₁ : Host}
    (run : (x.step op : HostM Empty (Scenario × Reply)) h = .ok r h₁) :
    steps (op :: ops) x h = steps ops r.1 h₁ := by
  rw [steps, bind_ok run]

/-- `steps` of `ops ++ more` from the steps of `ops`. -/
theorem steps_append {x₁ : Scenario} {h₁ : Host} (run : steps ops x h = .ok x₁ h₁)
    (more : List Operation) : steps (ops ++ more) x h = steps more x₁ h₁ := by
  induction ops generalizing x h with
  | nil =>
    obtain ⟨rfl, rfl⟩ := EStateM.Result.ok.inj run
    rfl
  | cons op ops ih =>
    obtain ⟨r, h₂, one⟩ := exists_ok (x.step op) h
    rw [steps_cons one] at run
    rw [List.cons_append, steps_cons one]
    exact ih run

/-- `history` of `ops ++ more` from that of `ops`. -/
theorem history_append {x₁ : Scenario} {h₁ : Host} (run : history name link ops h = .ok x₁ h₁)
    (more : List Operation) : history name link (ops ++ more) h = steps more x₁ h₁ := by
  obtain ⟨i, h₀, asked⟩ := exists_ok (Interface.named name link) h
  rw [history, bind_ok asked] at run ⊢
  exact steps_append run more

/-- What holds behind a history from the host `first`: how it came to `x` and `h`, that the session
    is coherent and its sockets are held, and where detached workers come from. -/
structure Traced (name : String) (link : Link) (first : Host) (ops : List Operation) (x : Scenario)
    (h : Host) : Prop where
  run      : history name link ops first = .ok x h
  coherent : x.Coherent
  holds    : h.Holds (x.estate h.kernel.detached)
  course   : first.Custody h
  /-- A detached worker has what remained of a session that an earlier operation released. -/
  threads  : ∀ t ∈ h.kernel.detached, ∃ before after x₀ h₀ s, ops = before ++ after ∧
    history name link before first = .ok x₀ h₀ ∧ x₀.session? = some s ∧
    s.config.shutdown = .detach ∧ t = ⟨s.name, s.remains⟩
  freed    : ops.getLast? = some (.request .free) → x.interface? = none

/-- `Scenario.step` keeps `Traced`. -/
theorem Traced.step (traced : Traced name link first ops x h) (op : Operation) :
    ∃ r h', (x.step op : HostM Empty (Scenario × Reply)) h = .ok r h' ∧ h.Custody h' ∧
      x.Goes h.kernel.detached op r h'.kernel.detached ∧
      Traced name link first (ops ++ [op]) r.1 h' := by
  obtain ⟨r, h', run, course, _, holds, ts', goes, rfl⟩ :=
    (step_spec traced.coherent op).answers traced.holds
  obtain rfl : h'.kernel.detached = ts' := holds.threads
  refine ⟨r, h', run, course, goes, ?_, goes.coherent, holds, traced.course.trans course, ?_, ?_⟩
  · rw [history_append traced.run, steps_cons run]
    rfl
  · intro t member
    -- It went on before, or it has just been let go.
    rcases goes.threads t member with old | ⟨s, found, policy, same⟩
    · obtain ⟨before, after, x₀, h₀, s, split, more⟩ := traced.threads t old
      refine ⟨before, after ++ [op], x₀, h₀, s, ?_, more⟩
      rw [split, List.append_assoc]
    · exact ⟨ops, [op], x, h, s, rfl, traced.run, found, policy, same⟩
  · intro last
    rw [List.getLast?_concat] at last
    exact goes.freed (Option.some.inj last)

/-- `Interface.named` leaves an interface without a session, in a host where nothing is open. -/
theorem exists_named (links : List NetworkLink) (faults : Faults) (traffic : List Item) (name : String)
    (link : Link) :
    ∃ i h, (Interface.named name link : HostM Empty Interface) (.start links faults traffic) =
        .ok i h ∧ (Host.start links faults traffic).Custody h ∧ (ofInterface i).session? = none ∧
      h.kernel.detached = [] ∧ h.Holds ((ofInterface i).estate h.kernel.detached) := by
  have holds : (Host.start links faults traffic).Holds ⟨[], []⟩ :=
    ⟨Host.start_sound links faults traffic, rfl, .nil⟩
  obtain ⟨i, h, run, course, _, after, gone, rfl⟩ := (Interface.named_spec name link).answers holds
  have alone : h.kernel.detached = [] := after.threads
  refine ⟨i, h, run, course, gone, alone, ?_⟩
  rw [estate_of_none (x := ofInterface i) gone, alone]
  exact after

/-- `Traced` for the history without operations. -/
theorem Traced.start (links : List NetworkLink) (faults : Faults) (traffic : List Item) :
    ∃ x h, Traced name link (.start links faults traffic) [] x h := by
  obtain ⟨i, h, run, course, gone, alone, held⟩ := exists_named links faults traffic name link
  refine ⟨ofInterface i, h, bind_ok run, coherent_of_none gone, held, course, ?_, nofun⟩
  intro t member
  rw [alone] at member
  cases member

/-- Every history is `Traced`. -/
theorem exists_traced (links : List NetworkLink) (faults : Faults) (traffic : List Item)
    (name : String) (link : Link) (ops : List Operation) :
    ∃ x h, Traced name link (.start links faults traffic) ops x h := by
  -- The last step is taken from a history that is known: the induction is on the end of the list.
  induction ops using List.reverseRecOn with
  | nil => exact Traced.start links faults traffic
  | append_singleton ops op ih =>
    obtain ⟨x, h, traced⟩ := ih
    obtain ⟨r, h', -, -, -, more⟩ := traced.step op
    exact ⟨r.1, h', more⟩

end Traces

/-! ### What it comes to -/

/-- The books on sockets: what the kernel has open, what the interface and the detached workers
    hold, and what the journal opened, closed and used. -/
structure Accounts (x : Scenario) (h : Host) : Prop where
  /-- Open are the sockets of the session and those of detached workers. -/
  live    : h.kernel.openFds.Perm (x.sockets ++ h.kernel.detached.flatMap Thread.sockets)
  /-- No descriptor is given out twice. -/
  once    : (opened h.journal.toList).Nodup
  /-- Each socket that was opened was closed, once, or is open. -/
  balance : (opened h.journal.toList).Perm (closed h.journal.toList ++ h.kernel.openFds)
  /-- What an effect uses was opened before, and not closed yet. -/
  used    : ∀ pre what post, h.journal.toList = pre ++ what :: post →
    ∀ fd ∈ what.uses, fd ∈ opened pre ∧ fd ∉ closed pre

/-- `Traced` from `Host.start` gives `Accounts`. -/
theorem Traced.accounts {name : String} {link : Link} {links : List NetworkLink} {faults : Faults}
    {traffic : List Item} {ops : List Operation} {x : Scenario} {h : Host}
    (traced : Traced name link (.start links faults traffic) ops x h) : x.Accounts h := by
  obtain ⟨es, journal, booked⟩ := traced.course
  have all : h.journal.toList = es := by
    rw [journal]
    rfl
  have sound := Host.start_sound links faults traffic
  refine ⟨traced.holds.live, ?_, ?_, ?_⟩
  · rw [all]
    exact booked.nodup_opened sound
  · rw [all]
    exact booked.conserved sound
  · intro pre what post here
    exact booked.used sound (all.symm.trans here)

end Scenario

/-- **Conservation of sockets.** After every history of an interface the open sockets are exactly
    those of its session, and those that detached workers keep: the transmit socket of a session
    that was released and, where its lock was poisoned, its receive sockets.  Every socket that was
    opened is closed once or still open, and none is used after it was closed.  Once the interface
    is gone and the workers have ended, every socket is closed. -/
theorem sockets_conserved (links : List NetworkLink) (faults : Faults) (traffic : List Item)
    (name : String) (link : Link) (ops : List Operation) :
    ∃ x h, Scenario.history name link ops (.start links faults traffic) = .ok x h ∧
      x.Accounts h ∧
      (∀ t ∈ h.kernel.detached, ∃ before after x₀ h₀ s, ops = before ++ after ∧
        Scenario.history name link before (.start links faults traffic) = .ok x₀ h₀ ∧
        x₀.session? = some s ∧ s.config.shutdown = .detach ∧ t = ⟨s.name, s.remains⟩) ∧
      (ops.getLast? = some (.request .free) → x.interface? = none) ∧
      (x.interface? = none → h.kernel.detached = [] → h.kernel.openFds = [] ∧
        (opened h.journal.toList).Perm (closed h.journal.toList)) := by
  obtain ⟨x, h, traced⟩ := Scenario.exists_traced links faults traffic name link ops
  have accounts := traced.accounts
  refine ⟨x, h, traced.run, accounts, traced.threads, traced.freed, fun gone alone => ?_⟩
  have nothing : h.kernel.openFds = [] := by
    have live := accounts.live
    rw [alone, Scenario.sockets, Scenario.session?, gone] at live
    exact live.eq_nil
  refine ⟨nothing, ?_⟩
  have balance := accounts.balance
  rwa [nothing, List.append_nil] at balance

end CanDriver
