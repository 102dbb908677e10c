import CanDriver.Host.Call

namespace CanDriver

/-!
# The answers of a kernel

What a call is answered depends on the kernel, and not on what happened before.

* `Host.Blind` — a computation that does not look at what happened before;
* `Host.alone` — what a computation comes to with a kernel, by itself;
* `Blind.cases` — a blind computation comes to the same wherever it is done.
-/

namespace Host

variable {ε α β : Type}

/-- `m` does not look at the journal: it answers the same and adds the same effects, whatever the
    journal has. -/
def Blind (m : HostM ε α) : Prop := ∀ k j, m ⟨k, j⟩ =
  match m ⟨k, #[]⟩ with
  | .ok a h    => .ok a ⟨h.kernel, j ++ h.journal⟩
  | .error e h => .error e ⟨h.kernel, j ++ h.journal⟩

/-- What a computation comes to by itself: its answer, the kernel that it leaves, and its calls. -/
structure Alone (ε α : Type) where
  answer : Except ε α
  kernel : Kernel
  /-- The calls that it records. -/
  calls  : List KernelCall

/-- What `m` comes to with the kernel `k` and an empty journal. -/
def alone (m : HostM ε α) (k : Kernel) : Alone ε α :=
  match m ⟨k, #[]⟩ with
  | .ok a h    => ⟨.ok a, h.kernel, h.journal.calls⟩
  | .error e h => ⟨.error e, h.kernel, h.journal.calls⟩

namespace Blind

variable {m : HostM ε α} {f : α → HostM ε β}

theorem pure (a : α) : Blind (pure a : HostM ε α) := fun k j => by
  change EStateM.Result.ok a (⟨k, j⟩ : Host) = .ok a ⟨k, j ++ #[]⟩
  rw [Array.append_empty]

theorem throw (e : ε) : Blind (throw e : HostM ε α) := fun k j => by
  change EStateM.Result.error e (⟨k, j⟩ : Host) = .error e ⟨k, j ++ #[]⟩
  rw [Array.append_empty]

theorem throw_bind (e : ε) : Blind ((MonadExcept.throw e : HostM ε α) >>= f) := fun k j => by
  change EStateM.Result.error e (⟨k, j⟩ : Host) = .error e ⟨k, j ++ #[]⟩
  rw [Array.append_empty]

theorem bind (first : Blind m) (more : ∀ a, Blind (f a)) : Blind (m >>= f) := by
  intro k j
  have before := first k j
  cases course : m ⟨k, #[]⟩ with
  | error e h =>
    rw [course] at before
    rw [bind_error before, bind_error course]
  | ok a h =>
    rw [course] at before
    rw [bind_ok before, bind_ok course, more a h.kernel (j ++ h.journal), more a h.kernel h.journal]
    cases f a ⟨h.kernel, #[]⟩ <;> simp only [Array.append_assoc]

theorem add (e : Effect) : Blind (Host.add e : HostM ε Unit) := fun k j => by
  change EStateM.Result.ok () (⟨k, j.push e⟩ : Host) = .ok () ⟨k, j ++ #[e]⟩
  rw [Array.push_eq_append]

theorem modifyKernel (change : Kernel → Kernel) : Blind (Host.modifyKernel change : HostM ε Unit) :=
  fun k j => by
    change EStateM.Result.ok () (⟨change k, j⟩ : Host) = .ok () ⟨change k, j ++ #[]⟩
    rw [Array.append_empty]

theorem ask (question : Kernel → α) : Blind (Host.ask question : HostM ε α) := fun k j => by
  change EStateM.Result.ok (question k) (⟨k, j⟩ : Host) = .ok (question k) ⟨k, j ++ #[]⟩
  rw [Array.append_empty]

theorem fault (p : Point) : Blind (Host.fault p : HostM ε (Option Errno)) := fun k j => by
  rw [fault_apply, fault_apply]
  simp only [Array.append_empty]

theorem failWith (e? : Option Errno) : Blind (Host.failWith e?) := by
  cases e? with
  | none   => exact pure ()
  | some e => exact throw e

theorem scripted (p : Point) : Blind (Host.scripted p : HostM ε (Option Int)) := fun k j => by
  change EStateM.Result.ok _ (⟨_, j⟩ : Host) = .ok _ ⟨_, j ++ #[]⟩
  rw [Array.append_empty]

/-- `Blind` for a call that is recorded, and what follows it. -/
theorem call {p : Point} {c : Option Errno → KernelCall} {rest : Option Errno → HostM Errno α}
    (more : ∀ e?, Blind (rest e?)) : Blind (do let e? ← Host.fault p; record (c e?); rest e?) :=
  bind (fault p) fun e? => bind (add _) fun _ => more e?

theorem interfaceIndex (name : String) : Blind (Host.interfaceIndex name) := by
  unfold Host.interfaceIndex
  split
  · exact throw_bind _
  · refine call fun e? => bind (failWith _) fun _ => bind (ask _) fun link => ?_
    cases link with
    | none   => exact throw _
    | some _ => exact pure _

theorem linkMtu (fd : Fd) (name : String) : Blind (Host.linkMtu fd name) := by
  refine call fun e? => bind (failWith _) fun _ => bind (ask _) fun link => ?_
  cases link with
  | none   => exact throw _
  | some _ => exact pure _

theorem setOption (fd : Fd) (option : SocketOption) (value : OptionValue) :
    Blind (Host.setOption fd option value) :=
  call fun _ => bind (failWith _) fun _ => modifyKernel _

theorem getBuffer (fd : Fd) (role : SocketRole) : Blind (Host.getBuffer fd role) :=
  call fun _ => bind (failWith _) fun _ => ask _

theorem setNonblocking (fd : Fd) : Blind (Host.setNonblocking fd) := call fun _ => failWith _

theorem bindSocket (fd : Fd) (index : UInt32) : Blind (Host.bindSocket fd index) :=
  call fun _ => bind (failWith _) fun _ => modifyKernel _

theorem send (fd : Fd) (bytes : List UInt8) : Blind (Host.send fd bytes) := by
  refine call fun e? => bind (failWith _) fun _ => bind (scripted _) fun n? => ?_
  cases n? with
  | none   => exact pure _
  | some _ => exact pure _

/-- **A blind computation comes to `Host.alone` wherever it is done**, and adds its calls to
    the journal. -/
theorem cases (blind : Blind m) (h : Host) :
    ∃ h₁ : Host, h₁.kernel = (alone m h.kernel).kernel ∧
      h₁.journal.calls = h.journal.calls ++ (alone m h.kernel).calls ∧
      m h = match (alone m h.kernel).answer with
        | .ok a    => .ok a h₁
        | .error e => .error e h₁ := by
  have course := blind h.kernel h.journal
  have calls (g : Host) : Journal.calls (h.journal ++ g.journal) = h.journal.calls ++ g.journal.calls := by
    simp only [Journal.calls, Array.toList_append, List.filterMap_append]
  unfold alone
  cases there : m ⟨h.kernel, #[]⟩ with
  | ok a g =>
    rw [there] at course
    exact ⟨⟨g.kernel, h.journal ++ g.journal⟩, rfl, calls g, course⟩
  | error e g =>
    rw [there] at course
    exact ⟨⟨g.kernel, h.journal ++ g.journal⟩, rfl, calls g, course⟩

end Blind

end Host

end CanDriver
