import CanDriver.Failure
import CanDriver.Journal
import CanDriver.Kernel.Basic

namespace CanDriver

/-!
# The host

Operations act on a host: the kernel and the journal of what happened.

* `Host`, `HostM ε` — the state, and computations on it that may fail with `ε`;
* `Host.add` — one more effect; `Host.log`, `Host.record` — a log record, a kernel call;
* `Host.ask`, `Host.called` — what the kernel says, and which callbacks were made so far;
* `Host.fault` — the next failure scripted for a call;
* `Host.observe` — runs a computation that cannot fail and shows what it did.
-/

/-- The state that operations act on: the kernel, and the journal of what they did to it. -/
structure Host where
  kernel  : Kernel
  journal : Journal

/-- A computation on the host that may fail with `ε`. The state survives a failure, so what was done
    before stays done. -/
abbrev HostM (ε : Type) := EStateM ε Host

namespace Host

variable {ε : Type}

/-- Appends one effect to the journal. -/
def add (e : Effect) : HostM ε Unit :=
  modify fun h => { h with journal := h.journal.push e }

/-- Appends the effects in order. -/
def addAll (es : List Effect) : HostM ε Unit :=
  modify fun h => { h with journal := h.journal ++ es }

/-- Journals a kernel call; the effect of the call on the kernel is a separate step. -/
def record (c : KernelCall) : HostM ε Unit := add (.call c)

/-- Journals a log record. -/
def log (level : Log.Level) (target : Log.Target) (text : String) : HostM ε Unit :=
  add (.record ⟨level, target, text⟩)

/-- Changes the kernel and leaves the journal alone. -/
def modifyKernel (change : Kernel → Kernel) : HostM ε Unit :=
  modify fun h => { h with kernel := change h.kernel }

/-- Reads something off the kernel. -/
def ask {α : Type} (question : Kernel → α) : HostM ε α :=
  return question (← get).kernel

/-- The callbacks in the journal so far. A handler may look at them, so whether its next call panics
    may depend on them. -/
def called : HostM ε (List Callback) := return (← get).journal.callbacks

/-- Takes the next outcome scripted for `p`, zeros included. -/
def scripted (p : Point) : HostM ε (Option Int) :=
  modifyGet fun h =>
    let (n?, rest) := h.kernel.faults.take p
    (n?, { h with kernel := { h.kernel with faults := rest } })

/-- `scripted`, where zero counts as no failure. -/
def fault (p : Point) : HostM ε (Option Errno) :=
  return (← scripted p).filter (· ≠ 0)

/-! ### Runs -/

section Runs

variable {σ α β : Type}

/-- `m >>= f` where `m` answers is `f` at that answer. With `bind_error` it evaluates a run step by
    step without unfolding the monad. -/
theorem bind_ok {m : EStateM ε σ α} {f : α → EStateM ε σ β} {a : α} {h h' : σ}
    (run : m h = .ok a h') : (m >>= f) h = f a h' := by
  change EStateM.bind m f h = _
  rw [EStateM.bind, run]

/-- `m >>= f` fails where `m` fails, and `f` is not run. -/
theorem bind_error {m : EStateM ε σ α} {f : α → EStateM ε σ β} {e : ε} {h h' : σ}
    (run : m h = .error e h') : (m >>= f) h = .error e h' := by
  change EStateM.bind m f h = _
  rw [EStateM.bind, run]

/-- Inversion: an answer of `m >>= f` comes from an answer of `m` and one of `f`. -/
theorem of_bind_ok {m : EStateM ε σ α} {f : α → EStateM ε σ β} {b : β} {h h' : σ}
    (run : (m >>= f) h = .ok b h') : ∃ a h₁, m h = .ok a h₁ ∧ f a h₁ = .ok b h' := by
  cases first : m h with
  | ok a h₁    => exact ⟨a, h₁, rfl, (bind_ok first).symm.trans run⟩
  | error e h₁ => exact nomatch (bind_error first).symm.trans run

/-- A computation with the empty type of failures always answers. -/
theorem exists_ok (m : HostM Empty α) (h : Host) : ∃ a h', m h = .ok a h' := by
  cases run : m h with
  | ok a h'       => exact ⟨a, h', rfl⟩
  | error never _ => exact never.elim

variable (h : Host)

@[simp] theorem pure_apply (a : α) : (pure a : HostM ε α) h = .ok a h := rfl

@[simp] theorem throw_apply (e : ε) : (throw e : HostM ε α) h = .error e h := rfl

@[simp] theorem add_apply (e : Effect) :
    (add e : HostM ε Unit) h = .ok () { h with journal := h.journal.push e } := rfl

@[simp] theorem addAll_apply (es : List Effect) :
    (addAll es : HostM ε Unit) h = .ok () { h with journal := h.journal ++ es } := rfl

@[simp] theorem modifyKernel_apply (change : Kernel → Kernel) :
    (modifyKernel change : HostM ε Unit) h = .ok () { h with kernel := change h.kernel } := rfl

@[simp] theorem ask_apply (question : Kernel → α) :
    (ask question : HostM ε α) h = .ok (question h.kernel) h := rfl

@[simp] theorem called_apply :
    (called : HostM ε (List Callback)) h = .ok h.journal.callbacks h := rfl

@[simp] theorem fault_apply (p : Point) :
    (fault p : HostM ε (Option Errno)) h =
      .ok ((h.kernel.faults.take p).1.filter (· ≠ 0))
        { h with kernel := { h.kernel with faults := (h.kernel.faults.take p).2 } } := rfl

end Runs

/-- Runs `action` with an empty journal, so that the journal it returns holds just what
    `action` did. -/
def observe {α : Type} (action : HostM Empty α) (k : Kernel) : α × Kernel × Journal :=
  match action ⟨k, #[]⟩ with
  | .ok a h    => (a, h.kernel, h.journal)
  | .error e _ => nomatch e

end Host

end CanDriver
