import CanDriver.Proofs.Sockets.Numbering

namespace CanDriver

/-!
# Who answers for a socket

* `Estate` — the sockets that a handle holds, and the threads that were let go with theirs;
* `Host.Holds e` — the open sockets are those of the estate, each once;
* `Host.Custody h h'` — a course from `h` to `h'` whose effects are booked (`Kernel.Booked`); between hosts
  that hold the same it closes what it opens;
* `Spec e m ok bad` — from a host that holds `e` a computation takes such a course, and leaves an
  estate as `ok` or `bad` say;
* `Steady e m P` — `Spec` where the estate stays as it is, and what is answered has `P`.

For each way to put computations together there is one rule.
-/

/-- The sockets `held` by an interface, and the detached workers with theirs. -/
structure Estate where
  held    : List Fd
  threads : List Thread

/-- All sockets of the estate. -/
def Estate.sockets (e : Estate) : List Fd := e.held ++ e.threads.flatMap Thread.sockets

namespace Host

/-- The open sockets of `h` are those of `e`, and so are its detached workers. -/
structure Holds (h : Host) (e : Estate) : Prop where
  sound   : h.kernel.Sound
  threads : h.kernel.detached = e.threads
  live    : h.kernel.openFds.Perm e.sockets

/-- The effects between `h` and `h'` are `Kernel.Booked`. -/
def Custody (h h' : Host) : Prop :=
  ∃ es : List Effect, h'.journal.toList = h.journal.toList ++ es ∧ h.kernel.Booked es h'.kernel

theorem Custody.refl (h : Host) : h.Custody h := ⟨[], by simp, .of_books rfl⟩

theorem Custody.trans {h h₁ h' : Host} (first : h.Custody h₁) (more : h₁.Custody h') :
    h.Custody h' := by
  obtain ⟨es, journal, booked⟩ := first
  obtain ⟨fs, journal', booked'⟩ := more
  refine ⟨es ++ fs, ?_, booked.append booked'⟩
  rw [journal', journal, List.append_assoc]

/-- The sockets of an estate that `h` holds are distinct. -/
theorem Holds.nodup {h : Host} {e : Estate} (holds : h.Holds e) : e.sockets.Nodup :=
  holds.live.nodup_iff.mp holds.sound.nodup

/-- A socket of the interface is open in a host that holds the estate. -/
theorem Holds.mem_open {h : Host} {e : Estate} (holds : h.Holds e) {fd : Fd} (hfd : fd ∈ e.held) :
    fd ∈ h.kernel.openFds :=
  holds.live.mem_iff.mpr (List.mem_append_left _ hfd)

/-- Two hosts that hold the same estate have the same `openFds`, in the same order. -/
theorem Holds.openFds_eq {h h' : Host} {e : Estate} (holds : h.Holds e) (holds' : h'.Holds e) :
    h'.kernel.openFds = h.kernel.openFds := by
  have same := holds'.live.trans holds.live.symm
  exact eq_of_perm_of_ascending same holds'.sound.ascending holds.sound.ascending

/-- The effects between two hosts that hold the same estate close what they open. -/
theorem Custody.opened_perm {h h' : Host} {e : Estate} (holds : h.Holds e) (holds' : h'.Holds e)
    (course : h.Custody h') :
    ∃ es, h'.journal.toList = h.journal.toList ++ es ∧ (Effect.opened es).Perm (Effect.closed es) := by
  obtain ⟨es, journal, booked⟩ := course
  have balance := booked.conserved holds.sound
  rw [holds.openFds_eq holds'] at balance
  exact ⟨es, journal, (List.perm_append_left_iff _).mp (balance.trans List.perm_append_comm)⟩

end Host

open Host

section Rules

variable {ε ε' α β : Type} {e e' : Estate} {m : HostM ε α} {f : α → HostM ε β}
  {ok : α → Estate → Prop} {ok' : β → Estate → Prop} {bad bad' : ε → Estate → Prop}

/-! ### Courses -/

/-- From a host that holds `e`, the way of `m` is `Custody`, and it ends in a host that holds an
    estate as `ok` or `bad` tell. -/
def Spec (e : Estate) (m : HostM ε α) (ok : α → Estate → Prop) (bad : ε → Estate → Prop) : Prop :=
  ∀ h, h.Holds e →
    match m h with
    | .ok a h'    => h.Custody h' ∧ ∃ e', h'.Holds e' ∧ ok a e'
    | .error f h' => h.Custody h' ∧ ∃ e', h'.Holds e' ∧ bad f e'

namespace Spec

theorem pure {a : α} (left : ok a e) : Spec e (pure a) ok bad := fun h holds =>
  ⟨.refl h, e, holds, left⟩

theorem throw {failure : ε} (left : bad failure e) : Spec e (throw failure : HostM ε α) ok bad :=
  fun h holds => ⟨.refl h, e, holds, left⟩

theorem bind (first : Spec e m ok bad) (more : ∀ a e', ok a e' → Spec e' (f a) ok' bad) :
    Spec e (m >>= f) ok' bad := by
  -- From host to host: an error of `m` ends both, and an answer is where `f` begins.
  intro h holds
  have one := first h holds
  cases run : m h with
  | error failure h' =>
    rw [run] at one
    rw [bind_error run]
    exact one
  | ok a h₁ =>
    rw [run] at one
    obtain ⟨course, e', holds', left⟩ := one
    have two := more a e' left h₁ holds'
    rw [bind_ok run]
    cases rest : f a h₁ with
    | ok b h'          =>
      rw [rest] at two
      exact ⟨course.trans two.1, two.2⟩
    | error failure h' =>
      rw [rest] at two
      exact ⟨course.trans two.1, two.2⟩

/-- `Spec` for a computation that throws first. -/
theorem throw_bind {failure : ε} (left : bad failure e) :
    Spec e ((MonadExcept.throw failure : HostM ε α) >>= f) ok' bad := by
  have fails : Spec e (MonadExcept.throw failure : HostM ε α) (fun _ _ => False) bad := throw left
  exact fails.bind fun _ _ never => never.elim

/-- `Spec` for wider `ok` and `bad`. -/
theorem mono {ok₂ : α → Estate → Prop} (course : Spec e m ok bad)
    (good : ∀ a e', ok a e' → ok₂ a e') (ill : ∀ f e', bad f e' → bad' f e') :
    Spec e m ok₂ bad' := by
  intro h holds
  have done := course h holds
  cases run : m h with
  | ok a h' =>
    rw [run] at done
    obtain ⟨path, e', holds', left⟩ := done
    exact ⟨path, e', holds', good a e' left⟩
  | error failure h' =>
    rw [run] at done
    obtain ⟨path, e', holds', left⟩ := done
    exact ⟨path, e', holds', ill failure e' left⟩

/-- `Spec` with the held sockets in another order: they are distinct, and `Holds` does not see
    their order. -/
theorem regroup {ok₂ : α → Estate → Prop} (course : Spec e m ok bad)
    (good : ∀ a e', ok a e' → e'.sockets.Nodup →
      ∃ held, e'.held.Perm held ∧ ok₂ a ⟨held, e'.threads⟩) : Spec e m ok₂ bad := by
  intro h holds
  have done := course h holds
  cases run : m h with
  | error failure h' =>
    rw [run] at done
    exact done
  | ok a h' =>
    rw [run] at done
    obtain ⟨path, e', holds', left⟩ := done
    obtain ⟨held, same, left'⟩ := good a e' left holds'.nodup
    exact ⟨path, ⟨held, e'.threads⟩,
      ⟨holds'.sound, holds'.threads, holds'.live.trans (same.append_right _)⟩, left'⟩

theorem orElse {handle : ε → HostM ε' α} {bad' : ε' → Estate → Prop} (call : Spec e m ok bad)
    (course : ∀ failure e', bad failure e' → Spec e' (handle failure) ok bad') :
    Spec e (Host.orElse m handle) ok bad' := by
  -- An error of `m` is where `handle` begins, in the estate that `m` has left.
  intro h holds
  have one := call h holds
  rw [Host.orElse]
  cases run : m h with
  | ok a h' =>
    rw [run] at one
    exact one
  | error failure h₁ =>
    rw [run] at one
    obtain ⟨path, e', holds', left⟩ := one
    have two := course failure e' left h₁ holds'
    simp only
    cases rest : handle failure h₁ with
    | ok b h'           =>
      rw [rest] at two
      exact ⟨path.trans two.1, two.2⟩
    | error failure' h' =>
      rw [rest] at two
      exact ⟨path.trans two.1, two.2⟩

theorem attempt {ok' : Except ε α → Estate → Prop} {bad' : ε' → Estate → Prop}
    (call : Spec e m ok bad) (good : ∀ a e', ok a e' → ok' (.ok a) e')
    (ill : ∀ f e', bad f e' → ok' (.error f) e') :
    Spec e (Host.attempt m : HostM ε' (Except ε α)) ok' bad' := by
  intro h holds
  have one := call h holds
  rw [Host.attempt]
  cases run : m h with
  | ok a h' =>
    rw [run] at one
    obtain ⟨path, e', holds', left⟩ := one
    exact ⟨path, e', holds', good a e' left⟩
  | error failure h' =>
    rw [run] at one
    obtain ⟨path, e', holds', left⟩ := one
    exact ⟨path, e', holds', ill failure e' left⟩

/-- `Spec` for `Host.attempt`, which answers a failure with the estate that is left then. -/
theorem tried {never : ε' → Estate → Prop} (call : Spec e m ok bad) :
    Spec e (Host.attempt m : HostM ε' (Except ε α))
      (fun r e' => (∃ a, r = .ok a ∧ ok a e') ∨ ∃ f, r = .error f ∧ bad f e') never :=
  call.attempt (fun a _ left => .inl ⟨a, rfl, left⟩) fun f _ left => .inr ⟨f, rfl, left⟩

end Spec

/-! ### Courses that leave the estate as it is -/

/-- `Spec` where the estate stays as it is. -/
def Steady (e : Estate) (m : HostM ε α) (P : α → Prop) : Prop :=
  Spec e m (fun a e' => e' = e ∧ P a) fun _ e' => e' = e

/-- The effect neither opens nor closes a socket, and uses only those of `fds`. -/
structure Effect.Plain (fds : List Fd) (what : Effect) : Prop where
  opens  : what.opened? = none
  closes : what.closed? = none
  used   : ∀ fd ∈ what.uses, fd ∈ fds

namespace Steady

variable {P : α → Prop} {Q : β → Prop}

theorem pure {a : α} (left : P a) : Steady e (pure a : HostM ε α) P := Spec.pure ⟨rfl, left⟩

theorem throw {failure : ε} : Steady e (throw failure : HostM ε α) P := Spec.throw rfl

theorem bind (first : Steady e m P) (more : ∀ a, P a → Steady e (f a) Q) :
    Steady e (m >>= f) Q := by
  refine Spec.bind first ?_
  rintro a _ ⟨rfl, left⟩
  exact more a left

/-- `Steady` for a computation that throws first. -/
theorem throw_bind {failure : ε} : Steady e ((MonadExcept.throw failure : HostM ε α) >>= f) Q :=
  Spec.throw_bind rfl

theorem mono {P' : α → Prop} (course : Steady e m P) (more : ∀ a, P a → P' a) : Steady e m P' :=
  Spec.mono course (fun a _ left => ⟨left.1, more a left.2⟩) fun _ _ left => left

theorem orElse {handle : ε → HostM ε' α} (call : Steady e m P)
    (course : ∀ failure, Steady e (handle failure) P) : Steady e (Host.orElse m handle) P := by
  refine Spec.orElse call ?_
  rintro failure _ rfl
  exact course failure

theorem attempt (call : Steady e m P) :
    Steady e (Host.attempt m : HostM ε' (Except ε α)) fun r => ∀ a, r = .ok a → P a := by
  refine Spec.attempt call ?_ ?_
  · rintro a _ ⟨rfl, left⟩
    exact ⟨rfl, fun _ same => Except.ok.inj same ▸ left⟩
  · rintro failure _ rfl
    exact ⟨rfl, fun _ same => nomatch same⟩

end Steady

/-! ### Single steps, which cannot fail -/

namespace Spec

/-- `Steady` for `Host.addAll` of `Plain` effects, whatever `bad` is. -/
theorem addAll {es : List Effect} (plain : ∀ what ∈ es, what.Plain e.held) :
    Spec e (Host.addAll es : HostM ε Unit) (fun _ e' => e' = e ∧ True) bad := by
  intro h holds
  have run : h.kernel.ledger.run es = some h.kernel.ledger := by
    refine Ledger.run_eq_self fun what member => ?_
    obtain ⟨opens, closes, used⟩ := plain what member
    exact Ledger.step_of_plain opens closes fun fd hfd => holds.mem_open (used fd hfd)
  have silent : Effect.opened es = [] :=
    List.filterMap_eq_nil_iff.mpr fun what member => (plain what member).opens
  exact ⟨⟨es, by simp, .of_still silent run⟩, e, ⟨holds.sound, holds.threads, holds.live⟩, rfl, trivial⟩

/-- `Steady` for `Host.add` of a `Plain` effect, whatever `bad` is. -/
theorem add {what : Effect} (plain : what.Plain e.held) :
    Spec e (Host.add what : HostM ε Unit) (fun _ e' => e' = e ∧ True) bad := by
  have same : (Host.add what : HostM ε Unit) = Host.addAll [what] := by
    funext h
    simp
  rw [same]
  refine addAll fun other member => ?_
  obtain rfl := List.mem_singleton.mp member
  exact plain

theorem log {level : Log.Level} {target : Log.Target} {text : String} :
    Spec e (Host.log level target text : HostM ε Unit) (fun _ e' => e' = e ∧ True) bad :=
  add ⟨rfl, rfl, fun _ hfd => absurd hfd List.not_mem_nil⟩

/-- `Steady` for `Host.ask`: the answer is that of a kernel with the same detached workers. -/
theorem ask {question : Kernel → α} :
    Spec e (Host.ask question : HostM ε α)
      (fun a e' => e' = e ∧ ∃ k : Kernel, question k = a ∧ k.detached = e.threads) bad :=
  fun h holds => ⟨.refl h, e, holds, rfl, h.kernel, rfl, holds.threads⟩

theorem called : Spec e (Host.called : HostM ε (List Callback)) (fun _ e' => e' = e ∧ True) bad :=
  fun h holds => ⟨.refl h, e, holds, rfl, trivial⟩

/-- `Steady` for a change of the kernel that leaves `Kernel.books` and the detached workers. -/
theorem modifyKernel {change : Kernel → Kernel} (books : ∀ k, (change k).books = k.books)
    (threads : ∀ k, (change k).detached = k.detached) :
    Spec e (Host.modifyKernel change : HostM ε Unit) (fun _ e' => e' = e ∧ True) bad := by
  intro h holds
  have live : (change h.kernel).openFds = h.kernel.openFds := congrArg Prod.fst (books _)
  refine ⟨⟨[], by simp, .of_books (books h.kernel)⟩, e, ⟨?_, ?_, ?_⟩, rfl, trivial⟩
  · exact holds.sound.of_books (books h.kernel)
  · exact (threads h.kernel).trans holds.threads
  · exact live.symm ▸ holds.live

theorem scripted {p : Point} :
    Spec e (Host.scripted p : HostM ε (Option Int)) (fun _ e' => e' = e ∧ True) bad :=
  fun h holds => ⟨⟨[], by simp, .of_books rfl⟩, e,
    ⟨holds.sound.of_books rfl, holds.threads, holds.live⟩, rfl, trivial⟩

theorem fault {p : Point} :
    Spec e (Host.fault p : HostM ε (Option Errno)) (fun _ e' => e' = e ∧ True) bad :=
  bind scripted fun _ _ left => pure left

/-- `Spec` for `m >>= f` where `m` leaves the estate as it is. -/
theorem after {P : α → Prop} (first : Spec e m (fun a e' => e' = e ∧ P a) bad)
    (more : ∀ a, P a → Spec e (f a) ok' bad) : Spec e (m >>= f) ok' bad := by
  refine bind first ?_
  rintro a _ ⟨rfl, left⟩
  exact more a left

/-- `Spec` for `Host.orElse m handle` where `m` leaves the estate as it is. -/
theorem stepOrElse {P : α → Prop} {handle : ε → HostM ε' α} {bad' : ε' → Estate → Prop}
    (call : Steady e m P) (good : ∀ a, P a → ok a e)
    (course : ∀ failure, Spec e (handle failure) ok bad') : Spec e (Host.orElse m handle) ok bad' := by
  refine orElse (Spec.mono call ?_ fun _ _ left => left) ?_
  · rintro a _ ⟨rfl, left⟩
    exact good a left
  · rintro failure _ rfl
    exact course failure

end Spec

end Rules

end CanDriver
