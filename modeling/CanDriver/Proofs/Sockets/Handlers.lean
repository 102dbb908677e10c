import CanDriver.Proofs.Sockets.Polling
import CanDriver.Session.Registration
import CanDriver.Session.Release

namespace CanDriver

/-!
# Handlers and their sockets

* `Registry.Distinct` — no socket and no handler is registered twice; every change keeps it;
* `Session.Coherent` — besides, every handler is bound to a socket that is waited for, and there is
  a worker unless the caller polls;
* `Session.Next` — what an operation makes of a session;
* `Session.registerRx_spec`, … — each operation on handlers or sockets leaves a coherent session
  that holds its sockets, or fails and leaves the estate as it was.
-/

/-! ### The registry -/

namespace Registry

variable {r r' : Registry} {fd : Fd}

/-- No socket, no receive handler and no error handler is registered twice. -/
structure Distinct (r : Registry) : Prop where
  sockets  : (r.rx.map (·.1)).Nodup
  handlers : (r.rx.map (·.2)).Nodup
  errors   : r.errors.Nodup

/-- Where `socketOf? x` is `some fd`, the entry `(fd, x)` is registered. -/
theorem mem_of_socketOf? {x : RxHandler} (h : r.socketOf? x = some fd) : (fd, x) ∈ r.rx := by
  obtain ⟨entry, found, rfl⟩ := Option.map_eq_some_iff.mp h
  have own : entry.2 = x := by simpa using List.find?_some found
  rw [← own]
  exact List.mem_of_find?_eq_some found

/-- Where `socketOf? x` is `none`, no entry has the handler `x`. -/
theorem not_mem_of_socketOf? {x : RxHandler} (h : r.socketOf? x = none) :
    x ∉ r.rx.map (·.2) := by
  intro there
  obtain ⟨entry, member, own⟩ := List.mem_map.mp there
  have missing := List.find?_eq_none.mp (Option.map_eq_none_iff.mp h) entry member
  exact missing (decide_eq_true own)

/-- Where `hasSocket fd` is `false`, no entry has the socket `fd`. -/
theorem not_mem_of_hasSocket (h : r.hasSocket fd = false) : fd ∉ r.rx.map (·.1) := by
  intro there
  obtain ⟨entry, member, own⟩ := List.mem_map.mp there
  have missing := List.any_eq_false.mp h entry member
  exact missing (decide_eq_true own)

/-- `addRx` that succeeds puts `(fd, x)` last, both of which are new. -/
theorem addRx_ok {x : RxHandler} (h : r.addRx fd x = .ok r') :
    r' = { r with rx := r.rx ++ [(fd, x)] } ∧ fd ∉ r.rx.map (·.1) ∧ x ∉ r.rx.map (·.2) := by
  unfold addRx at h
  split at h
  · cases h
  · next new =>
    rw [Bool.or_eq_true, not_or, Bool.not_eq_true, Bool.not_eq_true, Option.isSome_eq_false_iff,
      Option.isNone_iff_eq_none] at new
    exact ⟨(Except.ok.inj h).symm, not_mem_of_hasSocket new.2, not_mem_of_socketOf? new.1⟩

/-- `addRx` succeeds for a handler and a socket that are both new. -/
theorem addRx_of_new {x : RxHandler} (handler : r.socketOf? x = none)
    (socket : fd ∉ r.rx.map (·.1)) : r.addRx fd x = .ok { r with rx := r.rx ++ [(fd, x)] } := by
  have free : r.hasSocket fd = false := by
    refine List.any_eq_false.mpr fun entry member own => socket ?_
    exact List.mem_map.mpr ⟨entry, member, of_decide_eq_true own⟩
  rw [addRx, handler, free]
  rfl

/-- `addRx` keeps `Distinct`. -/
theorem Distinct.addRx (distinct : r.Distinct) {x : RxHandler} (h : r.addRx fd x = .ok r') :
    r'.Distinct := by
  obtain ⟨rfl, socket, handler⟩ := addRx_ok h
  refine ⟨?_, ?_, distinct.errors⟩
  · rw [List.map_append, List.map_singleton, ← List.concat_eq_append]
    exact distinct.sockets.concat socket
  · rw [List.map_append, List.map_singleton, ← List.concat_eq_append]
    exact distinct.handlers.concat handler

/-- `removeRx fd` removes all entries of `fd`: there is at most one. -/
theorem Distinct.removeRx_rx (distinct : r.Distinct) :
    (r.removeRx fd).rx = r.rx.filter (·.1 ≠ fd) := by
  -- `eraseP` stops at the first entry of `fd`, and the sockets are distinct.
  have erase (entries : List (Fd × RxHandler)) (once : (entries.map (·.1)).Nodup) :
      entries.eraseP (fun e => e.1 = fd) = entries.filter (·.1 ≠ fd) := by
    induction entries with
    | nil => rfl
    | cons entry entries ih =>
      rw [List.map_cons, List.nodup_cons] at once
      by_cases own : entry.1 = fd
      · have others : ∀ e ∈ entries, decide (e.1 ≠ fd) = true := by
          intro e member
          rw [decide_eq_true_iff, ← own]
          exact fun same => once.1 (same ▸ List.mem_map_of_mem member)
        rw [List.eraseP_cons_of_pos (by simpa using own), List.filter_cons_of_neg (by simpa using own),
          List.filter_eq_self.mpr others]
      · rw [List.eraseP_cons_of_neg (by simpa using own), List.filter_cons_of_pos (by simpa using own),
          ih once.2]
  exact erase r.rx distinct.sockets

/-- `removeRx` keeps `Distinct`. -/
theorem Distinct.removeRx (distinct : r.Distinct) : (r.removeRx fd).Distinct := by
  have part : (r.removeRx fd).rx.Sublist r.rx := List.eraseP_sublist
  exact ⟨distinct.sockets.sublist (part.map _), distinct.handlers.sublist (part.map _),
    distinct.errors⟩

theorem Distinct.addError (distinct : r.Distinct) {x : ErrorHandler} (h : r.addError x = .ok r') :
    r'.Distinct ∧ r'.rx = r.rx := by
  unfold Registry.addError at h
  split at h
  · cases h
  · next new =>
    obtain rfl := Except.ok.inj h
    refine ⟨⟨distinct.sockets, distinct.handlers, ?_⟩, rfl⟩
    rw [← List.concat_eq_append]
    exact distinct.errors.concat fun there => new (List.contains_iff_mem.mpr there)

theorem Distinct.removeError (distinct : r.Distinct) {x : ErrorHandler}
    (h : r.removeError x = .ok r') : r'.Distinct ∧ r'.rx = r.rx := by
  unfold Registry.removeError at h
  split at h
  · obtain rfl := Except.ok.inj h
    exact ⟨⟨distinct.sockets, distinct.handlers, distinct.errors.erase x⟩, rfl⟩
  · cases h

end Registry

/-! ### The wait-set -/

namespace WaitSet

/-- `insertSorted fd xs` has `fd` and the descriptors of `xs`, where `fd` is new. -/
theorem insertSorted_perm {fd : Fd} {xs : List Fd} (fresh : fd ∉ xs) :
    (insertSorted fd xs).Perm (fd :: xs) := by
  induction xs with
  | nil => exact .refl _
  | cons x xs ih =>
    obtain ⟨other, fresh⟩ := not_or.mp (mt List.mem_cons.mpr fresh)
    unfold insertSorted
    rw [if_neg other]
    split
    · exact .refl _
    · exact ((ih fresh).cons x).trans (.swap fd x xs)

/-- The receive sockets are `fd` and those of `remove fd`, where `fd` was among them. -/
theorem remove_perm {fd : Fd} {w : WaitSet} (member : fd ∈ w.rx) :
    w.rx.Perm (fd :: (w.remove fd).rx) := by
  rw [show (w.remove fd).rx = w.rx.erase fd from filter_ne_eq_erase w.nodup fd]
  exact List.perm_cons_erase member

end WaitSet

/-! ### Sessions -/

namespace Session

open Host

/-- The registry, the wait-set and the worker of a session fit together. -/
structure Coherent (s : Session) : Prop where
  distinct : s.registry.Distinct
  /-- The socket of every receive handler is in the wait-set. -/
  bound    : ∀ entry ∈ s.registry.rx, entry.1 ∈ s.waitSet.rx
  tx       : s.waitSet.tx = some s.tx
  /-- There is a worker unless the caller polls. -/
  worker   : s.worker.isSome = !s.config.polled

/-- The descriptors of the wait-set are the sockets of a coherent session. -/
theorem Coherent.mem_descriptors {s : Session} (coherent : s.Coherent) {fd : Fd} :
    fd ∈ s.waitSet.descriptors none ↔ fd ∈ s.sockets := by
  unfold WaitSet.descriptors sockets
  rw [coherent.tx]
  simp [or_comm]

/-- `s'` is coherent, with the name, the settings and the transmit socket of `s`. -/
structure Next (s s' : Session) : Prop where
  coherent : s'.Coherent
  name     : s'.name = s.name
  config   : s'.config = s.config
  tx       : s'.tx = s.tx

theorem Next.trans {s s₁ s' : Session} (first : s.Next s₁) (more : s₁.Next s') : s.Next s' :=
  ⟨more.coherent, more.name.trans first.name, more.config.trans first.config,
    more.tx.trans first.tx⟩

section Alike

variable {s s' : Session} (alike : s.Alike s')

include alike

theorem Alike.sockets : s'.sockets = s.sockets := by
  unfold Session.sockets
  rw [alike.tx, alike.waitSet]

theorem Alike.coherent (coherent : s.Coherent) : s'.Coherent where
  distinct := by
    rw [alike.registry]
    exact coherent.distinct
  bound    := by
    rw [alike.registry, alike.waitSet]
    exact coherent.bound
  tx       := by rw [alike.waitSet, alike.tx, coherent.tx]
  worker   := by rw [alike.worker, alike.config, coherent.worker]

theorem Alike.next (coherent : s.Coherent) : s.Next s' :=
  ⟨alike.coherent coherent, alike.name, alike.config, alike.tx⟩

end Alike

/-- The estate of a session: its sockets, and the detached workers `ts`. -/
def estate (s : Session) (ts : List Thread) : Estate := ⟨s.sockets, ts⟩

/-- The session with one more receive socket, whose buffer has `size` bytes. -/
def withSocket (fd : Fd) (size : Nat) (s : Session) : Session :=
  { s with rxBuffer := size, waitSet := s.waitSet.insert fd }

theorem withSocket_sockets (s : Session) {fd : Fd} (size : Nat) (fresh : fd ∉ s.waitSet.rx) :
    (s.withSocket fd size).sockets.Perm (fd :: s.sockets) :=
  ((WaitSet.insertSorted_perm fresh).cons s.tx).trans (.swap ..)

/-- `withSocket` keeps `Coherent`. -/
theorem Coherent.withSocket {s : Session} (coherent : s.Coherent) (fd : Fd) (size : Nat) :
    (s.withSocket fd size).Coherent where
  distinct := coherent.distinct
  bound    := fun entry member => WaitSet.mem_insertSorted.mpr (.inr (coherent.bound entry member))
  tx       := coherent.tx
  worker   := coherent.worker

section Operations

variable {s : Session} {ts : List Thread}

/-- `Session.addSocket` leaves `withSocket` with a new socket, or fails with the estate
    as it was. -/
theorem addSocket_spec {fs : List Filter} :
    Spec (s.estate ts) (s.addSocket fs)
      (fun r e => ∃ fd size, r = (s.withSocket fd size, fd) ∧ fd ∉ s.waitSet.rx ∧
        e = (s.withSocket fd size).estate ts)
      fun _ e => e = s.estate ts := by
  have opens : Spec (s.estate ts) (Setup.openRx s.name s.config s.index fs)
      (fun r e => r.fd ∉ s.waitSet.rx ∧ e = ⟨s.tx :: (s.waitSet.insert r.fd).rx, ts⟩)
      fun _ e => e = s.estate ts := by
    refine Setup.openRx_spec.regroup ?_
    rintro r _ rfl distinct
    have fresh : r.fd ∉ s.waitSet.rx := by
      intro there
      have among := List.mem_append_left (ts.flatMap Thread.sockets) (List.mem_cons_of_mem s.tx there)
      exact (List.nodup_cons.mp distinct).1 among
    exact ⟨_, (s.withSocket_sockets 0 fresh).symm, fresh, rfl⟩
  refine opens.bind ?_
  rintro r _ ⟨fresh, rfl⟩
  exact .pure ⟨r.fd, _, rfl, fresh, rfl⟩

variable (coherent : s.Coherent)

include coherent

/-- `Session.registerRx` leaves a session with `Next` and its estate, or fails with the estate
    as it was. -/
theorem registerRx_spec {x : RxHandler} {fs : List Filter} :
    Spec (s.estate ts) (s.registerRx x fs) (fun r e => s.Next r.1 ∧ e = r.1.estate ts)
      fun _ e => e = s.estate ts := by
  refine Spec.after lock_steady fun _ _ => ?_
  split
  · exact Spec.after .log fun _ _ => .throw_bind rfl
  · refine addSocket_spec.bind ?_
    rintro _ _ ⟨fd, size, rfl, fresh, rfl⟩
    simp only
    split
    · -- The socket goes again, and the wait-set with it is not kept.
      refine Spec.perm (s.withSocket_sockets size fresh) (Spec.closeSocket.bind ?_)
      rintro _ _ rfl
      exact Spec.throw rfl
    · next registry added =>
      refine Spec.after .log fun _ _ => .pure ⟨⟨⟨coherent.distinct.addRx added, ?_, coherent.tx,
        coherent.worker⟩, rfl, rfl, rfl⟩, rfl⟩
      obtain ⟨rfl, -, -⟩ := Registry.addRx_ok added
      intro entry member
      rcases List.mem_append.mp member with old | new
      · exact (coherent.withSocket fd size).bound entry old
      · rw [List.mem_singleton.mp new]
        exact WaitSet.mem_insertSorted.mpr (.inl rfl)

/-- `Session.openRx` leaves a session with `Next` and its estate, or fails with the estate
    as it was. -/
theorem openRx_spec {fs : List Filter} :
    Spec (s.estate ts) (s.openRx fs) (fun r e => s.Next r.1 ∧ e = r.1.estate ts)
      fun _ e => e = s.estate ts := by
  refine Spec.after lock_steady fun _ _ => addSocket_spec.bind ?_
  rintro _ _ ⟨fd, size, rfl, -, rfl⟩
  exact Spec.after .log fun _ _ => .pure ⟨⟨coherent.withSocket fd size, rfl, rfl, rfl⟩, rfl⟩

/-- A coherent session without the socket `fd` and its handler is coherent. -/
theorem Coherent.without (fd : Fd) :
    ({ s with registry := s.registry.removeRx fd, waitSet := s.waitSet.remove fd } :
      Session).Coherent where
  distinct := coherent.distinct.removeRx
  bound    := by
    intro entry member
    rw [coherent.distinct.removeRx_rx] at member
    obtain ⟨there, other⟩ := List.mem_filter.mp member
    exact List.mem_filter.mpr ⟨coherent.bound entry there, other⟩
  tx       := coherent.tx
  worker   := coherent.worker

/-- `Session.closeRx` leaves a session with `Next` and its estate: a descriptor that is no receive
    socket stays as it is. -/
theorem closeRx_spec {fd : Fd} :
    Spec (s.estate ts) (s.closeRx fd) (fun s' e => s.Next s' ∧ e = s'.estate ts)
      fun _ e => e = s.estate ts := by
  refine Spec.after lock_steady fun _ _ => ?_
  split
  · next own =>
    have apart := (WaitSet.remove_perm (List.contains_iff_mem.mp own)).cons s.tx
    refine Spec.perm (apart.trans (.swap ..)) (Spec.closeSocket.bind ?_)
    rintro _ _ rfl
    exact .pure ⟨⟨coherent.without fd, rfl, rfl, rfl⟩, rfl⟩
  · next foreign =>
    refine Spec.after .log fun _ _ => .pure ⟨⟨coherent.without fd, rfl, rfl, rfl⟩, ?_⟩
    have same : (s.waitSet.remove fd).rx = s.waitSet.rx := by
      refine List.filter_eq_self.mpr fun fd' there => decide_eq_true fun own => foreign ?_
      exact List.contains_iff_mem.mpr (own ▸ there)
    simp only [estate, sockets, same]

/-- `Session.unregisterRx` leaves a session with `Next` and its estate, or fails with the estate
    as it was. -/
theorem unregisterRx_spec {x : RxHandler} :
    Spec (s.estate ts) (s.unregisterRx x) (fun s' e => s.Next s' ∧ e = s'.estate ts)
      fun _ e => e = s.estate ts := by
  refine Spec.after lock_steady fun _ _ => ?_
  split
  · exact Spec.after .log fun _ _ => .throw rfl
  · next fd known =>
    have own : fd ∈ s.waitSet.rx := coherent.bound _ (Registry.mem_of_socketOf? known)
    have there : s.waitSet.hasRx fd = true := List.contains_iff_mem.mpr own
    simp only [there, if_true]
    have apart := (WaitSet.remove_perm own).cons s.tx
    refine Spec.perm (apart.trans (.swap ..)) (Spec.closeSocket.bind ?_)
    rintro _ _ rfl
    exact Spec.after .log fun _ _ => .pure ⟨⟨coherent.without fd, rfl, rfl, rfl⟩, rfl⟩

/-- `Session.registerError` leaves a session with `Next` and the same estate. -/
theorem registerError_spec {x : ErrorHandler} :
    Spec (s.estate ts) (s.registerError x) (fun s' e => s.Next s' ∧ e = s'.estate ts)
      fun _ e => e = s.estate ts := by
  refine Spec.after lock_steady fun _ _ => ?_
  split
  · next registry added =>
    obtain ⟨distinct, same⟩ := coherent.distinct.addError added
    exact .pure ⟨⟨⟨distinct, same.symm ▸ coherent.bound, coherent.tx, coherent.worker⟩, rfl, rfl, rfl⟩,
      rfl⟩
  · exact Spec.after .log fun _ _ => .throw rfl

/-- `Session.unregisterError` leaves a session with `Next` and the same estate. -/
theorem unregisterError_spec {x : ErrorHandler} :
    Spec (s.estate ts) (s.unregisterError x) (fun s' e => s.Next s' ∧ e = s'.estate ts)
      fun _ e => e = s.estate ts := by
  refine Spec.after lock_steady fun _ _ => ?_
  split
  · next registry removed =>
    obtain ⟨distinct, same⟩ := coherent.distinct.removeError removed
    exact .pure ⟨⟨⟨distinct, same.symm ▸ coherent.bound, coherent.tx, coherent.worker⟩, rfl, rfl, rfl⟩,
      rfl⟩
  · exact Spec.after .log fun _ _ => .throw rfl

end Operations

end Session

end CanDriver
