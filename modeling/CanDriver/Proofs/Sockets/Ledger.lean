import CanDriver.Journal
import Mathlib.Data.List.Nodup
import Mathlib.Data.List.Perm.Basic

namespace CanDriver

/-!
# The ledger of sockets

Which sockets are open, read off the effects alone.  A descriptor may be given out again once its
socket is closed: of a socket that is opened it is only asked that its descriptor is not open.

* `Effect.uses` — the descriptors that an effect hands to the kernel;
* `Ledger` — the open sockets;
* `Ledger.step` — books an effect; there is no result where it uses a descriptor that is not open,
  or opens one that is;
* `Ledger.run` — books effects in order;
* `Ledger.conserved` — along booked effects, what was open or was opened is what was closed or is open;
* `Ledger.uses_open` — what an effect uses was opened once more often than it was closed before.
-/

/-! ### What effects do to sockets -/

/-- The descriptors that a call hands to the kernel; none for a call that makes one. -/
def KernelCall.uses : KernelCall → List Fd
  | .socket _           => []
  | .interfaceIndex ..  => []
  | .nonblocking fd _   => [fd]
  | .linkMtu fd ..      => [fd]
  | .setOption fd ..    => [fd]
  | .getOption fd ..    => [fd]
  | .bind fd ..         => [fd]
  | .send fd ..         => [fd]
  | .receive fd _       => [fd]
  | .wait fds ..        => fds
  | .close fd           => [fd]

namespace Effect

/-- The descriptors that an effect hands to the kernel. -/
def uses : Effect → List Fd
  | .call c      => c.uses
  | .watch fds _ => fds
  | _            => []

/-- The descriptor of a `socket` call that did not fail. -/
def opened? : Effect → Option Fd
  | .call (.socket (.ok fd)) => some fd
  | _                        => none

/-- The descriptor of a `close` call. -/
def closed? : Effect → Option Fd
  | .call (.close fd) => some fd
  | _                 => none

/-- The sockets that `es` open, in order. -/
def opened (es : List Effect) : List Fd := es.filterMap opened?

/-- The sockets that `es` close, in order. -/
def closed (es : List Effect) : List Fd := es.filterMap closed?

end Effect

open Effect

/-- In a list without duplicates, to filter `fd` out is to erase it. -/
theorem filter_ne_eq_erase {fds : List Fd} (once : fds.Nodup) (fd : Fd) :
    fds.filter (· ≠ fd) = fds.erase fd := by
  rw [once.erase_eq_filter]
  refine List.filter_congr fun fd' _ => ?_
  rw [bne, beq_eq_decide, decide_not]

/-- The open sockets, in the order in which they were opened. -/
structure Ledger where
  live : List Fd

namespace Ledger

/-- Books `e`. There is no result where it uses a descriptor that is not `live`, or opens
    one that is. -/
def step (l : Ledger) (e : Effect) : Option Ledger :=
  if ∀ fd ∈ e.uses, fd ∈ l.live then
    match e.opened?, e.closed? with
    | some fd, _    => if fd ∈ l.live then none else some ⟨l.live ++ [fd]⟩
    | none, some fd => some ⟨l.live.filter (· ≠ fd)⟩
    | none, none    => some l
  else none

/-- Books `es` in order. -/
def run (l : Ledger) : List Effect → Option Ledger
  | []      => some l
  | e :: es => (l.step e).bind (·.run es)

/-! ### Booking -/

section Booking

variable {l l' : Ledger} {e : Effect} {es fs : List Effect}

/-- `step` of an effect that neither opens nor closes leaves the ledger, where it uses `live`
    descriptors. -/
theorem step_of_plain (opens : e.opened? = none) (closes : e.closed? = none)
    (used : ∀ fd ∈ e.uses, fd ∈ l.live) : l.step e = some l := by
  rw [step, if_pos used, opens, closes]

/-- `step` of a `socket` call puts `fd` last, where it is not `live`. -/
theorem step_open {fd : Fd} (fresh : fd ∉ l.live) :
    l.step (.call (.socket (.ok fd))) = some ⟨l.live ++ [fd]⟩ := by
  simp [step, opened?, uses, KernelCall.uses, fresh]

/-- `step` of a `close` call takes `fd` out, where it is `live`. -/
theorem step_close {fd : Fd} (live : fd ∈ l.live) :
    l.step (.call (.close fd)) = some ⟨l.live.filter (· ≠ fd)⟩ := by
  have used : ∀ fd' ∈ (Effect.call (.close fd)).uses, fd' ∈ l.live := by
    intro fd' h
    obtain rfl := List.mem_singleton.mp h
    exact live
  rw [step, if_pos used]
  rfl

/-- What an effect uses that is booked is `live`. -/
theorem uses_of_step (h : l.step e = some l') : ∀ fd ∈ e.uses, fd ∈ l.live := by
  by_contra unused
  rw [step, if_neg unused] at h
  cases h

/-- The three ways to be booked: the ledger stays, or gains a descriptor that was not `live`, or
    loses one that was. -/
theorem step_cases (h : l.step e = some l') :
    (e.opened? = none ∧ e.closed? = none ∧ l' = l) ∨
    (∃ fd ∉ l.live, e.opened? = some fd ∧ e.closed? = none ∧ l' = ⟨l.live ++ [fd]⟩) ∨
    (∃ fd ∈ l.live, e.opened? = none ∧ e.closed? = some fd ∧ l' = ⟨l.live.filter (· ≠ fd)⟩) := by
  have used := uses_of_step h
  rw [step, if_pos used] at h
  split at h
  · next fd opens =>
    split at h
    · cases h
    · next fresh =>
      -- No effect opens one socket and closes another.
      have closes : e.closed? = none := by
        unfold opened? at opens
        split at opens
        · rfl
        · cases opens
      exact .inr (.inl ⟨fd, fresh, opens, closes, (Option.some.inj h).symm⟩)
  · next fd opens closes =>
    have live : fd ∈ l.live := by
      refine used fd ?_
      unfold closed? at closes
      split at closes
      · obtain rfl := Option.some.inj closes
        exact List.mem_singleton_self _
      · cases closes
    exact .inr (.inr ⟨fd, live, opens, closes, (Option.some.inj h).symm⟩)
  · next opens closes => exact .inl ⟨opens, closes, (Option.some.inj h).symm⟩

@[simp] theorem run_nil : l.run [] = some l := rfl

theorem run_append : l.run (es ++ fs) = (l.run es).bind (·.run fs) := by
  induction es generalizing l with
  | nil => rfl
  | cons e es ih =>
    rw [List.cons_append, run, run]
    cases l.step e with
    | none    => rfl
    | some l₁ => exact ih

/-- `run` leaves the ledger where each `step` does. -/
theorem run_eq_self (h : ∀ e ∈ es, l.step e = some l) : l.run es = some l := by
  induction es with
  | nil => rfl
  | cons e es ih =>
    rw [run, h e List.mem_cons_self]
    exact ih fun e' he' => h e' (List.mem_cons_of_mem _ he')

/-- `step` keeps `live` without duplicates. -/
theorem nodup_of_step (once : l.live.Nodup) (h : l.step e = some l') : l'.live.Nodup := by
  obtain ⟨-, -, rfl⟩ | ⟨fd, fresh, -, -, rfl⟩ | ⟨fd, -, -, -, rfl⟩ := step_cases h
  · exact once
  · refine List.nodup_append.mpr ⟨once, List.nodup_singleton fd, ?_⟩
    intro fd' live fd'' new same
    obtain rfl := List.mem_singleton.mp new
    exact fresh (same ▸ live)
  · exact once.filter _

/-- `run` keeps `live` without duplicates. -/
theorem nodup_of_run (once : l.live.Nodup) (h : l.run es = some l') : l'.live.Nodup := by
  induction es generalizing l with
  | nil =>
    obtain rfl := Option.some.inj h
    exact once
  | cons e es ih =>
    obtain ⟨l₁, first, more⟩ := Option.bind_eq_some_iff.mp h
    exact ih (nodup_of_step once first) more

end Booking

/-! ### Conservation -/

section Conservation

variable {l l' : Ledger} {e : Effect} {es : List Effect}

/-- **What was open or was opened was closed, once, or is open.**  In `opened es` and `closed es` a
    descriptor stands as often as it was given out and given back. -/
theorem conserved (once : l.live.Nodup) (h : l.run es = some l') :
    (l.live ++ opened es).Perm (closed es ++ l'.live) := by
  induction es generalizing l with
  | nil =>
    obtain rfl := Option.some.inj h
    rw [opened, closed, List.filterMap_nil, List.filterMap_nil, List.append_nil, List.nil_append]
  | cons e es ih =>
    obtain ⟨l₁, first, more⟩ := Option.bind_eq_some_iff.mp h
    have rest := ih (nodup_of_step once first) more
    obtain ⟨opens, closes, rfl⟩ | ⟨fd, -, opens, closes, rfl⟩ | ⟨fd, live, opens, closes, rfl⟩ :=
      step_cases first
    · rw [opened, closed, List.filterMap_cons_none opens, List.filterMap_cons_none closes]
      exact rest
    · rw [opened, closed, List.filterMap_cons_some opens, List.filterMap_cons_none closes,
        List.append_cons]
      exact rest
    · rw [opened, closed, List.filterMap_cons_none opens, List.filterMap_cons_some closes]
      -- What is closed now was open, once.
      have split : l.live.Perm (fd :: l.live.filter (· ≠ fd)) := by
        rw [filter_ne_eq_erase once]
        exact List.perm_cons_erase live
      exact (split.append_right _).trans (rest.cons fd)

/-- **What an effect uses is open.** Before it, the descriptor was opened once more often than it
    was closed. -/
theorem uses_open (once : l.live.Nodup) (h : l.run es = some l') {pre post : List Effect}
    (here : es = pre ++ e :: post) {fd : Fd} (used : fd ∈ e.uses) :
    (l.live ++ opened pre).count fd = (closed pre).count fd + 1 := by
  rw [here, run_append] at h
  obtain ⟨l₁, before, after⟩ := Option.bind_eq_some_iff.mp h
  obtain ⟨l₂, now, -⟩ := Option.bind_eq_some_iff.mp after
  have live : fd ∈ l₁.live := uses_of_step now fd used
  rw [(conserved once before).count_eq, List.count_append,
    List.count_eq_one_of_mem (nodup_of_run once before) live]

end Conservation

end Ledger

end CanDriver
