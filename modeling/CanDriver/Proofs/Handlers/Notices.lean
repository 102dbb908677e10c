import CanDriver.Proofs.Handlers.Roster
import CanDriver.Proofs.Polling.Delivery
import Mathlib.Data.List.Count

namespace CanDriver

/-!
# What handlers hear of an event

* `Roster.told` — a notice to every error handler; `Roster.handed` — a frame to the one handler of a
  socket;
* `Roster.calls e t` — the callbacks of an event, in order;
* `Roster.count_dropped`, `count_errorFrame` — how often an error handler hears of an event;
* `Roster.receivers_calls` — which receive handler is called;
* `Registry.Lists.deliveries` — delivering an event makes these callbacks;
* `dispatch_exact` — all of this after any changes of a new registry.
-/

open Registry (Change)

namespace Roster

variable {m : Roster} {e : Event} {t : Instant}

/-- The callbacks that tell every error handler of `n`, in order. -/
def told (n : Notice) (m : Roster) : List Callback := m.enrolled.map (.notice · n)

/-- The callback that hands the frame of `e` to the receive handler of its socket, if
    there is one. -/
def handed (e : Event) (t : Instant) (m : Roster) : List Callback :=
  match e.origin with
  | none    => []
  | some fd => (m.bound.symm fd).toList.map (.frame · fd e.frame t)

/-- The callbacks of an event that arrived at an instant. An error frame is told of, whatever socket
    it came from; what came from a receive socket is told of by its drop counter, and then once more
    or handed on. -/
def calls (e : Event) (t : Instant) (m : Roster) : List Callback :=
  (if e.isError then m.told (.errorFrame e.frame) else []) ++
    if e.isRx then
      (if e.dropped ≠ 0 then m.told (.dropped e.dropped) else []) ++
        if e.isError then m.told (.errorFrame e.frame) else m.handed e t
    else []

/-! ### Error handlers -/

/-- Among `told n` each error handler occurs once, with the notice `n` and no other. -/
theorem count_told {h : ErrorHandler} (there : h ∈ m.enrolled) (n n' : Notice) :
    (m.told n).count (.notice h n') = if n' = n then 1 else 0 := by
  split
  · next same =>
    subst same
    have injective : Function.Injective (Callback.notice · n') := fun _ _ eq => (Callback.notice.inj eq).1
    rw [told, List.count_map_of_injective _ _ injective, m.distinct.count, if_pos there]
  · next other =>
    rw [List.count_eq_zero]
    intro told
    obtain ⟨_, -, eq⟩ := List.mem_map.mp told
    exact other (Callback.notice.inj eq).2.symm

theorem count_handed (h : ErrorHandler) (n : Notice) : (m.handed e t).count (.notice h n) = 0 := by
  rw [List.count_eq_zero, handed]
  split
  · exact List.not_mem_nil
  · intro handed
    obtain ⟨_, -, eq⟩ := List.mem_map.mp handed
    exact nomatch eq

/-- An error handler hears of dropped frames once, for an event of a receive socket whose counter is
    not zero, and with that counter. -/
theorem count_dropped {h : ErrorHandler} (there : h ∈ m.enrolled) (n : UInt32) :
    (m.calls e t).count (.notice h (.dropped n)) =
      if e.isRx ∧ e.dropped ≠ 0 ∧ n = e.dropped then 1 else 0 := by
  have told (n' : Notice) := count_told there n' (.dropped n)
  unfold calls
  by_cases error : e.isError <;> by_cases rx : e.isRx <;> by_cases zero : e.dropped = 0 <;>
    simp [error, rx, zero, told, count_handed]

/-- An error handler hears of an error frame once, and once more if it came from a
    receive socket. -/
theorem count_errorFrame {h : ErrorHandler} (there : h ∈ m.enrolled) (f : Frame) :
    (m.calls e t).count (.notice h (.errorFrame f)) =
      if e.isError ∧ f = e.frame then if e.isRx then 2 else 1 else 0 := by
  have told (n' : Notice) := count_told there n' (.errorFrame f)
  have twice : (if f = e.frame then 1 else 0) + (if f = e.frame then 1 else 0) =
      if f = e.frame then 2 else 0 := by
    split <;> rfl
  unfold calls
  by_cases error : e.isError <;> by_cases rx : e.isRx <;> by_cases zero : e.dropped = 0 <;>
    simp [error, rx, zero, told, twice, count_handed]

end Roster

/-! ### Receive handlers -/

/-- The receive handler that is called; `none` for notices and requests. -/
def Callback.receiver? : Callback → Option RxHandler
  | .frame h .. => some h
  | _           => none

namespace Roster

variable {m : Roster} {e : Event} {t : Instant}

theorem receivers_told (n : Notice) : (m.told n).filterMap Callback.receiver? = [] := by
  rw [told, List.filterMap_map]
  exact List.filterMap_eq_nil_iff.mpr fun _ _ => rfl

theorem receivers_handed :
    (m.handed e t).filterMap Callback.receiver? = (e.origin.bind m.bound.symm).toList := by
  unfold handed
  cases e.origin with
  | none    => rfl
  | some fd =>
    rw [List.filterMap_map]
    exact List.filterMap_some

/-- `calls` calls at most one receive handler: that of the socket that a data frame came from. -/
theorem receivers_calls : (m.calls e t).filterMap Callback.receiver? =
    if e.isRx ∧ ¬ e.isError then (e.origin.bind m.bound.symm).toList else [] := by
  unfold calls
  by_cases error : e.isError <;> by_cases rx : e.isRx <;> by_cases zero : e.dropped = 0 <;>
    simp [error, rx, zero, receivers_told, receivers_handed]

/-- A receive handler is called with its own socket, and with the frame and the instant of
    the event. -/
theorem frame_of_mem_calls {h : RxHandler} {fd : Fd} {f : Frame} {t' : Instant}
    (made : .frame h fd f t' ∈ m.calls e t) :
    e.origin = some fd ∧ m.bound h = some fd ∧ f = e.frame ∧ t' = t := by
  have handed : .frame h fd f t' ∈ m.handed e t := by
    have told (n : Notice) : .frame h fd f t' ∉ m.told n := by simp [told]
    unfold calls at made
    grind
  rw [Roster.handed] at handed
  split at handed
  · exact absurd handed List.not_mem_nil
  · next origin =>
    obtain ⟨h', bound, eq⟩ := List.mem_map.mp handed
    obtain ⟨rfl, rfl, rfl, rfl⟩ := Callback.frame.inj eq
    exact ⟨origin, m.bound.eq_some_iff.mp (Option.mem_toList.mp bound), rfl, rfl⟩

end Roster

/-! ### Delivery -/

/-- `Registry.deliveries` are the `calls` of the roster that the registry lists. -/
theorem Registry.Lists.deliveries {r : Registry} {m : Roster} (lists : r.Lists m) (e : Event) :
    r.deliveries e = m.calls e e.instant := by
  have announce (n : Notice) : r.announce n = m.told n := by
    rw [Registry.announce, lists.errors, Roster.told]
  have frames : r.frameCalls e = if e.isRx ∧ ¬ e.isError then m.handed e e.instant else [] := by
    rw [Registry.frameCalls, Roster.handed]
    congr 1
    cases e.origin with
    | none    => rfl
    | some fd => exact congrArg (List.map _) (lists.handlersFor fd)
  rw [Registry.deliveries, frames]
  unfold Event.notices Roster.calls
  by_cases error : e.isError <;> by_cases rx : e.isRx <;> by_cases zero : e.dropped = 0 <;>
    simp [error, rx, zero, announce]

/-- **Exact notices.** After any changes of a new registry, and if no handler panics, delivering an
    event makes the callbacks of the roster with the exact instant of its time stamp. Each error
    handler hears of dropped frames and of an error frame as often as these say, and a data frame is
    handed to the handler of the socket that it came from and to no other. -/
theorem dispatch_exact {ε : Type} (cs : List Change) (quiet : (Registry.after cs).Returns) (e : Event) :
    let r := Registry.after cs
    let m := Roster.after cs
    ∃ t, e.instant? = some t ∧ t.nanos = e.timestamp.toNat ∧
    (∀ made, (Callback.effectsOf made (r.deliveries e)).filterMap Effect.callback? = m.calls e t) ∧
    (∀ h ∈ r.errors,
      (∀ n, (m.calls e t).count (.notice h (.dropped n)) =
        if e.isRx ∧ e.dropped ≠ 0 ∧ n = e.dropped then 1 else 0) ∧
      ∀ f, (m.calls e t).count (.notice h (.errorFrame f)) =
        if e.isError ∧ f = e.frame then if e.isRx then 2 else 1 else 0) ∧
    ((m.calls e t).filterMap Callback.receiver? =
      if e.isRx ∧ ¬ e.isError then (e.origin.bind m.bound.symm).toList else []) ∧
    (∀ h fd f t', .frame h fd f t' ∈ m.calls e t →
      e.origin = some fd ∧ r.socketOf? h = some fd ∧ f = e.frame ∧ t' = t) ∧
    ∀ (s : Session) (h : Host), s.registry = r → s.poisoned = false →
      ∃ h', (s.dispatch e : HostM ε (Session × Outcome)) h = .ok (s, .done) h' ∧
        h'.journal.callbacks = h.journal.callbacks ++ m.calls e t := by
  obtain ⟨-, lists⟩ := Registry.after_lists cs
  have deliveries := lists.deliveries e
  refine ⟨e.instant, e.instant?_eq, rfl, ?_, ?_, Roster.receivers_calls, ?_, ?_⟩
  · intro made
    rw [Callback.callbacks_effectsOf, Callback.untilPanic_eq_self (quiet.deliveries e made), deliveries]
  · rw [lists.errors]
    exact fun h there => ⟨Roster.count_dropped there, Roster.count_errorFrame there⟩
  · intro h fd f t' made
    rw [lists.socketOf?]
    exact Roster.frame_of_mem_calls made
  · intro s h same free
    rw [← deliveries, ← same]
    exact Session.dispatch_spec (same ▸ quiet) free e h

/-- A data frame from socket 101, with a count of dropped frames. -/
def Event.delayed : Event :=
  { Event.blank with timestamp := 1000000007, dropped := 3, origin := some 101, isRx := true }

/-- A logger and a warner are told of `Event.delayed` before the handler of its socket gets
    the frame. -/
theorem dispatch_exact_delayed :
    let cs := [.addError (.logger "can0"), .addRx 101 ⟨"monitor", .returns⟩, .addError .warner]
    (Registry.after cs).Returns ∧
    (Callback.effectsOf [] ((Registry.after cs).deliveries .delayed)).filterMap Effect.callback? =
      [.notice (.logger "can0") (.dropped 3), .notice .warner (.dropped 3),
        .frame ⟨"monitor", .returns⟩ 101 Frame.empty ⟨1000000007⟩] := by
  intro cs
  have quiet : (Registry.after cs).Returns := by
    refine ⟨by decide, fun name conduct there => ?_⟩
    have errors : (Registry.after cs).errors = [.logger "can0", .warner] := by decide
    rw [errors] at there
    simp at there
  obtain ⟨t, instant, -, made, -⟩ := @dispatch_exact Empty cs quiet .delayed
  obtain rfl : (⟨1000000007⟩ : Instant) = t := Option.some.inj instant
  exact ⟨quiet, made []⟩

end CanDriver
