import CanDriver.Journal

namespace CanDriver

/-!
# Delivering events

* `Event.notices` — what error handlers are told of an event, in order.  An error frame from a
  receive socket is told twice, before and after the count of dropped frames;
* `Registry.deliveries e` — the callbacks that an event makes when no handler panics;
* `Callback.panics made c` — whether `c` comes back, which may depend on how often its handler is among
  the callbacks `made` before;
* `Callback.untilPanic made cs` — the part of the callbacks `cs` that is made: up to the first that
  panics;
* `Callback.effects` — a callback and what it leaves in the log.
-/

/-- What error handlers are told of `e`: an error frame, then the count of dropped frames if it came
    with a receive, and the error frame once more if it did. -/
def Event.notices (e : Event) : List Notice :=
  let errors := if e.isError then [.errorFrame e.frame] else []
  let dropped := if e.dropped = 0 then [] else [.dropped e.dropped]
  errors ++ if e.isRx then dropped ++ errors else []

namespace Registry

/-- Tells every handler of `r.errors` the notice `n`, in order. -/
def announce (n : Notice) (r : Registry) : List Callback := r.errors.map (.notice · n)

/-- Hands the data frame of a receive event to `handlersFor` its origin; error frames and the
    transmit socket reach nobody. -/
def frameCalls (e : Event) (r : Registry) : List Callback :=
  if e.isRx ∧ ¬ e.isError then
    match e.origin with
    | some fd => (r.handlersFor fd).map (.frame · fd e.frame e.instant)
    | none    => []
  else []

/-- The callbacks that an event makes. -/
def deliveries (e : Event) (r : Registry) : List Callback :=
  e.notices.flatMap r.announce ++ r.frameCalls e

end Registry

namespace Callback

/-- Both callbacks call the same handler. -/
def sameHandler : Callback → Callback → Bool
  | .frame h .., .frame h' ..   => h == h'
  | .notice h _, .notice h' _   => h == h'
  | _, _                        => false

/-- How the handler of a callback behaves; loggers and administrators of a link return. -/
def conduct : Callback → Conduct
  | .frame h ..                     => h.conduct
  | .notice (.observer _ conduct) _ => conduct
  | _                               => .returns

/-- The callback `c` does not come back, where the callbacks `made` were made before: it is the
    `n`-th call of its handler, counted from zero, if `n` of those are calls of the same handler. -/
def panics (made : List Callback) (c : Callback) : Bool :=
  c.conduct.panicking (made.countP c.sameHandler)

/-- Some callback of `cs` does not come back, where all of them are made in order after `made`. -/
def anyPanics (made : List Callback) : List Callback → Bool
  | []      => false
  | c :: cs => c.panics made || anyPanics (made ++ [c]) cs

/-- The callbacks of `cs` up to the first that panics, that one included, after those
    `made` before. -/
def untilPanic (made : List Callback) : List Callback → List Callback
  | []      => []
  | c :: cs => if c.panics made then [c] else c :: untilPanic (made ++ [c]) cs

/-- What the log of an interface says of a notice. -/
def loggerText (label : String) (n : Notice) : String :=
  let code := Numeral.text n.code
  label ++ ": error: " ++ code ++ ", " ++ n.text

/-- What a callback leaves in the log: a trace of the frame, or `loggerText` by the loggers and
    `Notice.text` by the warner. -/
def records : Callback → List Log.Record
  | .frame _ origin f _ =>
    let fd := Numeral.intText origin
    [⟨.trace, .dispatch, "dispatch: fd " ++ fd ++ " -> " ++ f.text⟩]
  | .notice (.standard label) n => [⟨.error, .registry, loggerText label n⟩]
  | .notice (.logger label) n   => [⟨.error, .registry, loggerText label n⟩]
  | .notice .warner n           => [⟨.warn, .commandLine, n.text⟩]
  | .notice (.observer ..) _    => []
  | .link ..                    => []

/-- The callback `c`, behind the `records` that it leaves. -/
def effects (c : Callback) : List Effect := c.records.map .record ++ [.callback c]

/-- What comes of the callbacks `cs` after those `made` before: of each, up to the first
    that panics. -/
def effectsOf (made cs : List Callback) : List Effect := (untilPanic made cs).flatMap effects

section Made

variable {made cs ds : List Callback} {c : Callback}

@[simp] theorem untilPanic_nil : untilPanic made [] = [] := rfl

@[simp] theorem anyPanics_nil : anyPanics made [] = false := rfl

/-- `anyPanics` of two runs: the second comes after `made ++ cs`. -/
theorem anyPanics_append :
    anyPanics made (cs ++ ds) = (anyPanics made cs || anyPanics (made ++ cs) ds) := by
  induction cs generalizing made with
  | nil => simp
  | cons c cs ih => simp [anyPanics, ih, Bool.or_assoc]

/-- Handlers that always return never panic, whatever was called before. -/
theorem anyPanics_of_returns (returns : ∀ c ∈ cs, c.conduct = .returns) : anyPanics made cs = false := by
  induction cs generalizing made with
  | nil => rfl
  | cons c cs ih =>
    obtain ⟨first, others⟩ := List.forall_mem_cons.mp returns
    rw [anyPanics, panics, first, ih others]
    rfl

/-- `effects c` holds the callback `c` and no other. -/
@[simp] theorem callbacks_effects (c : Callback) :
    c.effects.filterMap Effect.callback? = [c] := by
  rw [effects, List.filterMap_append, Effect.callbacks_records]
  rfl

/-- `effectsOf made cs` holds the callbacks `untilPanic made cs`. -/
@[simp] theorem callbacks_effectsOf (made cs : List Callback) :
    (effectsOf made cs).filterMap Effect.callback? = untilPanic made cs := by
  rw [effectsOf, List.filterMap_flatMap]
  simp only [callbacks_effects, List.flatMap_singleton']

/-- Where no callback of `cs` panics, all of `cs` is made. -/
theorem untilPanic_eq_self (returns : anyPanics made cs = false) : untilPanic made cs = cs := by
  induction cs generalizing made with
  | nil => rfl
  | cons c cs ih =>
    obtain ⟨first, others⟩ := Bool.or_eq_false_iff.mp returns
    rw [untilPanic, first, ih others]
    rfl

/-- `untilPanic made cs` is part of `cs`. -/
theorem mem_of_untilPanic (h : c ∈ untilPanic made cs) : c ∈ cs := by
  induction cs generalizing made with
  | nil => exact h
  | cons d cs ih =>
    rw [untilPanic] at h
    split at h
    · exact List.mem_cons.mpr (.inl (List.mem_singleton.mp h))
    · rcases List.mem_cons.mp h with rfl | later
      · exact List.mem_cons_self
      · exact List.mem_cons_of_mem d (ih later)

/-- An effect of `effectsOf made cs` is a log record, or a callback of `cs`. -/
theorem mem_effectsOf {e : Effect} (h : e ∈ effectsOf made cs) :
    (∃ r, e = .record r) ∨ ∃ c ∈ cs, e = .callback c := by
  obtain ⟨c, part, h⟩ := List.mem_flatMap.mp h
  rcases List.mem_append.mp h with h | h
  · obtain ⟨r, -, rfl⟩ := List.mem_map.mp h
    exact .inl ⟨r, rfl⟩
  · exact .inr ⟨c, mem_of_untilPanic part, List.mem_singleton.mp h⟩

end Made

end Callback

end CanDriver
