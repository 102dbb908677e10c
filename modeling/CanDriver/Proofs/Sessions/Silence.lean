import CanDriver.Proofs.Polling.Delivery
import CanDriver.Proofs.Sessions.Operations

namespace CanDriver

/-!
# Operations that call nobody

* `Effect.Silent` — the effect is no callback, neither to a handler nor to a link; `Effect.Idle` — it is
  silent, opens no socket and reads from none;
* `Session.registerRx_silent`, … — the handlers and receive sockets of a session;
* `Interface.transmit_idle`, `Session.endDetached_idle`, `Scenario.beside_idle` — sending, and what
  happens beside the session;
* `Scenario.perform_asksNoLink` — the link is asked by initialisation and at the end, and not between
  them.
-/

open Host Effect

/-- The effect is no callback, neither to a handler nor to a link. -/
def Effect.Silent (e : Effect) : Prop := e.callback? = none

/-- The effect is no callback, opens no socket and reads from none. -/
structure Effect.Idle (e : Effect) : Prop where
  silent : e.Silent
  opens  : e.opened? = none
  reads  : e.read? = none

/-- A `Silent` effect has `AsksNoLink`: a request to a link is a callback. -/
theorem Effect.Silent.asksNoLink {e : Effect} (silent : e.Silent) : e.AsksNoLink := by
  cases e with
  | callback c => cases silent
  | _          => rfl

/-- `Adds Silent` leaves `Journal.callbacks`. -/
theorem Host.Adds.callbacks {h h' : Host} (course : Adds Silent h h') :
    h'.journal.callbacks = h.journal.callbacks := by
  obtain ⟨es, way, silent⟩ := course
  rw [Journal.callbacks, way.journal, List.filterMap_append, List.filterMap_eq_nil_iff.mpr silent,
    List.append_nil]
  rfl

namespace Emits

variable {ε α : Type}

/-- `Emits Idle` is `Emits Silent`. -/
theorem silent {m : HostM ε α} (course : Emits Idle m) : Emits Silent m :=
  course.widen fun _ idle => idle.silent

theorem log_idle {level : Log.Level} {target : Log.Target} {text : String} :
    Emits Idle (Host.log level target text : HostM ε Unit) := line fun _ => ⟨rfl, rfl, rfl⟩

theorem closeSocket_idle {fd : Fd} : Emits Idle (Host.closeSocket fd : HostM ε Unit) :=
  Along.bind (modifyKernel fun _ => by rfl) fun _ => add ⟨rfl, rfl, rfl⟩

theorem closeAll_idle (fds : List Fd) : Emits Idle (fds.forM Host.closeSocket : HostM ε Unit) := by
  induction fds with
  | nil            => exact .pure
  | cons fd fds ih => exact closeSocket_idle.bind fun _ => ih

theorem log_silent {level : Log.Level} {target : Log.Target} {text : String} :
    Emits Silent (Host.log level target text : HostM ε Unit) := silent log_idle

theorem closeSocket_silent {fd : Fd} : Emits Silent (Host.closeSocket fd : HostM ε Unit) :=
  silent closeSocket_idle

end Emits

/-! ### Sessions -/

namespace Session

variable {ε : Type} {s : Session}

theorem lock_silent : Emits Silent s.lock := lock_lines fun _ => rfl

theorem registerRx_silent {x : RxHandler} {fs : List Filter} : Emits Silent (s.registerRx x fs) :=
  registerRx_emits (fun _ => rfl) fun _ _ => rfl

theorem openRx_silent {fs : List Filter} : Emits Silent (s.openRx fs) :=
  openRx_emits (fun _ => rfl) fun _ _ => rfl

theorem unregisterRx_silent {x : RxHandler} : Emits Silent (s.unregisterRx x) := by
  refine lock_silent.bind fun _ => ?_
  split
  · exact Emits.log_silent.bind fun _ => .throw
  · dsimp only
    split
    · exact Emits.closeSocket_silent.bind fun _ => Emits.log_silent.bind fun _ => .pure
    · exact Emits.log_silent.bind fun _ => .pure

theorem closeRx_silent {fd : Fd} : Emits Silent (s.closeRx fd) := by
  refine lock_silent.bind fun _ => ?_
  dsimp only
  split
  · exact Emits.closeSocket_silent.bind fun _ => .pure
  · exact Emits.log_silent.bind fun _ => .pure

theorem registerError_silent {x : ErrorHandler} : Emits Silent (s.registerError x) := by
  refine lock_silent.bind fun _ => ?_
  split
  · exact .pure
  · exact Emits.log_silent.bind fun _ => .throw

theorem unregisterError_silent {x : ErrorHandler} : Emits Silent (s.unregisterError x) := by
  refine lock_silent.bind fun _ => ?_
  split
  · exact .pure
  · exact Emits.log_silent.bind fun _ => .throw

theorem endDetached_idle {n : Nat} : Emits Idle (endDetached n : HostM ε Bool) := by
  refine Emits.ask.bind fun thread => ?_
  cases thread with
  | none   => exact .pure
  | some t =>
    exact Along.bind (Emits.modifyKernel fun _ => rfl) fun _ => Emits.log_idle.bind fun _ =>
      (Emits.closeAll_idle _).bind fun _ => .pure

end Session

/-! ### Beside the session -/

theorem Interface.transmit_idle {i : Interface} {f : Frame} : Emits Idle (i.transmit f) := by
  unfold transmit session
  cases i.session? with
  | none   => exact .throw_bind
  | some s =>
    have sends {fd : Fd} {bytes : List UInt8} : Emits Idle (send fd bytes) := by
      refine Setup.call_emits (fun _ => ⟨rfl, rfl, rfl⟩) fun _ => Emits.failWith.bind fun _ =>
        Emits.scripted.bind fun count => ?_
      cases count <;> exact .pure
    -- One `send` call, and a log record for each way that it can end.
    refine Along.pure.bind fun s => (sends.orElse fun e => ?_).bind fun written => ?_
    · split
      · exact .throw_bind
      · exact Emits.log_idle.bind fun _ => .throw
    · split
      · exact Emits.log_idle.bind fun _ => .throw_bind
      · exact Emits.log_idle

namespace Scenario

variable {ε : Type} {x : Scenario} {i : Interface} {event : Event}

theorem deliverAll_idle (items : List (Fd × Item)) :
    Emits Idle (deliverAll items : HostM ε Nat) := by
  induction items with
  | nil => exact .pure
  | cons entry items ih =>
    exact Emits.ask.bind fun _ => Along.bind (Emits.modifyKernel fun _ => by rfl) fun _ =>
      ih.bind fun _ => .pure

/-- `Scenario.perform` of an incident other than a tick is `Idle`. -/
theorem beside_idle {what : Incident} (other : what ≠ .tick) :
    Emits Idle (x.perform (.incident what) : HostM ε (Scenario × Reply)) := by
  cases what with
  | tick              => exact absurd rfl other
  | deliver items     => exact (deliverAll_idle items).bind fun _ => .pure
  | override fd value =>
    exact Along.bind (Emits.ask.bind fun _ => Along.bind (Emits.modifyKernel fun _ => by rfl) fun _ =>
      .pure) fun _ => .pure
  | script faults     => exact Along.bind (Emits.modifyKernel fun _ => by rfl) fun _ => .pure
  | workerEnds n      => exact Session.endDetached_idle.bind fun _ => .pure

/-- `Scenario.perform` of an incident other than a tick leaves the scenario as it is. -/
theorem beside_same {what : Incident} {r : Scenario × Reply} {h h' : Host} (other : what ≠ .tick)
    (run : (x.perform (.incident what) : HostM ε (Scenario × Reply)) h = .ok r h') : r.1 = x := by
  cases what with
  | tick => exact absurd rfl other
  | _    =>
    obtain ⟨_, _, -, done⟩ := of_bind_ok run
    rw [← (EStateM.Result.ok.inj done).1]

/-! ### Who asks the link -/

/-- **`Scenario.answer` asks no link**, unless the request is `.init`, `.free` or `.drop`. -/
theorem answer_asksNoLink {q : Request} (stays : (Operation.request q).staysOpen = true) :
    Emits AsksNoLink (answer event i q : HostM ε (Scenario × Reply)) := by
  have silent : ∀ e : Effect, e.Silent → e.AsksNoLink := fun _ silent => silent.asksNoLink
  -- Where a socket is opened, the worker is woken first.
  have opening {action : Session → HostM Failure (Session × Fd)}
      (course : ∀ s, Emits Silent (action s)) :
      Emits AsksNoLink (keep event (onSessionFd i action) : HostM ε (Scenario × Reply)) := by
    refine Along.bind ?_ fun _ => .pure
    unfold onSessionFd onSession
    cases i.session? with
    | none   => exact .pure
    | some s =>
      refine Session.wake_emits.asksNoLink.bind fun s₁ => Along.bind ?_ fun _ => .pure
      exact change_along (((course s₁).widen silent).bind fun _ => .pure)
  cases q with
  | init c          => cases stays
  | free            => cases stays
  | drop            => cases stays
  | registerRx x fs => exact opening fun _ => Session.registerRx_silent
  | openRx fs       => exact opening fun _ => Session.openRx_silent
  | _               => exact (answer_routine rfl fun _ _ => trivial).asksNoLink

/-- `Scenario.perform` asks no link, for every operation that leaves the session to go on. -/
theorem perform_asksNoLink {op : Operation} (stays : op.staysOpen = true) :
    Emits AsksNoLink (x.perform op : HostM ε (Scenario × Reply)) := by
  cases op with
  | incident what => exact (incident_emits what).asksNoLink
  | request q =>
    obtain ⟨_ | i, event⟩ := x
    · exact .pure
    · exact answer_asksNoLink stays

end Scenario

end CanDriver
