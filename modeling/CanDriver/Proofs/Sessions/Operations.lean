import CanDriver.Proofs.Sessions.Initialisation

namespace CanDriver

/-!
# Operations that set up no socket

* `Session.poll_emits`, `Session.settle_emits`, … — polls, the worker and the handlers of a session;
* `Interface.startLink_emits`, … — the stages of an initialisation beside the transmit socket;
* `Scenario.answer_routine` — every request within a session; `Scenario.answer_emits` — every request
  but three;
* `Scenario.incident_emits`, `Scenario.settle_emits` — what happens beside the caller.
-/

open Host Effect

/-! ### Sessions -/

namespace Session

variable {ε : Type} {s : Session} {P : Waiter × Int → Prop}

/-- `Callback.effectsOf` is `Routine`, where the callbacks are. -/
theorem effectsOf_routine {made cs : List Callback} (calls : ∀ c ∈ cs, (Effect.callback c).Routine P) :
    ∀ what ∈ Callback.effectsOf made cs, what.Routine P := by
  intro what member
  obtain ⟨r, rfl⟩ | ⟨c, called, rfl⟩ := Callback.mem_effectsOf member
  · exact ⟨rfl, rfl, rfl, nofun⟩
  · exact calls c called

theorem locked_emits {action : HostM ε (Session × Outcome)} (course : Emits (Routine P) action) :
    Emits (Routine P) (s.locked action) := by
  refine lock_emits.attempt.bind fun taken => ?_
  cases taken with
  | ok _    => exact course
  | error f => exact .pure

theorem waitFor_emits {timeout : Option Duration} (asked : P (.caller, Duration.pollMillis timeout)) :
    Emits (Routine P) (s.waitFor timeout : HostM ε (Except Errno (List Fd))) := by
  have waits {fds : List Fd} : Emits (Routine P) (wait fds (Duration.pollMillis timeout)) := by
    refine Setup.call_emits (fun e? => ⟨rfl, rfl, rfl, ?_⟩) fun _ => Emits.failWith.bind fun _ =>
      Emits.ask.bind fun _ => Along.bind (Emits.modifyKernel fun _ => by rfl) fun _ => .pure
    rintro _ ⟨⟩
    exact asked
  exact waits.attempt

theorem poll_emits {timeout : Option Duration} (asked : P (.caller, Duration.pollMillis timeout)) :
    Emits (Routine P) (s.poll timeout : HostM ε (Session × Outcome)) :=
  locked_emits ((waitFor_emits asked).bind fun _ => afterWait_emits _)

theorem dispatch_emits {e : Event} : Emits (Routine P) (s.dispatch e : HostM ε (Session × Outcome)) := by
  have calls (made : List Callback) :
      ∀ what ∈ Callback.effectsOf made (s.registry.deliveries e), what.Routine P :=
    effectsOf_routine (s.registry.deliveries_routine e)
  refine locked_emits (Emits.called.bind fun made => (Emits.addAll (calls made)).bind fun _ => ?_)
  split <;> exact .pure

theorem readOne_emits {fd : Fd} :
    Emits (Routine P) (s.readOne fd : HostM ε (Session × Event × Except Failure Nat)) := by
  refine Emits.ask.bind fun item => ?_
  have reads : ∀ what ∈ (item.read s.config (s.roleOf fd) fd).1, what.Routine P := by
    intro what member
    obtain ⟨result, rfl⟩ | ⟨r, rfl⟩ := Item.mem_read member <;> exact ⟨rfl, rfl, rfl, nofun⟩
  generalize item.read s.config (s.roleOf fd) fd = reading at reads
  obtain ⟨effects, result⟩ := reading
  refine (Emits.addAll reads).bind fun _ => Along.bind (Emits.modifyKernel fun _ => rfl) fun _ => ?_
  cases result with
  | networkDown => exact Emits.log.bind fun _ => .pure
  | _           => exact .pure

/-- What `Session.pollOnce` does with the result of its wait. -/
def onceAfter (event : Event) (s : Session) :
    Except Errno (List Fd) → HostM ε (Session × Event × Except Failure Nat)
  | .ok []        => return (s, event.clear, .ok 0)
  | .ok (fd :: _) => s.readOne fd
  | .error e      => do
    if e = Errno.interrupted then return (s, event.clear, .ok 0)
    return (s, event.clear, .error (← s.waitError e))

theorem pollOnce_eq_onceAfter (timeout : Option Duration) (event : Event) (s : Session) :
    (s.pollOnce timeout event : HostM ε (Session × Event × Except Failure Nat)) = (do
      match ← attempt s.lock with
      | .error f => return (s, event, .error f)
      | .ok ()   => s.onceAfter event (← s.waitFor timeout)) := rfl

theorem onceAfter_emits {event : Event} (result : Except Errno (List Fd)) :
    Emits (Routine P) (s.onceAfter event result : HostM ε (Session × Event × Except Failure Nat)) := by
  rcases result with e | _ | ⟨fd, _⟩
  · unfold onceAfter
    dsimp only
    split
    · exact .pure
    · exact (Emits.log.bind fun _ => .pure).bind fun _ => .pure
  · exact .pure
  · exact readOne_emits

theorem pollOnce_emits {timeout : Option Duration} {event : Event}
    (asked : P (.caller, Duration.pollMillis timeout)) :
    Emits (Routine P) (s.pollOnce timeout event : HostM ε (Session × Event × Except Failure Nat)) := by
  rw [pollOnce_eq_onceAfter]
  refine lock_emits.attempt.bind fun taken => ?_
  cases taken with
  | error f => exact .pure
  | ok _    => exact (waitFor_emits asked).bind fun result => onceAfter_emits result

/-! ### The worker -/

theorem afterPoll_emits (outcome : Outcome) : Emits (Routine P) (s.afterPoll outcome : HostM ε Session) := by
  cases outcome with
  | failed f => exact Emits.log.bind fun _ => .pure
  | _        => exact .pure

theorem enterWait_emits {interval : Duration} (asked : P (.worker, interval.waitMillis)) :
    Emits (Routine P) (s.enterWait interval : HostM ε Session) := by
  refine lock_emits.attempt.bind fun taken => ?_
  cases taken with
  | ok _    =>
    refine Along.bind (Emits.add ⟨rfl, rfl, rfl, ?_⟩) fun _ => .pure
    rintro _ ⟨⟩
    exact asked
  | error f => exact Emits.log.bind fun _ => .pure

theorem turns_emits {interval : Duration} (asked : P (.worker, interval.waitMillis)) (n : Nat) :
    Emits (Routine P) (s.turns interval n : HostM ε Session) := by
  induction n generalizing s with
  | zero => exact .pure
  | succ n ih =>
    -- A turn is a wait of `interval` or a poll that waits no more, and then come the others.
    refine Emits.fault.bind fun pause => ?_
    split
    · exact .pure
    · split
      · exact (enterWait_emits asked).bind fun s₁ => ih
      · refine Emits.ask.bind fun reported => ?_
        split
        · refine workerPoll_emits.bind ?_
          rintro ⟨s₁, outcome⟩
          exact (afterPoll_emits outcome).bind fun s₂ => ih
        · exact .pure
      · exact .pure

theorem settle_emits {interval : Duration} (asked : P (.worker, interval.waitMillis)) :
    Emits (Routine P) (s.settle interval : HostM ε Session) :=
  Emits.ask.bind fun n => turns_emits asked n

theorem tick_emits : Emits (Routine P) (s.tick : HostM ε (Session × Bool)) := by
  unfold tick
  split
  · refine Emits.fault.bind fun failure => (afterWait_emits _).bind ?_
    rintro ⟨s₁, outcome⟩
    exact (afterPoll_emits outcome).bind fun s₂ => .pure
  · exact .pure

theorem endDetached_emits {n : Nat} : Emits (Routine P) (endDetached n : HostM ε Bool) := by
  refine Emits.ask.bind fun thread => ?_
  cases thread with
  | none   => exact .pure
  | some t =>
    exact Along.bind (Emits.modifyKernel fun _ => rfl) fun _ => Emits.log.bind fun _ =>
      (Emits.closeAll _).bind fun _ => .pure

/-! ### Handlers -/

section Opening

variable {Q : Effect → Prop} (lines : ∀ r, Q (.record r))
  (calls : ∀ c : KernelCall, (Effect.call c).wait? = none → Q (.call c))

include lines calls

theorem addSocket_emits {fs : List Filter} : Emits Q (s.addSocket fs) :=
  (Setup.openRx_emits lines calls).bind fun _ => .pure

theorem registerRx_emits {x : RxHandler} {fs : List Filter} : Emits Q (s.registerRx x fs) := by
  have closes {fd : Fd} : Emits Q (closeSocket fd : HostM Failure Unit) :=
    Along.bind (Emits.modifyKernel fun _ => by rfl) fun _ => Emits.add (calls _ rfl)
  refine (lock_lines lines).bind fun _ => ?_
  split
  · exact Along.bind (Emits.line lines) fun _ => .throw_bind
  · refine (addSocket_emits lines calls).bind ?_
    rintro ⟨s₁, fd⟩
    dsimp only
    split
    · exact closes.bind fun _ => .throw
    · exact Along.bind (Emits.line lines) fun _ => .pure

theorem openRx_emits {fs : List Filter} : Emits Q (s.openRx fs) := by
  refine (lock_lines lines).bind fun _ => (addSocket_emits lines calls).bind ?_
  rintro ⟨s₁, fd⟩
  exact Along.bind (Emits.line lines) fun _ => .pure

end Opening

theorem unregisterRx_emits {x : RxHandler} : Emits (Routine P) (s.unregisterRx x) := by
  refine lock_emits.bind fun _ => ?_
  split
  · exact Emits.log.bind fun _ => .throw
  · dsimp only
    split
    · exact Emits.closeSocket.bind fun _ => Emits.log.bind fun _ => .pure
    · exact Emits.log.bind fun _ => .pure

theorem closeRx_emits {fd : Fd} : Emits (Routine P) (s.closeRx fd) := by
  refine lock_emits.bind fun _ => ?_
  dsimp only
  split
  · exact Emits.closeSocket.bind fun _ => .pure
  · exact Emits.log.bind fun _ => .pure

theorem registerError_emits {x : ErrorHandler} : Emits (Routine P) (s.registerError x) := by
  refine lock_emits.bind fun _ => ?_
  split
  · exact .pure
  · exact Emits.log.bind fun _ => .throw

theorem unregisterError_emits {x : ErrorHandler} : Emits (Routine P) (s.unregisterError x) := by
  refine lock_emits.bind fun _ => ?_
  split
  · exact .pure
  · exact Emits.log.bind fun _ => .throw

end Session

/-! ### Interfaces -/

section Requests

variable {Q : Effect → Prop} (lines : ∀ r, Q (.record r))
  (asks : ∀ r name, Q (.callback (.link r name)))

include lines asks

theorem Link.ask_emits (link : Link) (name : String) (r : LinkRequest) : Emits Q (link.ask name r) := by
  have refused {what : String} {code : ErrorCode} : Emits Q (Link.refuse name what code) :=
    Along.bind (Emits.line lines) fun _ => .throw
  cases link with
  | recorder refusals =>
    refine Along.bind (Emits.add (asks r name)) fun _ => ?_
    split
    · exact .throw
    · exact .pure
  | external =>
    cases r with
    | start => exact Emits.line lines
    | stop  => exact .pure
    | _     => exact refused

theorem Link.askAll_emits (link : Link) (name : String) (rs : List LinkRequest) :
    Emits Q (link.askAll name rs) := by
  induction rs with
  | nil          => exact .pure
  | cons r rs ih => exact (link.ask_emits lines asks name r).bind fun _ => ih

/-- `Interface.startLink` emits requests to the link and log records. -/
theorem Interface.startLink_emits {i : Interface} {c : Config} : Emits Q (i.startLink c) := by
  unfold startLink
  split
  · exact Along.bind (Emits.line lines) fun _ =>
      (i.link.askAll_emits lines asks _ _).bind fun _ => i.link.ask_emits lines asks _ _
  · exact i.link.ask_emits lines asks _ _

end Requests

namespace Interface

variable {ε : Type} {i : Interface} {c : Config} {P : Waiter × Int → Prop}

theorem named_emits (name : String) (link : Link) :
    Emits Inert (named name link : HostM ε Interface) :=
  Along.bind (Emits.line fun _ => ⟨rfl, rfl⟩) fun _ => .pure

section Start

variable {Q : Effect → Prop} (lines : ∀ r, Q (.record r)) (ends : ∀ fd, Q (.call (.close fd)))

include lines ends

/-- A call for the worker that may fail, and then closes the transmit socket with
    `Interface.giveUp`. -/
theorem orElse_giveUp_emits {p : Point} {tx : Fd} {target : Log.Target} {text : String}
    {code : ErrorCode} :
    Emits Q (orElse (do failWith (← fault p)) (giveUp tx target text code)) := by
  have closes : Emits Q (closeSocket tx : HostM Failure Unit) :=
    Along.bind (Emits.modifyKernel fun _ => by rfl) fun _ => Emits.add (ends tx)
  exact (Emits.fault.bind fun _ => Emits.failWith).orElse fun _ =>
    Along.bind (Emits.line lines) fun _ => closes.bind fun _ => .throw

theorem allocateWorker_emits {tx : Fd} : Emits Q (i.allocateWorker c tx) := by
  unfold allocateWorker
  split
  · exact orElse_giveUp_emits lines ends
  · exact .pure

theorem startWorker_emits {s : Session} : Emits Q (i.startWorker c s) := by
  unfold startWorker
  split
  · exact .pure
  · exact (orElse_giveUp_emits lines ends).bind fun _ => Along.bind (Emits.line lines) fun _ => .pure

omit lines ends

/-- `Along R` for `Interface.start` from its four stages: the link, the transmit socket, the wake-up
    pipe and the thread. -/
theorem start_along {R : Host → Host → Prop} [IsPreorder Host R]
    (lines : ∀ text, Along R (log .info .interface text : HostM Empty Unit))
    (link : Along R (i.startLink c)) (socket : Along R (Setup.openTx i.name c))
    (pipe : ∀ tx, Along R (i.allocateWorker c tx)) (thread : ∀ s, Along R (i.startWorker c s)) :
    Along R (i.start c : HostM Empty (Interface × Except Failure Unit)) := by
  have opens : Along R (i.openSession c) :=
    link.bind fun _ => socket.bind fun _ => (pipe _).bind fun _ => .pure
  rw [start_eq]
  refine (lines _).bind fun _ => opens.attempt.bind fun opened => ?_
  cases opened with
  | error f => exact .pure
  | ok r    =>
    refine (thread _).attempt.bind fun started => ?_
    cases started with
    | error f => exact .pure
    | ok s    => exact (lines _).bind fun _ => .pure

include lines ends

/-- `Interface.start` emits `Q` from its transmit socket; the other stages emit requests to the
    link, log records and calls that are no part of a setup. -/
theorem start_emits (asks : ∀ r name, Q (.callback (.link r name)))
    (socket : Emits Q (Setup.openTx i.name c)) :
    Emits Q (i.start c : HostM Empty (Interface × Except Failure Unit)) :=
  start_along (fun _ => Emits.line lines) (startLink_emits lines asks) socket
    (fun _ => allocateWorker_emits lines ends) fun _ => startWorker_emits lines ends

end Start

theorem transmit_emits {f : Frame} : Emits (Routine P) (i.transmit f) := by
  unfold transmit session
  cases i.session? with
  | none   => exact .throw_bind
  | some s =>
    have sends {fd : Fd} {bytes : List UInt8} : Emits (Routine P) (send fd bytes) := by
      refine Setup.call_emits (fun _ => ⟨rfl, rfl, rfl, nofun⟩) fun _ => Emits.failWith.bind fun _ =>
        Emits.scripted.bind fun count => ?_
      cases count <;> exact .pure
    -- One `send` call, and a log record for each way that it can end.
    refine Along.pure.bind fun s => (sends.orElse fun e => ?_).bind fun written => ?_
    · split
      · exact .throw_bind
      · exact Emits.log.bind fun _ => .throw
    · split
      · exact Emits.log.bind fun _ => .throw_bind
      · exact Emits.log

/-- `Interface.shutdown` emits a request to the link; all its other effects are `Routine`. -/
theorem shutdown_emits {Q : Effect → Prop} (routine : ∀ e : Effect, e.Routine (fun _ => False) → Q e)
    (asks : ∀ r name, Q (.callback (.link r name))) :
    Emits Q (i.shutdown : HostM ε (Interface × Except Failure Unit)) := by
  have lines (r : Log.Record) : Q (.record r) := routine _ ⟨rfl, rfl, rfl, nofun⟩
  refine (release_emits.widen routine).bind ?_
  rintro ⟨i', wasThere⟩
  dsimp only
  split
  · exact .pure
  · refine (i'.link.ask_emits lines asks _ _).attempt.bind fun result => ?_
    cases result with
    | ok _    => exact .pure
    | error f => exact Along.bind (Emits.line lines) fun _ => .pure

end Interface

/-! ### Requests -/

/-- The request neither begins nor ends a session, and opens no socket. -/
def Request.within : Request → Bool
  | .init _        => false
  | .free          => false
  | .drop          => false
  | .registerRx .. => false
  | .openRx _      => false
  | _              => true

/-- The timeout of a request that is a poll; `none` for all others. -/
def Request.timeout? : Request → Option (Option Duration)
  | .pollOnce timeout => some timeout
  | .poll timeout     => some timeout
  | _                 => none

/-- The request may open a socket. -/
def Request.opensSocket : Request → Bool
  | .init _        => true
  | .registerRx .. => true
  | .openRx _      => true
  | _              => false

namespace Scenario

variable {ε : Type} {x : Scenario} {i : Interface} {event : Event} {P : Waiter × Int → Prop}

theorem keep_emits {action : HostM ε (Interface × Reply)} (course : Emits (Routine P) action) :
    Emits (Routine P) (keep event action) := course.bind fun _ => .pure

theorem change_along {R : Host → Host → Prop} [IsPreorder Host R] {s : Session}
    {action : HostM Failure (Session × Reply)} (course : Along R action) :
    Along R (change s action : HostM ε (Session × Reply)) := by
  refine course.attempt.bind fun result => ?_
  cases result <;> exact .pure

theorem onSession_emits {action : Session → HostM ε (Session × Reply)}
    (course : ∀ s, Emits (Routine P) (action s)) : Emits (Routine P) (onSession i action) := by
  unfold onSession
  cases i.session? with
  | none   => exact .pure
  | some s => exact Session.wake_emits.bind fun s₁ => (course s₁).bind fun _ => .pure

theorem onSessionUnit_emits {action : Session → HostM Failure Session}
    (course : ∀ s, Emits (Routine P) (action s)) :
    Emits (Routine P) (onSessionUnit i action : HostM ε (Interface × Reply)) :=
  onSession_emits fun s => change_along ((course s).bind fun _ => .pure)

theorem onSessionCalling_emits {action : Session → HostM ε (Session × Outcome)}
    (course : ∀ s, Emits (Routine P) (action s)) : Emits (Routine P) (onSessionCalling i action) :=
  onSession_emits fun s => (course s).bind fun _ => .pure

theorem pollOnce_emits {timeout : Option Duration} (asked : P (.caller, Duration.pollMillis timeout)) :
    Emits (Routine P) (pollOnce timeout event i : HostM ε (Scenario × Reply)) := by
  unfold pollOnce
  cases i.session? with
  | none   => exact .pure
  | some s =>
    refine Session.wake_emits.bind fun s₁ => (Session.pollOnce_emits asked).bind ?_
    rintro ⟨s₂, event', result⟩
    cases result <;> exact .pure

/-- `Scenario.answer` of a request with `Request.within` is `Routine P`, where `P` holds of a wait
    for its timeout. -/
theorem answer_routine {q : Request} (within : q.within = true)
    (asked : ∀ timeout, q.timeout? = some timeout → P (.caller, Duration.pollMillis timeout)) :
    Emits (Routine P) (answer event i q : HostM ε (Scenario × Reply)) := by
  -- The polls wait for their timeout; no other request waits.
  cases q with
  | init c            => cases within
  | free              => cases within
  | drop              => cases within
  | registerRx x fs   => cases within
  | openRx fs         => cases within
  | unregisterRx x    => exact keep_emits (onSessionUnit_emits fun _ => Session.unregisterRx_emits)
  | closeRx fd        => exact keep_emits (onSessionUnit_emits fun _ => Session.closeRx_emits)
  | registerError x   => exact keep_emits (onSessionUnit_emits fun _ => Session.registerError_emits)
  | unregisterError x => exact keep_emits (onSessionUnit_emits fun _ => Session.unregisterError_emits)
  | pollOnce timeout  => exact pollOnce_emits (asked timeout rfl)
  | poll timeout      =>
    exact keep_emits (onSessionCalling_emits fun _ => Session.poll_emits (asked timeout rfl))
  | dispatch e?       => exact keep_emits (onSessionCalling_emits fun _ => Session.dispatch_emits)
  | transmit f?       =>
    cases f? with
    | none   => exact .pure
    | some f => exact keep_emits (Interface.transmit_emits.attempt.bind fun _ => .pure)
  | setInterval d     => exact .pure
  | txSocket          => exact .pure
  | state             => exact keep_emits ((Emits.ask.bind fun _ => .pure).bind fun _ => .pure)

/-- **`Scenario.answer` sets up no socket**, unless the request has `Request.opensSocket`: `.free`
    and `.drop` release the session, and all others are `Routine`. -/
theorem answer_emits {q : Request} (other : q.opensSocket = false) :
    Emits Inert (answer event i q : HostM ε (Scenario × Reply)) := by
  have ends : Emits Inert (i.shutdown : HostM ε (Interface × Except Failure Unit)) :=
    Interface.shutdown_emits (fun _ routine => ⟨routine.opens, routine.readies⟩) fun _ _ => ⟨rfl, rfl⟩
  cases q with
  | init c          => cases other
  | registerRx x fs => cases other
  | openRx fs       => cases other
  | free            => exact ends.bind fun _ => .pure
  | drop            => exact ends.bind fun _ => .pure
  | _               => exact (answer_routine rfl fun _ _ => trivial).inert

/-! ### Incidents -/

theorem deliverAll_emits (items : List (Fd × Item)) :
    Emits (Routine P) (deliverAll items : HostM ε Nat) := by
  induction items with
  | nil => exact .pure
  | cons entry items ih =>
    exact Emits.ask.bind fun _ => Along.bind (Emits.modifyKernel fun _ => by rfl) fun _ =>
      ih.bind fun _ => .pure

theorem setOverride_emits {fd : Fd} {report : Nat} :
    Emits (Routine P) (setOverride fd report : HostM ε Bool) :=
  Emits.ask.bind fun _ => Along.bind (Emits.modifyKernel fun _ => by rfl) fun _ => .pure

theorem tick_emits : Emits (Routine P) (x.tick : HostM ε (Scenario × Bool)) := by
  unfold tick
  split
  · split
    · exact Session.tick_emits.bind fun _ => .pure
    · exact .pure
  · exact .pure

/-- **`Scenario.perform` of an incident is `Routine P`**, for any `P`: a tick ends a wait, and
    starts none. -/
theorem incident_emits (what : Incident) :
    Emits (Routine P) (x.perform (.incident what) : HostM ε (Scenario × Reply)) := by
  cases what with
  | deliver items     => exact (deliverAll_emits items).bind fun _ => .pure
  | override fd value => exact setOverride_emits.bind fun _ => .pure
  | script faults     => exact Along.bind (Emits.modifyKernel fun _ => by rfl) fun _ => .pure
  | tick              => exact tick_emits.bind fun _ => .pure
  | workerEnds n      => exact Session.endDetached_emits.bind fun _ => .pure

/-- `P` holds of a wait of the worker for the interval of the scenario, where there is a session. -/
def Paces (P : Waiter × Int → Prop) (x : Scenario) : Prop :=
  ∀ i s, x.interface? = some i → i.session? = some s → P (.worker, i.interval.waitMillis)

/-- `Scenario.settle` is `Routine P`, where `Scenario.Paces P`. -/
theorem settle_emits (paces : x.Paces P) : Emits (Routine P) (x.settle : HostM ε Scenario) := by
  unfold settle
  split
  · next i there =>
    split
    · next s found => exact (Session.settle_emits (paces i s there found)).bind fun _ => .pure
    · exact .pure
  · exact .pure

end Scenario

end CanDriver
