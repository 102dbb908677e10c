import CanDriver.Proofs.Sockets.Conservation

namespace CanDriver

/-!
# A change that fails leaves everything as it was

The operations on handlers and receive sockets answer a new session.  Here they are carried out part
by part, on a session that keeps what was changed when a later part fails:

* `InPlace` — computations on a session and its host, which stay changed after a failure;
* `Change` — the operations; `Change.make` answers a new session, `Change.inPlace` changes the
  session part by part;
* `Change.inPlace_eq` — both come to the same, because no part is changed before the last call that
  can fail;
* `Change.fails_as_before` — a change that fails leaves the session, and the sockets that are open,
  as they were.
-/

open Host Effect

/-! ### Changing a session in place -/

/-- The state of an `InPlace` computation: a session and its host. -/
structure Site where
  session : Session
  host    : Host

/-- A computation that changes a session. What it changed before a `Failure` stays changed. -/
abbrev InPlace := EStateM Failure Site

namespace InPlace

variable {α β : Type}

/-- Asks the session. -/
def view (question : Session → α) : InPlace α := return question (← get).session

/-- Changes a part of the session. -/
def change (part : Session → Session) : InPlace Unit :=
  modify fun x => { x with session := part x.session }

/-- Runs an action of the session on the host. -/
def call (action : Session → HostM Failure α) : InPlace α := fun x =>
  match action x.session x.host with
  | .ok a h    => .ok a { x with host := h }
  | .error f h => .error f { x with host := h }

/-- `Session.addSocket`, part by part: the size of its buffer is kept before the socket joins the
    wait-set. -/
def addSocket (fs : List Filter) : InPlace Fd := do
  let r ← call fun s => Setup.openRx s.name s.config s.index fs
  if 0 < r.granted then change fun s => { s with rxBuffer := r.granted }
  change fun s => { s with waitSet := s.waitSet.insert r.fd }
  return r.fd

/-- `Session.dropSocket`, part by part. Answers whether `fd` was in the wait-set. -/
def dropSocket (fd : Fd) : InPlace Bool := do
  let there ← view (·.waitSet.hasRx fd)
  change fun s => { s with waitSet := s.waitSet.remove fd }
  if there then call fun _ => closeSocket fd
  return there

/-- `Session.registerRx`, part by part: the socket is opened, and then the handler is bound to it.
    Where the handler is refused, the socket is dropped again, but its size stays. -/
def registerRx (x : RxHandler) (fs : List Filter) : InPlace (Option Fd) := do
  call (·.lock)
  match ← view (·.registry.socketOf? x) with
  | some fd =>
    call (·.say .error ("rx callback already registered on fd " ++ Numeral.intText fd))
    throw (.ofCode .rxHandlerKnown)
  | none =>
    let fd ← addSocket fs
    match ← view (·.registry.addRx fd x) with
    | .error code =>
      let _ ← dropSocket fd
      throw (.ofCode code)
    | .ok registry =>
      change fun s => { s with registry }
      call fun s => s.say .debug
        ("rx callback registered on fd " ++ Numeral.intText fd ++ s.maxText)
      return some fd

/-- `Session.unregisterRx`, part by part: the handler goes before its socket. -/
def unregisterRx (x : RxHandler) : InPlace (Option Fd) := do
  call (·.lock)
  match ← view (·.registry.socketOf? x) with
  | none =>
    call (·.say .error "rx callback not found")
    throw (.ofCode .rxHandlerUnknown)
  | some fd =>
    change fun s => { s with registry := s.registry.removeRx fd }
    let _ ← dropSocket fd
    call (·.say .debug ("rx callback on fd " ++ Numeral.intText fd ++ " unregistered"))
    return none

/-- `Session.openRx`, part by part. -/
def openRx (fs : List Filter) : InPlace (Option Fd) := do
  call (·.lock)
  let fd ← addSocket fs
  call fun s => s.say .debug ("rx socket " ++ Numeral.intText fd ++ " opened" ++ s.maxText)
  return some fd

/-- `Session.closeRx`, part by part: the socket goes before its handler. -/
def closeRx (fd : Fd) : InPlace (Option Fd) := do
  call (·.lock)
  if !(← dropSocket fd) then
    call (·.say .debug ("fd " ++ Numeral.intText fd ++ " is not an open rx socket"))
  change fun s => { s with registry := s.registry.removeRx fd }
  return none

/-- A change of the registry that may be refused; then `words` are logged. -/
def updateErrors (update : Registry → Except ErrorCode Registry) (words : String) :
    InPlace (Option Fd) := do
  call (·.lock)
  match ← view fun s => update s.registry with
  | .error code =>
    call (·.say .error words)
    throw (.ofCode code)
  | .ok registry =>
    change fun s => { s with registry }
    return none

/-- `Session.registerError`, part by part. -/
def registerError (x : ErrorHandler) : InPlace (Option Fd) :=
  updateErrors (·.addError x) "error callback already registered"

/-- `Session.unregisterError`, part by part. -/
def unregisterError (x : ErrorHandler) : InPlace (Option Fd) :=
  updateErrors (·.removeError x) "error callback not found"

end InPlace

/-- The operations on the handlers and the receive sockets of a session. -/
inductive Change
  | registerRx (x : RxHandler) (fs : List Filter)
  | unregisterRx (x : RxHandler)
  | openRx (fs : List Filter)
  | closeRx (fd : Fd)
  | registerError (x : ErrorHandler)
  | unregisterError (x : ErrorHandler)

namespace Change

/-- Runs the operation of `Session`, which answers a new session, and the socket that was opened. -/
def make (s : Session) : Change → HostM Failure (Session × Option Fd)
  | .registerRx x fs => do
    let (s, fd) ← s.registerRx x fs
    return (s, some fd)
  | .unregisterRx x => return (← s.unregisterRx x, none)
  | .openRx fs => do
    let (s, fd) ← s.openRx fs
    return (s, some fd)
  | .closeRx fd => return (← s.closeRx fd, none)
  | .registerError x => return (← s.registerError x, none)
  | .unregisterError x => return (← s.unregisterError x, none)

/-- The request that a caller makes for the change. -/
def request : Change → Request
  | .registerRx x fs   => .registerRx x fs
  | .unregisterRx x    => .unregisterRx x
  | .openRx fs         => .openRx fs
  | .closeRx fd        => .closeRx fd
  | .registerError x   => .registerError x
  | .unregisterError x => .unregisterError x

/-- The reply to that request where it succeeds. -/
def reply : Option Fd → Reply
  | some fd => .socket fd
  | none    => .done

/-- Runs the operation of `InPlace`, and answers the socket that was opened. -/
def inPlace : Change → InPlace (Option Fd)
  | .registerRx x fs   => InPlace.registerRx x fs
  | .unregisterRx x    => InPlace.unregisterRx x
  | .openRx fs         => InPlace.openRx fs
  | .closeRx fd        => InPlace.closeRx fd
  | .registerError x   => InPlace.registerError x
  | .unregisterError x => InPlace.unregisterError x

end Change

/-! ### Both come to the same -/

/-- The result of `m`, which answers a new session, as that of a computation that changes one: a
    failure leaves `s`. -/
def Session.install {α : Type} (s : Session) (m : HostM Failure (Session × α)) (h : Host) :
    EStateM.Result Failure Site α :=
  match m h with
  | .ok (s', a) h' => .ok a ⟨s', h'⟩
  | .error f h'    => .error f ⟨s, h'⟩

namespace InPlace

section Agreement

variable {α β : Type} {s : Session} {h : Host}

/-- `InPlace.call` of an action that succeeds leaves the session as it is. -/
theorem call_ok {action : Session → HostM Failure β} {b : β} {h' : Host}
    (run : action s h = .ok b h') : call action ⟨s, h⟩ = .ok b ⟨s, h'⟩ := by
  rw [call, run]

/-- `InPlace.call` of an action that fails leaves the session as it is. -/
theorem call_error {action : Session → HostM Failure β} {f : Failure} {h' : Host}
    (run : action s h = .error f h') : call action ⟨s, h⟩ = .error f ⟨s, h'⟩ := by
  rw [call, run]

/-- Behind the same action of the session, both computations agree if what follows does; a failure
    ends both. -/
theorem call_bind {action : Session → HostM Failure β} {p : β → InPlace α}
    {m : β → HostM Failure (Session × α)}
    (rest : ∀ b h', action s h = .ok b h' → p b ⟨s, h'⟩ = s.install (m b) h') :
    (call action >>= p) ⟨s, h⟩ = s.install (action s >>= m) h := by
  cases run : action s h with
  | ok b h' =>
    rw [bind_ok (call_ok run), rest b h' run, Session.install, Session.install, bind_ok run]
  | error f h' => rw [bind_error (call_error run), Session.install, bind_error run]

@[simp] theorem view_bind {question : Session → β} {p : β → InPlace α} :
    (view question >>= p) ⟨s, h⟩ = p (question s) ⟨s, h⟩ := rfl

@[simp] theorem change_bind {part : Session → Session} {p : Unit → InPlace α} :
    (change part >>= p) ⟨s, h⟩ = p () ⟨part s, h⟩ := rfl

/-- Behind `addSocket`, both computations agree if what follows does in `s.withSocket fd size`. -/
theorem addSocket_bind {fs : List Filter} {p : Fd → InPlace α}
    {m : Session × Fd → HostM Failure (Session × α)}
    (rest : ∀ fd size h', Session.addSocket fs s h = .ok (s.withSocket fd size, fd) h' →
      p fd ⟨s.withSocket fd size, h'⟩ = s.install (m (s.withSocket fd size, fd)) h') :
    (addSocket fs >>= p) ⟨s, h⟩ = s.install (Session.addSocket fs s >>= m) h := by
  unfold Session.addSocket at rest ⊢
  unfold addSocket
  rw [bind_assoc, bind_assoc]
  refine call_bind fun r h' run => ?_
  have more := rest r.fd (if 0 < r.granted then r.granted else s.rxBuffer) h' (bind_ok run)
  -- Where no size was asked for, both keep the one from before.
  by_cases asked : 0 < r.granted
  · simp only [asked, if_true] at more ⊢
    exact more
  · simp only [asked, if_false] at more ⊢
    exact more

/-- `InPlace.dropSocket` removes `fd` from the wait-set, and closes it where it was there. -/
theorem dropSocket_bind {fd : Fd} {p : Bool → InPlace α} :
    (dropSocket fd >>= p) ⟨s, h⟩ =
      p (s.waitSet.hasRx fd) ⟨{ s with waitSet := s.waitSet.remove fd },
        if s.waitSet.hasRx fd then
          { kernel := h.kernel.closeSocket fd, journal := h.journal.push (.call (.close fd)) }
        else h⟩ := by
  unfold dropSocket
  rw [bind_assoc, view_bind, bind_assoc, change_bind]
  by_cases there : s.waitSet.hasRx fd = true
  · simp only [there, if_true]
    rfl
  · simp only [there, Bool.false_eq_true, if_false]
    rfl

/-- `updateErrors` changes the registry or nothing. -/
theorem updateErrors_eq {update : Registry → Except ErrorCode Registry} {words : String} :
    updateErrors update words ⟨s, h⟩ = s.install (do
      s.lock
      match update s.registry with
      | .ok registry => return ({ s with registry }, none)
      | .error code  =>
        s.say .error words
        throw (.ofCode code)) h := by
  unfold updateErrors
  refine call_bind fun _ h' _ => ?_
  rw [view_bind]
  cases update s.registry with
  | ok registry => rfl
  | error code  => exact call_bind fun _ _ _ => rfl

theorem registerError_eq (x : ErrorHandler) :
    registerError x ⟨s, h⟩ = s.install (do return (← s.registerError x, none)) h := by
  unfold registerError Session.registerError
  rw [updateErrors_eq, bind_assoc]
  cases s.registry.addError x with
  | ok registry => rfl
  | error code  => rfl

theorem unregisterError_eq (x : ErrorHandler) :
    unregisterError x ⟨s, h⟩ = s.install (do return (← s.unregisterError x, none)) h := by
  unfold unregisterError Session.unregisterError
  rw [updateErrors_eq, bind_assoc]
  cases s.registry.removeError x with
  | ok registry => rfl
  | error code  => rfl

theorem closeRx_eq (fd : Fd) :
    closeRx fd ⟨s, h⟩ = s.install (do return (← s.closeRx fd, none)) h := by
  unfold closeRx Session.closeRx
  rw [bind_assoc]
  refine call_bind fun _ h' _ => ?_
  rw [dropSocket_bind]
  cases s.waitSet.hasRx fd <;> rfl

theorem openRx_eq (fs : List Filter) :
    openRx fs ⟨s, h⟩ = s.install (do
      let (s, fd) ← s.openRx fs
      return (s, some fd)) h := by
  unfold openRx Session.openRx
  rw [bind_assoc]
  refine call_bind fun _ h₁ _ => ?_
  rw [bind_assoc]
  exact addSocket_bind fun fd size h₂ _ => rfl

theorem unregisterRx_eq (x : RxHandler) :
    unregisterRx x ⟨s, h⟩ = s.install (do return (← s.unregisterRx x, none)) h := by
  unfold unregisterRx Session.unregisterRx
  rw [bind_assoc]
  refine call_bind fun _ h' _ => ?_
  rw [view_bind]
  cases s.registry.socketOf? x with
  | none =>
    dsimp only
    rw [bind_assoc]
    exact call_bind fun _ _ _ => rfl
  | some fd =>
    dsimp only
    rw [change_bind, dropSocket_bind]
    cases s.waitSet.hasRx fd <;> rfl

/-- `InPlace.registerRx` is `Session.registerRx` for a coherent session: its new socket has no
    handler, so that the handler is not refused. -/
theorem registerRx_eq {ts : List Thread} (coherent : s.Coherent) (holds : h.Holds (s.estate ts))
    (x : RxHandler) (fs : List Filter) :
    registerRx x fs ⟨s, h⟩ = s.install (do
      let (s, fd) ← s.registerRx x fs
      return (s, some fd)) h := by
  unfold registerRx Session.registerRx
  rw [bind_assoc]
  refine call_bind fun _ h₁ locked => ?_
  rw [view_bind]
  cases known : s.registry.socketOf? x with
  | some fd =>
    dsimp only
    rw [bind_assoc]
    exact call_bind fun _ _ _ => rfl
  | none =>
    dsimp only
    rw [bind_assoc]
    refine addSocket_bind fun fd size h₂ added => ?_
    -- Every handler is bound to a socket that is open already, and this one is new.
    have fresh : fd ∉ s.registry.rx.map (·.1) := by
      intro there
      obtain ⟨entry, member, own⟩ := List.mem_map.mp there
      have held := Session.lock_steady (s := s) h holds
      rw [locked] at held
      obtain ⟨-, _, holds₁, rfl, -⟩ := held
      have opens := (Session.addSocket_spec : Spec _ (s.addSocket fs) _ _) h₁ holds₁
      rw [added] at opens
      obtain ⟨-, _, -, fd', size', same, new, -⟩ := opens
      obtain ⟨-, rfl⟩ := Prod.mk.inj same
      exact new (own ▸ coherent.bound entry member)
    -- The handler joins the list, and the branch that takes the socket back is not entered.
    rw [view_bind]
    have taken : (s.withSocket fd size).registry.addRx fd x =
        .ok { s.registry with rx := s.registry.rx ++ [(fd, x)] } :=
      Registry.addRx_of_new known fresh
    rw [taken]
    rfl

/-- `InPlace.registerRx` of a handler that is bound fails before any call of the kernel. -/
theorem registerRx_of_bound {x : RxHandler} (fs : List Filter)
    (bound : x ∈ s.registry.rx.map (·.2)) :
    ∃ f h', registerRx x fs ⟨s, h⟩ = .error f ⟨s, h'⟩ ∧ h'.kernel = h.kernel ∧
      h'.journal.calls = h.journal.calls := by
  obtain ⟨fd, known⟩ : ∃ fd, s.registry.socketOf? x = some fd :=
    Option.ne_none_iff_exists'.mp fun missing => Registry.not_mem_of_socketOf? missing bound
  cases poisoned : s.poisoned with
  | true =>
    have refused := call_error (Session.lock_of_poisoned poisoned h)
    exact ⟨_, _, bind_error refused, rfl, Journal.calls_push_silent rfl _⟩
  | false =>
    have taken := call_ok (Session.lock_of_sound poisoned h)
    unfold registerRx
    rw [bind_ok taken, view_bind, known]
    exact ⟨_, _, rfl, rfl, Journal.calls_push_silent rfl _⟩

end Agreement

end InPlace

namespace Change

variable {s : Session} {h : Host} {ts : List Thread}

/-- **`Change.inPlace` is `Change.make`**, for a coherent session that holds its sockets. Nothing is
    changed before the last call that can fail. -/
theorem inPlace_eq (coherent : s.Coherent) (holds : h.Holds (s.estate ts)) (c : Change) :
    c.inPlace ⟨s, h⟩ = s.install (c.make s) h := by
  cases c with
  | registerRx x fs   => exact InPlace.registerRx_eq coherent holds x fs
  | unregisterRx x    => exact InPlace.unregisterRx_eq x
  | openRx fs         => exact InPlace.openRx_eq fs
  | closeRx fd        => exact InPlace.closeRx_eq fd
  | registerError x   => exact InPlace.registerError_eq x
  | unregisterError x => exact InPlace.unregisterError_eq x

/-- `Change.make` leaves a session with `Session.Next` and its own estate; where it fails, the
    estate is as it was. -/
theorem make_spec (coherent : s.Coherent) (c : Change) :
    Spec (s.estate ts) (c.make s) (fun r e => s.Next r.1 ∧ e = r.1.estate ts)
      fun _ e => e = s.estate ts := by
  cases c with
  | registerRx x fs =>
    refine (Session.registerRx_spec coherent).bind ?_
    exact fun _ _ left => .pure left
  | unregisterRx x =>
    refine (Session.unregisterRx_spec coherent).bind ?_
    exact fun _ _ left => .pure left
  | openRx fs =>
    refine (Session.openRx_spec coherent).bind ?_
    exact fun _ _ left => .pure left
  | closeRx fd =>
    refine (Session.closeRx_spec coherent).bind ?_
    exact fun _ _ left => .pure left
  | registerError x =>
    refine (Session.registerError_spec coherent).bind ?_
    exact fun _ _ left => .pure left
  | unregisterError x =>
    refine (Session.unregisterError_spec coherent).bind ?_
    exact fun _ _ left => .pure left

end Change

/-! ### What a request comes to -/

/-- The answer of a request for a change, and what it leaves of the interface, told from the result
    of the change in place. -/
def Change.answered (x : Scenario) (i : Interface) :
    EStateM.Result Failure Site (Option Fd) → EStateM.Result Empty Host (Scenario × Reply)
  | .ok socket? after =>
    .ok (⟨some { i with session? := some after.session }, x.event⟩, reply socket?) after.host
  | .error f after    =>
    .ok (⟨some { i with session? := some after.session }, x.event⟩, .failed f) after.host

/-- `Scenario.change` of an action that fails replies `.failed f` and keeps `s`. -/
theorem Scenario.change_apply (s : Session) (action : HostM Failure (Session × Reply)) (h : Host) :
    (change s action : HostM Empty (Session × Reply)) h =
      match action h with
      | .ok r h'    => .ok r h'
      | .error f h' => .ok (s, .failed f) h' := by
  cases run : action h with
  | ok r h' =>
    rw [change, bind_ok (attempt_ok run)]
    rfl
  | error f h' =>
    rw [change, bind_ok (attempt_error run)]
    rfl

/-- `Scenario.perform` of a request for a change is `Change.make` in the session that the worker was
    woken in. -/
theorem Change.perform_eq {x : Scenario} {i : Interface} {s₀ s : Session} {h₀ h : Host}
    (there : x.interface? = some i) (open_ : i.session? = some s₀)
    (woken : (s₀.wake : HostM Empty Session) h₀ = .ok s h) (c : Change) :
    (x.perform (.request c.request) : HostM Empty (Scenario × Reply)) h₀ =
      answered x i (s.install (c.make s) h) := by
  -- All six requests wake the worker, and keep the session where their change fails.
  have goes (action : Session → HostM Failure (Session × Reply))
      (same : action s = c.make s >>= fun r => pure (r.1, reply r.2)) :
      Scenario.keep x.event (Scenario.onSession i fun s => Scenario.change s (action s)) h₀ =
        answered x i (s.install (c.make s) h) := by
    have changed := Scenario.change_apply s (action s) h
    unfold Scenario.keep Scenario.onSession
    rw [open_]
    dsimp only
    rw [bind_assoc, bind_ok woken, bind_assoc, Session.install]
    cases run : c.make s h with
    | ok r h' =>
      have made : action s h = .ok (r.1, reply r.2) h' := by
        rw [same, bind_ok run]
        rfl
      rw [made] at changed
      rw [bind_ok changed]
      rfl
    | error f h' =>
      have failed : action s h = .error f h' := by rw [same, bind_error run]
      rw [failed] at changed
      rw [bind_ok changed]
      rfl
  unfold Scenario.perform
  rw [there]
  cases c <;> exact goes _ (by rw [make, bind_assoc]; rfl)

/-- `Change.inPlace` that fails leaves the session, and has closed the sockets that it opened. -/
theorem Change.fails_as_before {s : Session} {h : Host} {ts : List Thread} (coherent : s.Coherent)
    (holds : h.Holds (s.estate ts)) {c : Change} {f : Failure} {after : Site}
    (fails : c.inPlace ⟨s, h⟩ = .error f after) :
    after.session = s ∧ after.host.kernel.openFds = h.kernel.openFds ∧
      ∃ es, after.host.journal.toList = h.journal.toList ++ es ∧ (opened es).Perm (closed es) := by
  -- A failure in place is one of the change that answers a new session, of which the estate is known.
  have course := c.make_spec coherent h holds
  rw [c.inPlace_eq coherent holds, Session.install] at fails
  cases run : c.make s h with
  | ok r h' =>
    rw [run] at fails
    cases fails
  | error f' h' =>
    rw [run] at fails course
    obtain ⟨-, rfl⟩ := EStateM.Result.error.inj fails
    obtain ⟨path, _, holds', rfl⟩ := course
    exact ⟨rfl, holds.openFds_eq holds', path.opened_perm holds holds'⟩

/-- Behind a history, `Session.wake` ends, and leaves a session that is coherent and holds
    its sockets. -/
theorem Scenario.Traced.wakes {name : String} {link : Link} {first : Host} {ops : List Operation}
    {x : Scenario} {h₀ : Host} (traced : Traced name link first ops x h₀) {s₀ : Session}
    (found : x.session? = some s₀) :
    ∃ s h, (s₀.wake : HostM Empty Session) h₀ = .ok s h ∧ s.Coherent ∧
      h.Holds (s.estate h₀.kernel.detached) := by
  have coherent := traced.coherent s₀ found
  have holds : h₀.Holds (s₀.estate h₀.kernel.detached) := by
    have own : x.estate h₀.kernel.detached = s₀.estate h₀.kernel.detached := by
      rw [estate, sockets, found]
      rfl
    exact own ▸ traced.holds
  obtain ⟨s, h, run, -, _, held, rfl, polled⟩ :=
    (Session.wake_steady coherent.heldBy : Steady _ (s₀.wake : HostM Empty Session) _).answers holds
  have same : s.estate h₀.kernel.detached = s₀.estate h₀.kernel.detached := by
    rw [Session.estate, Session.estate, polled.alike.sockets]
  exact ⟨s, h, run, polled.alike.coherent coherent, same.symm ▸ held⟩

/-- **A change that fails is undone.** After every history of an interface that is initialised, and
    under all failures that are scripted then, take the session when the worker has let go of the
    lock. A request for a change comes to what the change comes to part by part. Where that fails,
    the whole session is as it was, with its handlers and their order, its wait-set, the size of
    its receive buffer and its drop counter; the same sockets are open, and each socket that the
    change opened was closed. A receive handler that is bound already is refused without a call of
    the kernel. -/
theorem failed_change_undone (links : List NetworkLink) (faults : Faults) (traffic : List Item)
    (name : String) (link : Link) (ops : List Operation) :
    ∃ x h₀, Scenario.history name link ops (.start links faults traffic) = .ok x h₀ ∧
      ∀ i s₀, x.interface? = some i → i.session? = some s₀ →
        ∃ s h, (s₀.wake : HostM Empty Session) h₀ = .ok s h ∧
          (∀ c : Change,
            (x.perform (.request c.request) : HostM Empty (Scenario × Reply)) h₀ =
              Change.answered x i (c.inPlace ⟨s, h⟩) ∧
            ∀ f after, c.inPlace ⟨s, h⟩ = .error f after →
              after.session = s ∧ after.host.kernel.openFds = h.kernel.openFds ∧
              ∃ es, after.host.journal.toList = h.journal.toList ++ es ∧
                (opened es).Perm (closed es)) ∧
          ∀ handler fs, handler ∈ s.registry.rx.map (·.2) →
            ∃ f h', (Change.registerRx handler fs).inPlace ⟨s, h⟩ = .error f ⟨s, h'⟩ ∧
              h'.kernel = h.kernel ∧ h'.journal.calls = h.journal.calls := by
  obtain ⟨x, h₀, traced⟩ := Scenario.exists_traced links faults traffic name link ops
  refine ⟨x, h₀, traced.run, fun i s₀ there open_ => ?_⟩
  have found : x.session? = some s₀ := by rw [Scenario.session?, there, Option.bind_some, open_]
  obtain ⟨s, h, woken, coherent, holds⟩ := traced.wakes found
  refine ⟨s, h, woken, fun c => ⟨?_, fun f after fails => ?_⟩, fun handler fs bound => ?_⟩
  · rw [c.inPlace_eq coherent holds]
    exact Change.perform_eq there open_ woken c
  · exact Change.fails_as_before coherent holds fails
  · exact InPlace.registerRx_of_bound fs bound

/-- An initialisation and a receive handler; the next bind is scripted to fail. -/
def Scenario.unbindable : List Operation :=
  [.request (.init .default), .request (.registerRx ⟨"monitor", .returns⟩ []),
    .incident (.script [(.bind, [Errno.networkDown])])]

/-- A host with the link `can0`, on which nothing is scripted. -/
def Host.withLink : Host := .start [⟨"can0", 3, fdSize⟩] .none []

/-- The reply to `openRx []` behind `Scenario.unbindable`. -/
def Scenario.refusal : Reply :=
  let last := history "can0" .external unbindable >>= (·.perform (.request (.openRx [])))
  match last .withLink with
  | .ok (_, reply) _ => reply
  | .error never _   => never.elim

/-- `openRx []` behind `Scenario.unbindable` fails with the bind, and leaves the session and the
    open sockets. -/
theorem failed_change_undone_unbindable :
    Scenario.refusal = .failed (.os .rxSocketBind Errno.networkDown) ∧
      ∃ x h₀ s h f after, Scenario.history "can0" .external Scenario.unbindable .withLink = .ok x h₀ ∧
        (Change.openRx []).inPlace ⟨s, h⟩ = .error f after ∧ after.session = s ∧
        after.host.kernel.openFds = h.kernel.openFds := by
  have refused : Scenario.refusal = .failed (.os .rxSocketBind Errno.networkDown) := by
    decide +kernel
  refine ⟨refused, ?_⟩
  obtain ⟨x, h₀, run, more⟩ := failed_change_undone [⟨"can0", 3, fdSize⟩] .none [] "can0" .external
    Scenario.unbindable
  have last : (Scenario.history "can0" .external Scenario.unbindable >>=
      (·.perform (.request (.openRx [])))) .withLink = x.perform (.request (.openRx [])) h₀ :=
    bind_ok run
  rw [Scenario.refusal, last] at refused
  clear last
  -- That there is a session is read off the reply: without one it would be another failure.
  cases there : x.interface? with
  | none =>
    rw [Scenario.perform, there] at refused
    cases refused
  | some i =>
    cases open_ : i.session? with
    | none =>
      rw [Scenario.perform_of_none there open_ rfl] at refused
      cases refused
    | some s₀ =>
      obtain ⟨s, h, -, changes, -⟩ := more i s₀ there open_
      obtain ⟨same, undone⟩ := changes (.openRx [])
      -- That the change fails is read off the reply, too.
      cases made : (Change.openRx []).inPlace ⟨s, h⟩ with
      | ok socket? after =>
        rw [made] at same
        rw [show x.perform (.request (.openRx [])) h₀ = _ from same] at refused
        cases socket? <;> exact absurd refused (by simp [Change.answered, Change.reply])
      | error f after =>
        obtain ⟨session, live, -⟩ := undone f after made
        exact ⟨x, h₀, s, h, f, after, run, made, session, live⟩
end CanDriver
