import CanDriver.Interface.Lifecycle
import CanDriver.Proofs.Sockets.Polling
import Mathlib.Order.Defs.Unbundled

namespace CanDriver

/-!
# What operations leave in the journal

* `Effect.request?` — the request that an effect puts to the administrator of a link, and the name
  of the link; `Journal.requests` — all of them in order;
* `Effect.readies?` — the socket that an effect sets up; `Effect.Inert` — effects that set none up;
* `Effect.wait?` — who waits, and for how long at most; `Journal.waits` — all waits in order;
* `Effect.Routine P` — effects that neither ask a link nor set up a socket, and start such waits only
  as `P` tells;
* `Along R m` — the host that a computation leaves is in a relation with the one it started from,
  however it ends, with one rule for each way to put computations together;
* `Emits Q m` — all effects that a computation adds to the journal are of a kind, and the links stay
  as they are;
* `Session.release_emits` — a release opens no socket, sets none up and asks no link;
* `Setup.Step.emits` — a step of a setup makes the calls `Step.calls` and no others;
* `Setup.openSocket_makes` — the setup of a socket makes the calls of its steps, and writes to the log;
  `Setup.openSocket_emits` — none of them waits; `Setup.openTx_asksNoLink` — none asks a link.
-/

open Host

namespace Effect

/-- The request of a `.link` callback and the name of the link; `none` for all other effects. -/
def request? : Effect → Option (LinkRequest × String)
  | .callback (.link r name) => some (r, name)
  | _                        => none

/-- The descriptor of a call that sets a socket up, or tries to: `nonblocking`, `linkMtu`,
    `setOption` or `bind`. -/
def readies? : Effect → Option Fd
  | .call (.nonblocking fd _) => some fd
  | .call (.linkMtu fd ..)    => some fd
  | .call (.setOption fd ..)  => some fd
  | .call (.bind fd ..)       => some fd
  | _                         => none

/-- Who waits for sockets: the caller of a poll, or the worker. -/
inductive Waiter
  | caller
  | worker
  deriving DecidableEq, Repr

/-- Who starts a wait, and for how many milliseconds at most; `none` for all other effects. -/
def wait? : Effect → Option (Waiter × Int)
  | .call (.wait _ timeout _) => some (.caller, timeout)
  | .watch _ timeout          => some (.worker, timeout)
  | _                         => none

/-- If `e` starts a wait, the wait has `P`. -/
def Waits (P : Waiter × Int → Prop) (e : Effect) : Prop := ∀ w, e.wait? = some w → P w

/-- The effect is no request to a link. -/
def AsksNoLink (e : Effect) : Prop := e.request? = none

/-- The effect neither asks a link nor opens a socket. -/
structure Passive (e : Effect) : Prop where
  asks  : e.AsksNoLink
  opens : e.opened? = none

/-- The effect neither opens a socket nor sets one up. -/
structure Inert (e : Effect) : Prop where
  opens   : e.opened? = none
  readies : e.readies? = none

/-- The effect neither asks a link nor opens a socket nor sets one up, and `Waits P`. -/
structure Routine (P : Waiter × Int → Prop) (e : Effect) : Prop where
  asks    : e.AsksNoLink
  opens   : e.opened? = none
  readies : e.readies? = none
  waits   : e.Waits P

end Effect

/-- All requests to links, in order. -/
def Journal.requests (j : Journal) : List (LinkRequest × String) := j.toList.filterMap Effect.request?

/-- All waits that were started, in order. -/
def Journal.waits (j : Journal) : List (Effect.Waiter × Int) := j.toList.filterMap Effect.wait?

/-- An effect without `request?` leaves `Journal.requests`. -/
theorem Journal.requests_push_silent {e : Effect} (silent : e.request? = none) (j : Journal) :
    requests (j.push e) = requests j := by
  simp [requests, silent]

namespace Host

/-- `es` are the effects that the journal of `h'` has behind that of `h`, and both have the
    same links. -/
structure Leads (es : List Effect) (h h' : Host) : Prop where
  journal : h'.journal.toList = h.journal.toList ++ es
  links   : h'.kernel.links = h.kernel.links

/-- `Leads es h h'` for some effects `es`, all with `Q`. -/
def Adds (Q : Effect → Prop) (h h' : Host) : Prop := ∃ es, Leads es h h' ∧ ∀ e ∈ es, Q e

variable {Q : Effect → Prop} {es fs : List Effect} {h h₁ h' : Host}

theorem Leads.of_same (journal : h'.journal = h.journal) (links : h'.kernel.links = h.kernel.links) :
    Leads [] h h' :=
  ⟨by rw [journal, List.append_nil], links⟩

theorem Leads.trans (first : Leads es h h₁) (more : Leads fs h₁ h') : Leads (es ++ fs) h h' where
  journal := by rw [more.journal, first.journal, List.append_assoc]
  links   := more.links.trans first.links

/-- `Leads` determines its effects. -/
theorem Leads.unique (one : Leads es h h') (other : Leads fs h h') : es = fs :=
  List.append_cancel_left (one.journal.symm.trans other.journal)

theorem Adds.of_same (journal : h'.journal = h.journal) (links : h'.kernel.links = h.kernel.links) :
    Adds Q h h' := ⟨[], .of_same journal links, nofun⟩

instance : IsPreorder Host (Adds Q) where
  refl _ := .of_same rfl rfl
  trans _ _ _ := by
    rintro ⟨es, first, kind⟩ ⟨fs, more, kind'⟩
    exact ⟨es ++ fs, first.trans more, List.forall_mem_append.mpr ⟨kind, kind'⟩⟩

/-- `Adds Q` is `Adds Q'` for every wider `Q'`. -/
theorem Adds.widen {Q' : Effect → Prop} (course : Adds Q h h') (wider : ∀ e, Q e → Q' e) :
    Adds Q' h h' := by
  obtain ⟨es, way, kind⟩ := course
  exact ⟨es, way, fun e there => wider e (kind e there)⟩

/-- `Adds AsksNoLink` leaves `Journal.requests`. -/
theorem Adds.requests (course : Adds Effect.AsksNoLink h h') :
    h'.journal.requests = h.journal.requests := by
  obtain ⟨es, way, silent⟩ := course
  rw [Journal.requests, way.journal, List.filterMap_append, List.filterMap_eq_nil_iff.mpr silent,
    List.append_nil]
  rfl

/-- The host that a result holds, whether it is `.ok` or `.error`. -/
def left {ε α : Type} : EStateM.Result ε Host α → Host
  | .ok _ h    => h
  | .error _ h => h

end Host

/-! ### Relations along computations -/

/-- Every host `h` and the host that `m` leaves of it are in the relation `R`, however `m` ends. -/
def Along {ε α : Type} (R : Host → Host → Prop) (m : HostM ε α) : Prop := ∀ h, R h (left (m h))

namespace Along

variable {ε ε' α β : Type} {R R' : Host → Host → Prop} [IsPreorder Host R] {m : HostM ε α}
  {f : α → HostM ε β}

theorem pure {a : α} : Along R (pure a : HostM ε α) := fun h => refl_of R h

theorem throw {e : ε} : Along R (throw e : HostM ε α) := fun h => refl_of R h

/-- `Along R` for a computation that throws first. -/
theorem throw_bind {e : ε} : Along R ((MonadExcept.throw e : HostM ε α) >>= f) := fun h => refl_of R h

/-- `m >>= f` from `h`: the relation for `m`, and then for `f` from the answer and the host that `m`
    ends with. -/
theorem bind_at {h : Host} (first : R h (left (m h)))
    (more : ∀ a h₁, m h = .ok a h₁ → R h₁ (left (f a h₁))) : R h (left ((m >>= f) h)) := by
  cases run : m h with
  | error e h' =>
    rw [run] at first
    rw [bind_error run]
    exact first
  | ok a h₁ =>
    rw [run] at first
    rw [bind_ok run]
    exact trans_of R first (more a h₁ run)

theorem bind (first : Along R m) (more : ∀ a, Along R (f a)) : Along R (m >>= f) := fun h =>
  bind_at (first h) fun a h₁ _ => more a h₁

theorem orElse {handle : ε → HostM ε' α} (call : Along R m) (course : ∀ e, Along R (handle e)) :
    Along R (Host.orElse m handle) := by
  intro h
  have one := call h
  rw [Host.orElse]
  cases run : m h with
  | ok a h' =>
    rw [run] at one
    exact one
  | error e h₁ =>
    rw [run] at one
    exact trans_of R one (course e h₁)

omit [IsPreorder Host R] in
theorem attempt (call : Along R m) : Along R (Host.attempt m : HostM ε' (Except ε α)) := by
  intro h
  have one := call h
  rw [Host.attempt]
  cases run : m h with
  | ok a h' =>
    rw [run] at one
    exact one
  | error e h' =>
    rw [run] at one
    exact one

omit [IsPreorder Host R] in
/-- `Along R` is `Along R'` for every wider `R'`. -/
theorem mono (course : Along R m) (wider : ∀ h h', R h h' → R' h h') : Along R' m := fun h =>
  wider _ _ (course h)

end Along

/-! ### Kinds of effects -/

/-- All effects that `m` adds to the journal have `Q`, and `m` leaves the links. -/
abbrev Emits {ε α : Type} (Q : Effect → Prop) (m : HostM ε α) : Prop := Along (Adds Q) m

namespace Emits

section Rules

variable {ε α : Type} {Q Q' : Effect → Prop} {m : HostM ε α}

theorem addAll {es : List Effect} (kind : ∀ e ∈ es, Q e) :
    Emits Q (Host.addAll es : HostM ε Unit) := fun _ => ⟨es, ⟨by simp [left], rfl⟩, kind⟩

theorem add {e : Effect} (kind : Q e) : Emits Q (Host.add e : HostM ε Unit) := fun _ =>
  ⟨[e], ⟨Array.toList_push, rfl⟩, fun _ member => List.mem_singleton.mp member ▸ kind⟩

theorem line (lines : ∀ r, Q (.record r)) {level : Log.Level} {target : Log.Target} {text : String} :
    Emits Q (Host.log level target text : HostM ε Unit) := add (lines _)

theorem modifyKernel {change : Kernel → Kernel} (links : ∀ k, (change k).links = k.links) :
    Emits Q (Host.modifyKernel change : HostM ε Unit) := fun _ => .of_same rfl (links _)

theorem ask {question : Kernel → α} : Emits Q (Host.ask question : HostM ε α) := fun _ =>
  .of_same rfl rfl

theorem called : Emits Q (Host.called : HostM ε (List Callback)) := fun _ => .of_same rfl rfl

theorem scripted {p : Point} : Emits Q (Host.scripted p : HostM ε (Option Int)) := fun _ =>
  .of_same rfl rfl

theorem fault {p : Point} : Emits Q (Host.fault p : HostM ε (Option Errno)) := fun _ =>
  .of_same rfl rfl

theorem failWith {e? : Option Errno} : Emits Q (Host.failWith e?) := by
  cases e? with
  | none   => exact .pure
  | some e => exact .throw

/-- `Emits Q` is `Emits Q'` for every wider `Q'`. -/
theorem widen (course : Emits Q m) (wider : ∀ e, Q e → Q' e) : Emits Q' m :=
  course.mono fun _ _ added => added.widen wider

theorem asksNoLink (course : Emits (Effect.Routine fun _ => True) m) : Emits Effect.AsksNoLink m :=
  course.widen fun _ routine => routine.asks

theorem passive (course : Emits (Effect.Routine fun _ => True) m) : Emits Effect.Passive m :=
  course.widen fun _ routine => ⟨routine.asks, routine.opens⟩

theorem inert (course : Emits (Effect.Routine fun _ => True) m) : Emits Effect.Inert m :=
  course.widen fun _ routine => ⟨routine.opens, routine.readies⟩

end Rules

/-! ### Lines of the log and closed sockets -/

section Routine

variable {ε : Type} {P : Effect.Waiter × Int → Prop}

theorem log {level : Log.Level} {target : Log.Target} {text : String} :
    Emits (Effect.Routine P) (Host.log level target text : HostM ε Unit) := line fun _ => ⟨rfl, rfl, rfl, nofun⟩

theorem closeSocket {fd : Fd} : Emits (Effect.Routine P) (Host.closeSocket fd : HostM ε Unit) :=
  Along.bind (modifyKernel fun _ => by rfl) fun _ => add ⟨rfl, rfl, rfl, nofun⟩

theorem closeAll (fds : List Fd) :
    Emits (Effect.Routine P) (fds.forM Host.closeSocket : HostM ε Unit) := by
  induction fds with
  | nil            => exact .pure
  | cons fd fds ih => exact closeSocket.bind fun _ => ih

end Routine

end Emits

/-! ### Callbacks -/

namespace Registry

variable {P : Effect.Waiter × Int → Prop}

/-- The callbacks of `announce n` are `Routine`. -/
theorem announce_routine (r : Registry) (n : Notice) :
    ∀ c ∈ r.announce n, (Effect.callback c).Routine P := by
  intro c member
  obtain ⟨handler, -, rfl⟩ := List.mem_map.mp member
  exact ⟨rfl, rfl, rfl, nofun⟩

/-- The callbacks of `deliveries e` are `Routine`. -/
theorem deliveries_routine (r : Registry) (e : Event) :
    ∀ c ∈ r.deliveries e, (Effect.callback c).Routine P := by
  intro c member
  rcases List.mem_append.mp member with notice | frame
  · obtain ⟨n, -, member⟩ := List.mem_flatMap.mp notice
    exact r.announce_routine n c member
  · unfold frameCalls at frame
    split at frame
    · split at frame
      · obtain ⟨handler, -, rfl⟩ := List.mem_map.mp frame
        exact ⟨rfl, rfl, rfl, nofun⟩
      · exact absurd frame List.not_mem_nil
    · exact absurd frame List.not_mem_nil

end Registry

/-! ### Polls of the worker, and the release of a session -/

namespace Session

variable {ε : Type} {s : Session} {P : Effect.Waiter × Int → Prop}

theorem serve_emits (fd : Fd) :
    Emits (Effect.Routine P) (s.serve fd : HostM ε (Session × Ending)) := by
  refine Emits.ask.bind fun queue => Emits.ask.bind fun idle => Emits.called.bind fun made =>
    (Emits.addAll ?_).bind fun _ => (Emits.modifyKernel fun _ => by rfl).bind fun _ => .pure
  intro what member
  -- A turn receives, writes to the log and calls handlers, and nothing else.
  cases drain_turnEffect fd idle queue s.dropped made what member with
  | receive result => exact ⟨rfl, rfl, rfl, nofun⟩
  | record r       => exact ⟨rfl, rfl, rfl, nofun⟩
  | callback h     => exact s.registry.deliveries_routine _ _ h

theorem sweep_emits (first : Option Failure) (ready : List Reported) :
    Emits (Effect.Routine P) (sweep first ready s : HostM ε (Session × Outcome)) := by
  induction ready generalizing first s with
  | nil => exact .pure
  | cons what ready ih =>
    cases what with
    | wakeUp    => exact ih first
    | socket fd =>
      refine (serve_emits fd).bind ?_
      rintro ⟨s₁, ending⟩
      cases ending with
      | emptied     => exact ih first
      | panicked    => exact .pure
      | networkDown => exact Emits.log.bind fun _ => ih _

theorem afterWait_emits (result : Except Errno (List Reported)) :
    Emits (Effect.Routine P) (s.afterWait result : HostM ε (Session × Outcome)) := by
  cases result with
  | ok ready => exact sweep_emits none ready
  | error e =>
    unfold afterWait
    dsimp only
    split
    · -- A signal ends the wait like a timeout.
      exact .pure
    · have calls (made : List Callback) :
          ∀ what ∈ Callback.effectsOf made (s.registry.announce (.waitFailed e)), what.Routine P := by
        intro what member
        obtain ⟨r, rfl⟩ | ⟨c, called, rfl⟩ := Callback.mem_effectsOf member
        · exact ⟨rfl, rfl, rfl, nofun⟩
        · exact s.registry.announce_routine _ c called
      refine Emits.called.bind fun made => (Emits.addAll (calls made)).bind fun _ => ?_
      -- An error handler panicked, or the failure goes on to the log.
      split
      · exact .pure
      · exact (Emits.log.bind fun _ => .pure).bind fun _ => .pure

theorem workerPoll_emits {woken : Bool} :
    Emits (Effect.Routine P) (s.workerPoll woken : HostM ε (Session × Outcome)) :=
  Emits.ask.bind fun _ => Along.bind (Emits.modifyKernel fun _ => by rfl) fun _ => afterWait_emits _

/-- The effects of `Session.wake` are `Routine`. -/
theorem wake_emits : Emits (Effect.Routine P) (s.wake : HostM ε Session) := by
  unfold wake
  split
  · refine workerPoll_emits.bind ?_
    rintro ⟨s₁, outcome⟩
    cases outcome with
    | done     => exact .pure
    | panicked => exact .pure
    | failed f => exact Emits.log.bind fun _ => .pure
  · exact .pure

/-- The effects of `Session.stopWorker` are `Routine`. -/
theorem stopWorker_emits : Emits (Effect.Routine P) (s.stopWorker : HostM ε (Session × Bool)) := by
  refine wake_emits.bind fun s₁ => ?_
  split
  · exact .pure
  · dsimp only
    split
    · refine Emits.log.bind fun _ => ?_
      split
      · exact .pure
      · refine Emits.fault.bind fun lingers => ?_
        split
        · exact .pure
        · exact Emits.log.bind fun _ => .pure
    · -- The end of the worker is waited for, and a panic of it is logged.
      have ends (w : WorkerState) : Emits (Effect.Routine P) (do
          if w = .panicked then s₁.sayWorker .error "worker panicked"
          return (s₁, false) : HostM ε (Session × Bool)) := by
        split
        · exact Emits.log.bind fun _ => .pure
        · exact .pure
      split
      · exact Emits.log.bind fun _ => ends _
      · exact ends _

theorem lock_lines {Q : Effect → Prop} (lines : ∀ r, Q (.record r)) : Emits Q s.lock := by
  unfold Session.lock
  split
  · exact Along.bind (Emits.line lines) fun _ => .throw
  · exact .pure

theorem lock_emits : Emits (Effect.Routine P) s.lock := lock_lines fun _ => ⟨rfl, rfl, rfl, nofun⟩

/-- The effects of `Session.clear` are `Routine`. -/
theorem clear_emits : Emits (Effect.Routine P) (s.clear : HostM ε Session) := by
  refine lock_emits.attempt.bind fun taken => ?_
  cases taken with
  | ok _    => exact (Emits.closeAll _).bind fun _ => .pure
  | error f => exact Emits.log.bind fun _ => .pure

/-- **The effects of `Session.release` are `Routine`**: none opens a socket, sets one up or
    asks a link. -/
theorem release_emits : Emits (Effect.Routine P) (s.release : HostM ε Unit) := by
  refine stopWorker_emits.bind ?_
  rintro ⟨s₁, goesOn⟩
  refine clear_emits.bind fun s₂ => ?_
  split
  · exact Emits.modifyKernel fun _ => by rfl
  · exact Emits.closeAll _

end Session

/-! ### The setup of a socket -/

/-- `Kernel.bindSocket` leaves the links. -/
theorem Kernel.links_bindSocket {fd : Fd} {k : Kernel} : (k.bindSocket fd).links = k.links := by
  unfold bindSocket
  split <;> rfl

namespace Setup

open Effect

/-- The calls that a step makes for the socket `s.fd`, which is to be bound to `index`; each is
    missing the failure that it meets. -/
def Step.calls (s : Subject) (index : UInt32) : Step → List (Option Errno → KernelCall)
  | .resolve             => [.interfaceIndex s.name]
  | .nonblocking         => [.nonblocking s.fd]
  | .fdLink              => [.linkMtu s.fd s.name]
  | .fdFrames            => [.setOption s.fd .fdFrames (.word 1)]
  | .timestamps hardware => [.setOption s.fd (timestampOption hardware).1 (timestampOption hardware).2]
  | .dropCounter         => [.setOption s.fd .dropCounter (.word 1)]
  | .buffer size         =>
    [.setOption s.fd s.role.forcedBufferOption (.word (min size maxRequest)),
     .setOption s.fd s.role.bufferOption (.word (min size maxRequest)),
     .getOption s.fd s.role.bufferOption]
  | .errorMask mask      => [.setOption s.fd .errorFilter (.word mask.toNat)]
  | .filters fs          => [.setOption s.fd .rawFilter (.filters fs)]
  | .bind                => [.bind s.fd index.toInt32]

section Calls

variable {α : Type} {s : Subject} {Q : Effect → Prop}

/-- A call at the point `p` that is recorded with its failure, and what follows it. -/
theorem call_emits {p : Point} {c : Option Errno → KernelCall} {rest : Option Errno → HostM Errno α}
    (kind : ∀ e?, Q (.call (c e?))) (more : ∀ e?, Emits Q (rest e?)) :
    Emits Q (do let e? ← Host.fault p; Host.record (c e?); rest e?) :=
  Emits.fault.bind fun e? => Along.bind (Emits.add (kind e?)) fun _ => more e?

theorem setNonblocking_emits {fd : Fd} (kind : ∀ e?, Q (.call (.nonblocking fd e?))) :
    Emits Q (setNonblocking fd) := call_emits kind fun _ => Emits.failWith

theorem setOption_emits {fd : Fd} {option : SocketOption} {value : OptionValue}
    (kind : ∀ e?, Q (.call (.setOption fd option value e?))) : Emits Q (setOption fd option value) :=
  call_emits kind fun _ => Emits.failWith.bind fun _ => Emits.modifyKernel fun _ => by rfl

theorem getBuffer_emits {fd : Fd} {role : SocketRole}
    (kind : ∀ e?, Q (.call (.getOption fd role.bufferOption e?))) : Emits Q (getBuffer fd role) :=
  call_emits kind fun _ => Emits.failWith.bind fun _ => Emits.ask

theorem bindSocket_emits {fd : Fd} {index : UInt32}
    (kind : ∀ e?, Q (.call (.bind fd index.toInt32 e?))) : Emits Q (bindSocket fd index) :=
  call_emits kind fun _ => Emits.failWith.bind fun _ => Emits.modifyKernel fun _ => Kernel.links_bindSocket

theorem interfaceIndex_emits {name : String} (kind : ∀ e?, Q (.call (.interfaceIndex name e?))) :
    Emits Q (interfaceIndex name) := by
  unfold interfaceIndex
  split
  · exact .throw_bind
  · refine call_emits kind fun _ => Emits.failWith.bind fun _ => Emits.ask.bind fun link => ?_
    cases link with
    | none   => exact .throw
    | some _ => exact .pure

theorem linkMtu_emits {fd : Fd} {name : String} (kind : ∀ e?, Q (.call (.linkMtu fd name e?))) :
    Emits Q (linkMtu fd name) := by
  refine call_emits kind fun _ => Emits.failWith.bind fun _ => Emits.ask.bind fun link => ?_
  cases link with
  | none   => exact .throw
  | some _ => exact .pure

variable (lines : ∀ r, Q (.record r))

include lines

theorem refuse_emits {name what : String} {level : Log.Level} {code : ErrorCode} {e : Errno} :
    Emits Q (refuse name level what code e : HostM Failure α) :=
  Along.bind (Emits.line lines) fun _ => .throw

theorem enable_emits {option : SocketOption} {value : OptionValue} {code : ErrorCode}
    (kind : ∀ e?, Q (.call (.setOption s.fd option value e?))) :
    Emits Q (enable s option value code) :=
  (setOption_emits kind).orElse fun _ => refuse_emits lines

theorem negotiate_emits {size : Nat}
    (kind : ∀ call ∈ (Step.buffer size).calls s 0, ∀ e?, Q (.call (call e?))) :
    Emits Q (negotiate s size) := by
  have reads : Emits Q (getBuffer s.fd s.role) := getBuffer_emits (kind _ (.tail _ (.tail _ (.head _))))
  have answer (forced : Bool) : Emits Q (do
      let granted ← orElse (getBuffer s.fd s.role) fun failure =>
        refuse s.name .error s.role.getBufferCode.message s.role.getBufferCode failure
      let subject := s.name ++ ": " ++ s.role.bufferWord
      let size := Numeral.text granted
      if forced then log .debug .setup (subject ++ " buffer size " ++ size)
      else log .warn .setup (subject ++ " buffer force request refused, best-effort size " ++ size)
      return granted) := by
    refine (reads.orElse fun _ => refuse_emits lines).bind fun granted => ?_
    cases forced <;> exact Along.bind (Emits.line lines) fun _ => .pure
  refine (setOption_emits (kind _ (.head _))).attempt.bind fun forced => ?_
  -- Where the request beyond the limit is refused, the plain one decides.
  dsimp only
  split
  · refine Along.bind ?_ fun _ => answer _
    exact (setOption_emits (kind _ (.tail _ (.head _)))).orElse fun _ => refuse_emits lines
  · exact answer _

theorem requireFdLink_emits (kind : ∀ e?, Q (.call (.linkMtu s.fd s.name e?))) :
    Emits Q (requireFdLink s) := by
  refine ((linkMtu_emits kind).orElse fun _ => refuse_emits lines).bind fun mtu => ?_
  split
  · exact Along.bind (Emits.line lines) fun _ => .throw
  · exact .pure

/-- **A step emits its `Step.calls` and log records**, and nothing else. -/
theorem Step.emits (p : Progress) (step : Step)
    (kind : ∀ call ∈ step.calls s p.index, ∀ e?, Q (.call (call e?))) :
    Emits Q (step.perform s p) := by
  -- Each step is one call with its own answer to a failure; only a buffer makes several.
  cases step with
  | resolve =>
    have asks : Emits Q (interfaceIndex s.name) := interfaceIndex_emits (kind _ (.head _))
    exact (asks.orElse fun _ => refuse_emits lines).bind fun _ => .pure
  | nonblocking =>
    have sets : Emits Q (setNonblocking s.fd) := setNonblocking_emits (kind _ (.head _))
    exact (sets.orElse fun _ => .throw).bind fun _ => .pure
  | fdLink   => exact (requireFdLink_emits lines (kind _ (.head _))).bind fun _ => .pure
  | fdFrames => exact (enable_emits lines (kind _ (.head _))).bind fun _ => .pure
  | timestamps hardware =>
    have sets := setOption_emits (kind _ (.head _))
    exact (sets.orElse fun _ => refuse_emits lines).bind fun _ => .pure
  | dropCounter    => exact (enable_emits lines (kind _ (.head _))).bind fun _ => .pure
  | buffer size    => exact (negotiate_emits lines kind).bind fun _ => .pure
  | errorMask mask => exact (enable_emits lines (kind _ (.head _))).bind fun _ => .pure
  | filters fs     => exact (enable_emits lines (kind _ (.head _))).bind fun _ => .pure
  | bind =>
    have binds : Emits Q (bindSocket s.fd p.index) := bindSocket_emits (kind _ (.head _))
    exact (binds.orElse fun _ => refuse_emits lines).bind fun _ => .pure

/-- `Setup.run` emits the calls of its steps and log records. -/
theorem run_emits {steps : List Step} {p : Progress}
    (kind : ∀ step ∈ steps, ∀ index, ∀ call ∈ step.calls s index, ∀ e?, Q (.call (call e?))) :
    Emits Q (run s steps p) := by
  induction steps generalizing p with
  | nil => exact .pure
  | cons step steps ih =>
    obtain ⟨first, more⟩ := List.forall_mem_cons.mp kind
    exact (step.emits lines p (first p.index)).bind fun p => ih more

end Calls

/-- None of `Step.calls` starts a wait. -/
theorem Step.wait?_calls {s : Subject} {index : UInt32} (step : Step) :
    ∀ call ∈ step.calls s index, ∀ e?, (Effect.call (call e?)).wait? = none := by
  cases step <;> simp [Step.calls, wait?]

/-- **`Setup.openSocket` emits a `socket` call, the calls of its steps and a `close`**, and
    log records. -/
theorem openSocket_makes {Q : Effect → Prop} {name : String} {role : SocketRole} {steps : List Step}
    {index : UInt32} (lines : ∀ r, Q (.record r)) (sockets : ∀ result, Q (.call (.socket result)))
    (ends : ∀ fd, Q (.call (.close fd)))
    (kind : ∀ fd, ∀ step ∈ steps, ∀ index, ∀ call ∈ step.calls ⟨name, role, fd⟩ index, ∀ e?,
      Q (.call (call e?))) :
    Emits Q (openSocket name role steps index) := by
  have opens : Emits Q Host.openSocket := by
    refine Emits.fault.bind fun e? => ?_
    cases e? with
    | none   => exact Emits.ask.bind fun _ => Along.bind (Emits.modifyKernel fun _ => by rfl) fun _ =>
        Along.bind (Emits.add (sockets _)) fun _ => .pure
    | some _ => exact Along.bind (Emits.add (sockets _)) fun _ => .throw
  have closes {fd : Fd} : Emits Q (Host.closeSocket fd : HostM Failure Unit) :=
    Along.bind (Emits.modifyKernel fun _ => by rfl) fun _ => Emits.add (ends fd)
  refine (opens.orElse fun _ => refuse_emits lines).bind fun fd => Along.bind ?_ fun _ => .pure
  exact (run_emits lines (kind fd)).orElse fun _ => closes.bind fun _ => .throw

section Opening

variable {Q : Effect → Prop} (lines : ∀ r, Q (.record r))
  (calls : ∀ c : KernelCall, (Effect.call c).wait? = none → Q (.call c))

include lines calls

/-- `Setup.openSocket` emits `Q`, where that holds of log records and of calls that do not wait. -/
theorem openSocket_emits {name : String} {role : SocketRole} {steps : List Step} {index : UInt32} :
    Emits Q (openSocket name role steps index) :=
  openSocket_makes lines (fun _ => calls _ rfl) (fun _ => calls _ rfl) fun _ step _ _ call there e? =>
    calls _ (step.wait?_calls call there e?)

theorem openTx_emits (name : String) (c : Config) : Emits Q (openTx name c) :=
  (openSocket_emits lines calls).bind fun _ => Along.bind (Emits.line lines) fun _ => .pure

theorem openRx_emits {name : String} {c : Config} {index : UInt32} {fs : List Filter} :
    Emits Q (openRx name c index fs) :=
  (openSocket_emits lines calls).bind fun _ => Along.bind (Emits.line lines) fun _ => .pure

end Opening

/-- **`Setup.openTx` asks no link.** -/
theorem openTx_asksNoLink (name : String) (c : Config) : Emits AsksNoLink (openTx name c) :=
  openTx_emits (fun _ => rfl) (fun _ _ => rfl) name c

end Setup

end CanDriver
