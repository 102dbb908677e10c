import CanDriver.Proofs.Frames.RoundTrip
import CanDriver.Proofs.Interleaving.Refusal
import CanDriver.Proofs.Sessions.Stopping
import CanDriver.Proofs.Sessions.Success

namespace CanDriver

/-!
# What is left of an interface after a panic

* `Request.takesLock` — the requests that take the lock; `Scenario.perform_refused` — a poisoned lock
  refuses them, and nothing else happens;
* `Session.turns_poisoned`, `Scenario.Sound.steps_stall` — the worker leaves its loop, and whatever else
  happens to the session, but its end, changes nothing of it;
* `Scenario.Barred` — what an interface with a poisoned lock still does: it sends, tells its state, can
  be freed, and can be initialised again;
* `panic_poisons_cleanly` — callbacks end at the first panic, and from then on the interface is like
  that.
-/

open Host Effect

/-- The request takes the lock of the session. -/
def Request.takesLock : Request → Bool
  | .registerRx ..     => true
  | .unregisterRx _    => true
  | .openRx _          => true
  | .closeRx _         => true
  | .registerError _   => true
  | .unregisterError _ => true
  | .pollOnce _        => true
  | .poll _            => true
  | .dispatch _        => true
  | _                  => false

/-- The reply to a request that takes a poisoned lock. -/
def Reply.lockPoisoned : Reply := .failed (.ofCode .lockPoisoned)

/-- The host with the log record of a poisoned lock. -/
def Host.lockRefused (name : String) (h : Host) : Host :=
  h.logged .error .session (name ++ ": unable to lock interface mutex")

/-! ### The worker -/

namespace Session

variable {ε : Type} {s : Session} {h : Host}

/-- Between `s` and `s'` nothing but `worker` changes, which rests, and all effects between `h` and
    `h'` are `Idle`. -/
structure Stalls (s : Session) (h : Host) (s' : Session) (h' : Host) : Prop where
  session : s' = { s with worker := s'.worker }
  rests   : s'.Rests
  idle    : Adds Idle h h'

theorem Stalls.trans {s₁ s' : Session} {h₁ h' : Host} (first : s.Stalls h s₁ h₁)
    (more : s₁.Stalls h₁ s' h') : s.Stalls h s' h' where
  session := by rw [more.session, first.session]
  rests   := more.rests
  idle    := trans_of (Adds Idle) first.idle more.idle

theorem Stalls.poisoned {s' : Session} {h' : Host} (stalls : s.Stalls h s' h') :
    s'.poisoned = s.poisoned := by
  rw [stalls.session]

/-- **`Session.enterWait` on a poisoned session stops the worker**: it asks for the lock before
    anything else. -/
theorem enterWait_poisoned (poisoned : s.poisoned = true) (interval : Duration) (h : Host) :
    ∃ h', (s.enterWait interval : HostM ε Session) h = .ok { s with worker := some .stopped } h' ∧
      s.Stalls h { s with worker := some .stopped } h' := by
  let line : Effect := .record ⟨.error, .session, s.name ++ ": unable to lock interface mutex"⟩
  let ends : Effect := .record ⟨.debug, .worker, s.name ++ ": " ++ "worker stopped"⟩
  refine ⟨_, bind_ok (attempt_error (lock_of_poisoned poisoned h)), rfl, nofun, [line, ends],
    ⟨?_, rfl⟩, ?_⟩
  · exact Array.toList_push.trans (by rw [Array.toList_push, List.append_assoc]; rfl)
  · simp only [List.mem_cons, List.not_mem_nil, or_false, forall_eq_or_imp, forall_eq]
    exact ⟨⟨rfl, rfl, rfl⟩, ⟨rfl, rfl, rfl⟩⟩

/-- `Session.turns` on a poisoned session whose worker rests is `Stalls`. -/
theorem turns_poisoned (interval : Duration) (n : Nat) (poisoned : s.poisoned = true) (rests : s.Rests)
    (h : Host) :
    ∃ s' h', (s.turns interval n : HostM ε Session) h = .ok s' h' ∧ s.Stalls h s' h' := by
  induction n generalizing s h with
  | zero => exact ⟨s, h, rfl, rfl, rests, .of_same rfl rfl⟩
  | succ n ih =>
    have paused : s.Stalls h s (h.past .pause) := ⟨rfl, rests, .of_same rfl rfl⟩
    rw [turns, bind_ok (fault_apply ..)]
    split
    · exact ⟨s, _, rfl, paused⟩
    · -- A worker that rests takes no turn, unless it asks for the lock, which is refused.
      cases is : s.worker with
      | none       => exact ⟨s, _, rfl, paused⟩
      | some phase =>
        cases phase with
        | waiting timeout => exact absurd is (rests timeout)
        | asking =>
          obtain ⟨h₁, entered, one⟩ := enterWait_poisoned (ε := ε) poisoned interval (h.past .pause)
          obtain ⟨s', h', run, more⟩ := ih (one.poisoned.trans poisoned) one.rests h₁
          exact ⟨s', h', (bind_ok entered).trans run, (paused.trans one).trans more⟩
        | stopped  => exact ⟨s, _, rfl, paused⟩
        | panicked => exact ⟨s, _, rfl, paused⟩

/-- `Session.settle` on a poisoned session whose worker rests is `Stalls`. -/
theorem settle_poisoned (interval : Duration) (poisoned : s.poisoned = true) (rests : s.Rests)
    (h : Host) :
    ∃ s' h', (s.settle interval : HostM ε Session) h = .ok s' h' ∧ s.Stalls h s' h' :=
  turns_poisoned interval _ poisoned rests h

end Session

/-! ### Requests -/

/-- `Change.make` on a poisoned session fails before it does anything else. -/
theorem Change.make_poisoned {s : Session} (c : Change) (poisoned : s.poisoned = true) (h : Host) :
    c.make s h = .error (.ofCode .lockPoisoned) (h.lockRefused s.name) := by
  have refused : s.lock h = .error (.ofCode .lockPoisoned) (h.lockRefused s.name) :=
    Session.lock_of_poisoned poisoned h
  cases c <;> exact bind_error (bind_error refused)

namespace Scenario

variable {x : Scenario} {i : Interface} {s : Session} {h : Host}

section Refused

variable (there : x.interface? = some i) (open_ : i.session? = some s) (poisoned : s.poisoned = true)
  (rests : s.Rests)

include there open_ poisoned rests

/-- **A request with `takesLock` is refused by a poisoned lock**: `Scenario.perform` leaves the
    scenario, and adds one log record. -/
theorem perform_refused {q : Request} (takes : q.takesLock = true) (h : Host) :
    (x.perform (.request q) : HostM Empty (Scenario × Reply)) h =
      .ok (x, .lockPoisoned) (h.lockRefused s.name) := by
  obtain ⟨_, event⟩ := x
  obtain rfl := there
  obtain ⟨name, config, link, interval, _⟩ := i
  obtain rfl := open_
  have woken : (s.wake : HostM Empty Session) h = .ok s h := by
    rw [Session.wake_of_rests rests]
    rfl
  -- The worker rests, so that it need not be woken for any of these requests.
  have changes (c : Change) :
      ((⟨some ⟨name, config, link, interval, some s⟩, event⟩ : Scenario).perform (.request c.request) :
        HostM Empty (Scenario × Reply)) h =
        .ok (⟨some ⟨name, config, link, interval, some s⟩, event⟩, .lockPoisoned)
          (h.lockRefused s.name) := by
    rw [c.perform_eq rfl rfl woken, Session.install, c.make_poisoned poisoned]
    rfl
  cases q with
  | registerRx y fs   => exact changes (.registerRx y fs)
  | unregisterRx y    => exact changes (.unregisterRx y)
  | openRx fs         => exact changes (.openRx fs)
  | closeRx fd        => exact changes (.closeRx fd)
  | registerError y   => exact changes (.registerError y)
  | unregisterError y => exact changes (.unregisterError y)
  | poll timeout      =>
    have polled : (s.poll timeout : HostM Empty (Session × Outcome)) h = _ :=
      Session.locked_of_poisoned poisoned _ h
    exact keep_calling rfl woken polled event
  | dispatch e?       =>
    have delivered : (s.dispatch (e?.getD event) : HostM Empty (Session × Outcome)) h = _ :=
      Session.locked_of_poisoned poisoned _ h
    exact keep_calling rfl woken delivered event
  | pollOnce timeout  =>
    have once : (s.pollOnce timeout event : HostM Empty _) h =
        .ok (s, event, .error (.ofCode .lockPoisoned)) (h.lockRefused s.name) :=
      bind_ok (attempt_error (Session.lock_of_poisoned poisoned h))
    exact (bind_ok woken).trans (bind_ok once)
  | _                 => cases takes

/-- **`Scenario.perform` leaves a poisoned session as it is**, for every operation that leaves it
    to go on. -/
theorem perform_stalls {op : Operation} (stays : op.staysOpen = true) (h : Host) :
    ∃ r h', (x.perform op : HostM Empty (Scenario × Reply)) h = .ok r h' ∧
      r.1.session? = some s ∧ r.1.event = x.event ∧ Adds Idle h h' := by
  have found : x.session? = some s := (session?_of_interface there).trans open_
  cases op with
  | incident what =>
    by_cases ticks : what = .tick
    · subst ticks
      have ticked : (s.tick : HostM Empty (Session × Bool)) h = .ok (s, false) h := by
        rw [Session.tick_of_rests rests]
        rfl
      obtain ⟨_, event⟩ := x
      obtain rfl := there
      exact ⟨_, h, perform_tick open_ ticked event, rfl, rfl, .of_same rfl rfl⟩
    · obtain ⟨r, h', run⟩ := exists_ok (x.perform (.incident what)) h
      have idle := beside_idle (ε := Empty) (x := x) ticks h
      have same := beside_same ticks run
      rw [run] at idle
      exact ⟨r, h', run, by rw [same, found], by rw [same], idle⟩
  | request q =>
    -- What takes the lock is refused, and what does not has no part of the session to change.
    cases takes : q.takesLock with
    | true =>
      refine ⟨_, _, perform_refused there open_ poisoned rests takes h, found, rfl, ?_⟩
      exact Emits.log_idle (ε := Empty) h
    | false =>
      obtain ⟨_, event⟩ := x
      obtain rfl := there
      cases q with
      | init c       => cases stays
      | free         => cases stays
      | drop         => cases stays
      | setInterval d => exact ⟨_, h, rfl, open_, rfl, .of_same rfl rfl⟩
      | txSocket      => exact ⟨_, h, rfl, open_, rfl, .of_same rfl rfl⟩
      | state         => exact ⟨_, h, rfl, open_, rfl, .of_same rfl rfl⟩
      | transmit f?   =>
        cases f? with
        | none   => exact ⟨_, h, rfl, open_, rfl, .of_same rfl rfl⟩
        | some f =>
          obtain ⟨reply, h', run, idle⟩ := perform_transmit i f event h
          exact ⟨_, h', run, open_, rfl, idle⟩
      | _             => cases takes

end Refused

/-- `Scenario.settle` is `Stalls` on a poisoned session. -/
theorem settle_stalls (found : x.session? = some s) (poisoned : s.poisoned = true) (rests : s.Rests)
    (h : Host) :
    ∃ x' s' h', (x.settle : HostM Empty Scenario) h = .ok x' h' ∧ x'.session? = some s' ∧
      s.Stalls h s' h' ∧ x'.event = x.event := by
  obtain ⟨_ | i, event⟩ := x
  · cases found
  · have open_ : i.session? = some s := found
    obtain ⟨s', h', run, stalls⟩ := s.settle_poisoned (ε := Empty) i.interval poisoned rests h
    exact ⟨_, s', h', settle_apply open_ run event, rfl, stalls, rfl⟩

namespace Sound

variable (sound : x.Sound h)

include sound

/-- **`Scenario.scriptedSteps` is `Stalls` on a poisoned session**, where every operation leaves it
    to go on; the event that was read last stays. By induction on the script, with `perform_stalls`
    and `settle_stalls`. -/
theorem steps_stall (script : List (Link × Operation)) (found : x.session? = some s)
    (poisoned : s.poisoned = true) (stays : ∀ entry ∈ script, entry.2.staysOpen = true) :
    ∃ x' s' h', scriptedSteps script x h = .ok x' h' ∧ x'.session? = some s' ∧ s.Stalls h s' h' ∧
      x'.event = x.event := by
  -- On the script. `Sound` is what makes the worker rest again behind each step.
  induction script generalizing x s h with
  | nil => exact ⟨x, s, h, rfl, found, ⟨rfl, sound.attended s found poisoned, .of_same rfl rfl⟩, rfl⟩
  | cons entry script ih =>
    obtain ⟨link, op⟩ := entry
    obtain ⟨first, rest⟩ := List.forall_mem_cons.mp stays
    have found₀ : (x.withLink link).session? = some s := (session?_withLink link x).trans found
    obtain ⟨i, there, open_⟩ := Option.bind_eq_some_iff.mp found₀
    have rests := sound.attended s found poisoned
    obtain ⟨r, h₁, performed, found₁, event₁, idle⟩ :=
      perform_stalls there open_ poisoned rests first h
    obtain ⟨x₂, s₂, h₂, settled, found₂, stalls, event₂⟩ := settle_stalls found₁ poisoned rests h₁
    have step : ((x.withLink link).step op : HostM Empty (Scenario × Reply)) h = .ok (x₂, r.2) h₂ :=
      (bind_ok performed).trans (bind_ok settled)
    have one : s.Stalls h s₂ h₂ :=
      ⟨stalls.session, stalls.rests, trans_of (Adds Idle) idle stalls.idle⟩
    -- The step is the one that keeps `Sound`.
    obtain ⟨r', h', step', sound₂, -⟩ := (sound.withLink link).step op
    obtain ⟨rfl, rfl⟩ := EStateM.Result.ok.inj (step.symm.trans step')
    obtain ⟨x', s', h', runs, found', more, event'⟩ :=
      ih sound₂ found₂ (one.poisoned.trans poisoned) rest
    refine ⟨x', s', h', ?_, found', one.trans more, event'.trans (event₂.trans event₁)⟩
    rw [scriptedSteps, bind_ok step]
    exact runs

end Sound

/-! ### What an interface still does -/

/-- The `Status` of an interface whose worker rests. -/
def restingStatus (i : Interface) (s : Session) (k : Kernel) : Status where
  name          := i.name
  initialized   := true
  mode          := some (if s.config.polled then .exclusive else .shared)
  config        := i.config
  interval      := i.interval
  dropped       := s.dropped
  txBuffer      := s.txBuffer
  rxBuffer      := s.rxBuffer
  openSockets   := k.openFds
  workerTimeout := none

/-- `Scenario.perform` of `.txSocket` replies the transmit socket. -/
theorem perform_txSocket (there : x.interface? = some i) (open_ : i.session? = some s) (h : Host) :
    (x.perform (.request .txSocket) : HostM Empty (Scenario × Reply)) h = .ok (x, .socket s.tx) h := by
  obtain ⟨_, event⟩ := x
  obtain rfl := there
  obtain ⟨name, config, link, interval, _⟩ := i
  obtain rfl := open_
  rfl

/-- `Scenario.perform` of `.state` replies `restingStatus`. -/
theorem perform_state (there : x.interface? = some i) (open_ : i.session? = some s) (rests : s.Rests)
    (h : Host) :
    (x.perform (.request .state) : HostM Empty (Scenario × Reply)) h =
      .ok (x, .status (restingStatus i s h.kernel)) h := by
  have waits : i.workerTimeout? = none := by
    rw [Interface.workerTimeout?, open_, Option.bind_some]
    split
    · next timeout waits => exact absurd waits (rests timeout)
    · rfl
  have told : (statusOf i : HostM Empty Status) h = .ok (restingStatus i s h.kernel) h := by
    unfold statusOf restingStatus
    rw [bind_ok (ask_apply ..), waits, Interface.mode?, Interface.dropped, Interface.txBuffer,
      Interface.rxBuffer, open_]
    rfl
  obtain ⟨_, event⟩ := x
  obtain rfl := there
  change keep event _ h = _
  unfold keep
  rw [bind_assoc, bind_ok told]
  rfl

/-- What an interface `i` with the session `s` still does once the lock is poisoned. -/
structure Barred (x : Scenario) (i : Interface) (s : Session) (h : Host) : Prop where
  /-- What takes the lock is refused with a log record, and nothing else happens. -/
  refused  : ∀ q : Request, q.takesLock = true →
    (x.perform (.request q) : HostM Empty (Scenario × Reply)) h =
      .ok (x, .lockPoisoned) (h.lockRefused s.name)
  /-- The sockets of the session are open. -/
  held     : ∀ fd ∈ s.sockets, fd ∈ h.kernel.openFds
  /-- The worker rests, and stops when it asks for the lock. -/
  rests    : s.Rests
  leaves   : ∀ interval (h : Host), ∃ h',
    (s.enterWait interval : HostM Empty Session) h = .ok { s with worker := some .stopped } h' ∧
      Adds Idle h h'
  /-- Frames are sent, and requests without the lock are answered. -/
  sends    : ∀ f, i.Sends f s.tx (f.datagram s.config.fd)
  txSocket : (x.perform (.request .txSocket) : HostM Empty (Scenario × Reply)) h =
    .ok (x, .socket s.tx) h
  state    : (x.perform (.request .state) : HostM Empty (Scenario × Reply)) h =
    .ok (x, .status (restingStatus i s h.kernel)) h
  /-- `.free` and `.drop` end the session as `Released` has it, and then the link is
      asked to stop. -/
  ends     : ∀ link, ∃ kept h₁ result h',
    (i.withLink link).Stopped s kept h h₁ result h' ∧
      ((x.withLink link).step (.request .free) : HostM Empty (Scenario × Reply)) h =
        .ok (⟨none, x.event⟩, .ofResult result) h' ∧
      ((x.withLink link).step (.request .drop) : HostM Empty (Scenario × Reply)) h =
        .ok (⟨none, x.event⟩, .done) h' ∧
      ∀ t ∈ kept, ∀ (h : Host) n, h.kernel.detached[n]? = some t → ∃ h' es,
        (Session.endDetached n : HostM Empty Bool) h = .ok true h' ∧
        h'.journal.toList = h.journal.toList ++ es ∧ closed es = t.sockets
  /-- An initialisation ends the session as `Released` has it, and is `Initialised`. Where nothing
      refuses it, there is a new session, whose lock is free. -/
  starts   : ∀ link c, ∃ kept h₁ made i' result h',
    ((x.withLink link).perform (.request (.init c)) : HostM Empty (Scenario × Reply)) h =
        .ok (⟨some i', x.event⟩, .ofResult result) h' ∧
      (i.withLink link).Released kept h h₁ ∧
      ({ i with link, session? := none } : Interface).Initialised c h₁ made i' result h' ∧
      (h.kernel.Grants i.name c → (∀ r ∈ c.requests, link.verdict r = none) →
        result = .ok () ∧ ∃ s', i'.session? = some s' ∧ ∀ h, s'.lock h = .ok () h)

/-- **A sound scenario whose session is poisoned is `Barred`.** The worker rests, as `Attended` has
    it, and the interface is still coherent for its end or for a new start. -/
theorem Sound.barred (sound : x.Sound h) (there : x.interface? = some i)
    (open_ : i.session? = some s) (poisoned : s.poisoned = true) : x.Barred i s h := by
  have found : x.session? = some s := (session?_of_interface there).trans open_
  have rests := sound.attended s found poisoned
  have linked (link : Link) : (x.withLink link).interface? = some (i.withLink link) := by
    rw [Scenario.withLink, there, Option.map_some]
  have coherent (link : Link) : (i.withLink link).Coherent := fun s there' =>
    sound.coherent s ((session?_of_interface there).trans there')
  have holds (link : Link) : h.Holds ((i.withLink link).estate h.kernel.detached) :=
    estate_of_interface there ▸ sound.holds
  -- The lock, the sockets and the requests that need no lock; then the worker, an end, and a new
  -- start.
  refine ⟨fun q takes => perform_refused there open_ poisoned rests takes h,
    fun _ => (sound.session_holds found).mem_open, rests, ?_, Interface.sends open_,
    perform_txSocket there open_ h, perform_state there open_ rests h, ?_, ?_⟩
  · intro interval h
    obtain ⟨h', run, stalls⟩ := s.enterWait_poisoned (ε := Empty) poisoned interval h
    exact ⟨h', run, stalls.idle⟩
  · intro link
    obtain ⟨kept, h₁, result, h', done, stopped⟩ :=
      Interface.shutdown_stopped (s := s) (coherent link) (holds link) open_
    refine ⟨kept, h₁, result, h', stopped, step_free (linked link) done,
      step_drop (linked link) done, ?_⟩
    intro t _ h n kept
    obtain ⟨h', es, run, journal, closes, -⟩ := Session.endDetached_closes kept
    exact ⟨h', es, run, journal, closes⟩
  · intro link c
    obtain ⟨kept, h₁, made, i', result, h', done, released, initialised⟩ :=
      Interface.init_initialised c (coherent link) (holds link)
    refine ⟨kept, h₁, made, i', result, h', perform_init (linked link) done, released, initialised, ?_⟩
    intro grants granted
    have resting : ∀ s', (i.withLink link).session? = some s' → s'.Rests := fun s' own =>
      Option.some.inj (open_.symm.trans own) ▸ rests
    obtain ⟨_, _, succeeds⟩ := Interface.init_succeeds resting grants granted
    obtain ⟨same, -⟩ := EStateM.Result.ok.inj (done.symm.trans succeeds)
    obtain ⟨-, rfl⟩ := Prod.mk.inj same
    obtain ⟨r, running⟩ := initialised.running rfl
    exact ⟨rfl, _, running.session, Session.lock_of_sound rfl⟩

end Scenario

/-! ### All panics -/

/-- Every `Calling` in the session is `Contained`: it makes its callbacks up to a panic, and nothing
    but `dropped` and `poisoned` changes. -/
def Session.ContainsPanics (s : Session) : Prop :=
  ∀ (c : Calling) (h : Host), c.Fits s → ∃ s' outcome h',
    (c.run s : HostM Empty (Session × Outcome)) h = .ok (s', outcome) h' ∧
      s.Contained h (c.sequence s h.kernel) s' (outcome == .panicked) h'

/-- **A panic poisons a session cleanly.** Take an interface after any steps, under all failures
    that are scripted and all answers of the link. While the lock of its session is not poisoned,
    every operation that calls handlers with the lock, of a caller or of the worker, makes its
    callbacks in order up to the first that panics, and the lock is poisoned exactly if one does. So
    it is with all steps together that leave the session to go on: behind a panic nobody is called.
    From then on, whatever takes the lock is refused and does nothing; no step changes anything of
    the session but that its worker ends; and the interface still sends, tells its state, can be
    freed and can be initialised again. Nor does anybody come to the session where callers, worker
    and release take their single steps in any order. -/
theorem panic_poisons_cleanly (links : List NetworkLink) (faults : Faults) (traffic : List Item)
    (name : String) (script : List (Link × Operation)) :
    (∃ x h, Scenario.scripted name script (.start links faults traffic) = .ok x h ∧
      ∀ i s, x.interface? = some i → i.session? = some s →
        (∀ s₁ : Session, s₁.waitSet = s.waitSet → s₁.poisoned = false → s₁.ContainsPanics) ∧
        (s.poisoned = true → x.Barred i s h) ∧
        ∀ more, (∀ entry ∈ more, entry.2.staysOpen = true) → ∃ x' i' s' h',
          Scenario.scriptedSteps more x h = .ok x' h' ∧ x'.interface? = some i' ∧
            i'.session? = some s' ∧ s.Marks h s' h' ∧ (s'.poisoned = true → x'.Barred i' s' h') ∧
            (s.poisoned = true → s.Stalls h s' h' ∧ x'.event = x.event)) ∧
    ∀ (policy : ShutdownPolicy) (n : Nat) (session : Session) (host : Host) (s t : Interleaving.State),
      Relation.ReflTransGen (Interleaving.FreeStep policy) (.start n session host) s →
      s.session.poisoned = true → s.lock = none →
      Relation.ReflTransGen (Interleaving.FreeStep policy) s t → Interleaving.ShutOut policy s t := by
  -- The single steps are settled by `Interleaving.shutOut_of_poisoned`, all others behind `Sound`.
  refine ⟨?_, fun policy n session host s t => Interleaving.shutOut_of_poisoned⟩
  obtain ⟨x, h, run, sound⟩ := Scenario.exists_sound links faults traffic name script
  refine ⟨x, h, run, fun i s there open_ => ?_⟩
  have found : x.session? = some s := (Scenario.session?_of_interface there).trans open_
  refine ⟨?_, sound.barred there open_, fun more stays => ?_⟩
  · intro s₁ same free c h fits
    exact c.contained (same ▸ sound.apart found) free fits h
  · obtain ⟨x', h', runs, sound', goes⟩ := sound.steps more
    obtain ⟨s', found', marks⟩ := goes stays s found
    obtain ⟨i', there', open'⟩ := Option.bind_eq_some_iff.mp found'
    refine ⟨x', i', s', h', runs, there', open', marks, sound'.barred there' open', fun poisoned => ?_⟩
    -- Both runs are the same: the marks are from the one, that nothing changes is from the other.
    obtain ⟨x₁, s₁, h₁, runs₁, found₁, stalls, event⟩ := sound.steps_stall more found poisoned stays
    obtain ⟨rfl, rfl⟩ := EStateM.Result.ok.inj (runs₁.symm.trans runs)
    obtain rfl := Option.some.inj (found₁.symm.trans found')
    exact ⟨stalls, event⟩

/-- An interface without a worker whose handlers are registered in order; then `items` arrive, and
    one poll delivers them. -/
def Scenario.delivering (receivers : List RxHandler) (observers : List ErrorHandler)
    (items : List (Fd × Item)) : List (Link × Operation) :=
  let requests := [.init { Config.default with polled := true }] ++ receivers.map (.registerRx · []) ++
    observers.map .registerError
  (requests.map .request ++ [.incident (.deliver items), .request (.poll none)]).map (.recorder .none, ·)

/-- Handlers in the sockets 101 to 103, of which that of 102 panics at its second call; three frames
    wait in 102, and one in each of the others. -/
def Scenario.secondCallPanics : List (Link × Operation) :=
  let frame : Item := .datagram (List.replicate 16 0) []
  delivering [⟨"first", .returns⟩, ⟨"second", .panicsAt [1]⟩, ⟨"third", .returns⟩] []
    [(101, frame), (102, frame), (102, frame), (102, frame), (103, frame)]

/-- Two observers, of which the first panics at its second call; one error frame waits, of which
    each is told twice. -/
def Scenario.secondRoundPanics : List (Link × Operation) :=
  let frame : Item := .datagram ([0, 0, 0, 0x20] ++ List.replicate 12 0) []
  delivering [⟨"first", .returns⟩] [.observer "early" (.panicsAt [1]), .observer "late" .returns]
    [(101, frame)]

/-- The names of the handlers that were called, in order, and whether the lock is poisoned
    in the end. -/
def Scenario.calledAndPoisoned (script : List (Link × Operation)) : List String × Option Bool :=
  match scripted "can0" script (.start [⟨"can0", 3, fdSize⟩] .none []) with
  | .ok x h        =>
    let name : Callback → Option String
      | .frame y ..                    => some y.name
      | .notice (.observer name _) _   => some name
      | _                              => none
    (h.journal.callbacks.filterMap name, x.session?.map (·.poisoned))
  | .error never _ => never.elim

/-- The second call of a handler panics, at the second datagram of its socket or in the second
    round of notices. Nobody is called behind it, and the lock is refused, to callers in single
    steps too. -/
theorem panic_poisons_cleanly_second :
    Scenario.calledAndPoisoned Scenario.secondCallPanics = (["first", "second", "second"], some true) ∧
      Scenario.calledAndPoisoned Scenario.secondRoundPanics = (["early", "late", "early"], some true) ∧
      (∃ x h i s, Scenario.scripted "can0" Scenario.secondCallPanics
          (.start [⟨"can0", 3, fdSize⟩] .none []) = .ok x h ∧
        x.interface? = some i ∧ i.session? = some s ∧ s.poisoned = true ∧ x.Barred i s h) ∧
      ∃ s, Relation.ReflTransGen (Interleaving.FreeStep .join) (.start 1 .listening .withOutage) s ∧
        s.caller? 0 = some .asking ∧ s.session.poisoned = true ∧
        Interleaving.Step .join s (s.move 0 .refused) := by
  have replies : Scenario.calledAndPoisoned Scenario.secondCallPanics =
      (["first", "second", "second"], some true) := by decide +kernel
  obtain ⟨⟨x, h, run, more⟩, shutsOut⟩ :=
    panic_poisons_cleanly [⟨"can0", 3, fdSize⟩] .none [] "can0" Scenario.secondCallPanics
  refine ⟨replies, by decide +kernel, ?_, ?_⟩
  · -- The lock is poisoned where the theorem starts.
    rw [Scenario.calledAndPoisoned, run] at replies
    obtain ⟨s, found, poisoned⟩ := Option.map_eq_some_iff.mp (Prod.mk.inj replies).2
    obtain ⟨i, there, open_⟩ := Option.bind_eq_some_iff.mp found
    exact ⟨x, h, i, s, run, there, open_, poisoned, (more i s there open_).2.1 poisoned⟩
  · have first : Interleaving.Steps .join (.start 1 .listening .withOutage)
        (.start 1 .listening .withOutage) := .refl
    have held := ((first.tail (.count (i := 0) rfl)).tail (.wake (i := 0) rfl)).tail
      (.acquire (i := 0) rfl rfl rfl)
    -- The caller's handler panics, and the caller gives the lock back.
    have panicked :=
      held.tail (.use { Session.listening with poisoned := true } .withOutage (i := 0) rfl rfl)
    have free := ((panicked.tail (.uncount (i := 0) rfl)).tail (.unlock (i := 0) rfl)).free
    have shut := shutsOut .join 1 .listening .withOutage _ _ free rfl rfl
      (.tail (.single (.step (.count (i := 0) rfl))) (.step (.wake (i := 0) rfl)))
    have again := (free.tail (.step (.count (i := 0) rfl))).tail (.step (.wake (i := 0) rfl))
    exact ⟨_, again, rfl, rfl, shut.callers 0 rfl⟩

end CanDriver
