import CanDriver.Proofs.Polling.Panics
import CanDriver.Proofs.Sessions.Atomicity
import CanDriver.Proofs.Sessions.Settings
import CanDriver.Proofs.Sessions.Silence
import CanDriver.Proofs.Sockets.Coherence

namespace CanDriver

/-!
# A panic is the last that is heard of a session

* `Session.Attended` — a worker that waits has a lock that is not poisoned;
* `Session.Marks` — what a session has become: its handlers were called up to a panic, and the panic
  has poisoned the lock;
* `Session.wake_marks`, `Session.settle_marks`, … — all that the worker does is `Marks`, and so are the
  operations of callers (`Scenario.perform_marks`);
* `Scenario.Sound` — what holds of an interface after any steps at all; `Scenario.Sound.step`,
  `Scenario.Sound.steps` — steps keep `Sound`, and those that leave the session to go on are `Marks`.
-/

open Host Callback Effect

/-! ### What an operation answers -/

/-- Whatever `m` answers has `P`. A computation that fails answers nothing. -/
def Answers {ε α : Type} (P : α → Prop) (m : HostM ε α) : Prop := ∀ h a h', m h = .ok a h' → P a

namespace Answers

variable {ε α β : Type} {P : α → Prop} {Q : β → Prop} {m : HostM ε α} {f : α → HostM ε β}

theorem pure {a : α} (holds : P a) : Answers P (Pure.pure a : HostM ε α) := fun _ _ _ run =>
  (EStateM.Result.ok.inj run).1 ▸ holds

theorem throw {e : ε} : Answers P (MonadExcept.throw e : HostM ε α) := fun _ _ _ run => nomatch run

theorem bind_of (first : Answers P m) (more : ∀ a, P a → Answers Q (f a)) : Answers Q (m >>= f) := by
  intro h b h' run
  obtain ⟨a, h₁, one, rest⟩ := of_bind_ok run
  exact more a (first h a h₁ one) h₁ b h' rest

/-- `Answers Q (m >>= f)` from what `f` answers alone. -/
theorem bind (more : ∀ a, Answers Q (f a)) : Answers Q (m >>= f) := fun _ b h' run =>
  let ⟨a, h₁, _, rest⟩ := of_bind_ok run
  more a h₁ b h' rest

theorem throw_bind {e : ε} : Answers Q ((MonadExcept.throw e : HostM ε α) >>= f) := fun _ _ _ run =>
  nomatch run

end Answers

namespace Session

variable {ε : Type} {s s₁ s' : Session} {h h₁ h' : Host}

/-- `poisoned` and `worker` are the same. -/
structure Kept (s s' : Session) : Prop where
  poisoned : s'.poisoned = s.poisoned
  worker   : s'.worker = s.worker

theorem addSocket_kept {fs : List Filter} : Answers (fun r => s.Kept r.1) (s.addSocket fs) :=
  .bind fun _ => .pure ⟨rfl, rfl⟩

/-- `Change.make` answers a session with `Kept`. -/
theorem make_kept (c : Change) : Answers (fun r => s.Kept r.1) (c.make s) := by
  have made {α : Type} {m : HostM Failure Session} {a : α} (course : Answers s.Kept m) :
      Answers (fun r : Session × α => s.Kept r.1) (do return (← m, a)) :=
    course.bind_of fun _ kept => .pure kept
  have opened {m : HostM Failure (Session × Fd)} (course : Answers (fun r => s.Kept r.1) m) :
      Answers (fun r : Session × Option Fd => s.Kept r.1) (do let r ← m; return (r.1, some r.2)) :=
    course.bind_of fun _ kept => .pure kept
  -- Each change only touches the registry, the wait-set and the size of the buffer.
  cases c with
  | registerRx x fs =>
    refine opened (.bind fun _ => ?_)
    split
    · exact .bind fun _ => .throw_bind
    · refine addSocket_kept.bind_of ?_
      rintro ⟨s₁, fd⟩ kept
      dsimp only
      split
      · exact .bind fun _ => .throw
      · exact .bind fun _ => .pure ⟨kept.poisoned, kept.worker⟩
  | unregisterRx x =>
    refine made (.bind fun _ => ?_)
    split
    · exact .bind fun _ => .throw
    · dsimp only
      split
      · exact .bind fun _ => .bind fun _ => .pure ⟨rfl, rfl⟩
      · exact .bind fun _ => .pure ⟨rfl, rfl⟩
  | openRx fs =>
    refine opened (.bind fun _ => addSocket_kept.bind_of ?_)
    rintro ⟨s₁, fd⟩ kept
    exact .bind fun _ => .pure kept
  | closeRx fd =>
    refine made (.bind fun _ => ?_)
    dsimp only
    split
    · exact .bind fun _ => .pure ⟨rfl, rfl⟩
    · exact .bind fun _ => .pure ⟨rfl, rfl⟩
  | registerError x =>
    refine made (.bind fun _ => ?_)
    split
    · exact .pure ⟨rfl, rfl⟩
    · exact .bind fun _ => .throw
  | unregisterError x =>
    refine made (.bind fun _ => ?_)
    split
    · exact .pure ⟨rfl, rfl⟩
    · exact .bind fun _ => .throw

/-- `Change.make` makes no callback. -/
theorem make_silent (c : Change) : Emits Silent (c.make s) := by
  cases c with
  | registerRx x fs   => exact registerRx_silent.bind fun _ => .pure
  | unregisterRx x    => exact unregisterRx_silent.bind fun _ => .pure
  | openRx fs         => exact openRx_silent.bind fun _ => .pure
  | closeRx fd        => exact closeRx_silent.bind fun _ => .pure
  | registerError x   => exact registerError_silent.bind fun _ => .pure
  | unregisterError x => exact unregisterError_silent.bind fun _ => .pure

/-! ### Panics, and the lock -/

/-- The worker is not in a wait. -/
def Rests (s : Session) : Prop := ∀ timeout, s.worker ≠ some (.waiting timeout)

/-- A worker in a wait has a lock that is not poisoned. -/
def Attended (s : Session) : Prop := s.poisoned = true → s.Rests

/-- What the callbacks between `h` and `h'` have made of `s`. They are none where the lock was
    poisoned before; otherwise at most the last panics, and a panic has poisoned the lock. -/
structure Marks (s : Session) (h : Host) (s' : Session) (h' : Host) : Prop where
  callbacks : ∃ made panicked, UpToPanic h.journal.callbacks made made panicked ∧
    h'.journal.callbacks = h.journal.callbacks ++ made ∧
    s'.poisoned = (s.poisoned || panicked) ∧ (s.poisoned = true → made = [])
  attended  : s'.Attended

/-- Callbacks `made` by `UpToPanic` are `UpToPanic` of themselves. -/
theorem upToPanic_again {called all made : List Callback} {panicked : Bool}
    (cut : UpToPanic called all made panicked) : UpToPanic called made made panicked := by
  cases cut with
  | whole returns           => exact .whole returns
  | cut split returns stops => exact .cut rfl returns stops

namespace Marks

/-- `Marks` without callbacks, where `poisoned` stays. -/
theorem silent (calls : h'.journal.callbacks = h.journal.callbacks)
    (same : s'.poisoned = s.poisoned) (attended : s'.Attended) : s.Marks h s' h' where
  callbacks := ⟨[], false, .whole rfl, by rw [calls, List.append_nil], by rw [same, Bool.or_false],
    fun _ => rfl⟩
  attended  := attended

theorem trans (first : s.Marks h s₁ h₁) (more : s₁.Marks h₁ s' h') : s.Marks h s' h' := by
  obtain ⟨made, panicked, cut, callbacks, poisoned, none_⟩ := first.callbacks
  obtain ⟨others, panicked', cut', callbacks', poisoned', none_'⟩ := more.callbacks
  have journal : h'.journal.callbacks = h.journal.callbacks ++ (made ++ others) := by
    rw [callbacks', callbacks, List.append_assoc]
  -- The calls made first count among those that were made before the others.
  rw [callbacks] at cut'
  cases panicked with
  | false =>
    rw [Bool.or_false] at poisoned
    refine ⟨⟨made ++ others, panicked', cut.append cut', journal, poisoned ▸ poisoned', ?_⟩,
      more.attended⟩
    intro before
    rw [none_ before, none_' (poisoned.trans before), List.append_nil]
  | true =>
    -- Nobody is called any more.
    rw [Bool.or_true] at poisoned
    obtain rfl := none_' poisoned
    rw [List.append_nil] at journal
    refine ⟨⟨made, true, cut, journal, ?_, none_⟩, more.attended⟩
    rw [poisoned', poisoned, Bool.true_or, Bool.or_true]

end Marks

/-- `Contained` by a lock that was free is `Marks`, whatever follows it without a callback. -/
theorem Contained.marks {all : List Callback} {panicked : Bool}
    (one : s.Contained h all s₁ panicked h₁) (free : s.poisoned = false)
    (same : s'.poisoned = s₁.poisoned) (attended : s'.Attended)
    (silent : h'.journal.callbacks = h₁.journal.callbacks) : s.Marks h s' h' := by
  obtain ⟨⟨made, cut, callbacks⟩, dropped, rfl⟩ := one
  refine ⟨⟨made, panicked, upToPanic_again cut, silent.trans callbacks, same, ?_⟩, attended⟩
  exact fun poisoned => nomatch free.symm.trans poisoned

/-! ### The worker -/

/-- `Session.afterPoll` sets the worker to a state that is no wait, and makes no callback. -/
theorem afterPoll_apply (outcome : Outcome) (s : Session) (h : Host) :
    ∃ w h', (s.afterPoll outcome : HostM ε Session) h = .ok { s with worker := some w } h' ∧
      (∀ timeout, w ≠ .waiting timeout) ∧ h'.journal.callbacks = h.journal.callbacks := by
  cases outcome with
  | done     => exact ⟨.asking, h, rfl, nofun, rfl⟩
  | panicked => exact ⟨.panicked, h, rfl, nofun, rfl⟩
  | failed f => exact ⟨.asking, _, rfl, nofun, Journal.callbacks_push_silent rfl _⟩

/-- A `Calling` of the worker and its `Session.afterPoll` is `Marks`, and the worker rests. -/
theorem polled_marks (c : Calling) (apart : s.waitSet.Apart) (free : s.poisoned = false)
    (fits : c.Fits s) (h : Host) :
    ∃ s' h', (do let (s, outcome) ← c.run s; s.afterPoll outcome : HostM ε Session) h = .ok s' h' ∧
      s.Marks h s' h' ∧ s'.waitSet = s.waitSet ∧ s'.Rests := by
  obtain ⟨s₁, outcome, h₁, run, contained⟩ := c.contained (ε := ε) apart free fits h
  obtain ⟨w, h', next, rests, silent⟩ := afterPoll_apply (ε := ε) outcome s₁ h₁
  have out : Rests { s₁ with worker := some w } := fun timeout is => rests timeout (Option.some.inj is)
  refine ⟨_, h', (bind_ok run).trans next, contained.marks free rfl (fun _ => out) silent, ?_, out⟩
  obtain ⟨dropped, rfl⟩ := contained.session
  rfl

/-- An attended worker waits with a lock that is free, or rests. -/
theorem Attended.cases (attended : s.Attended) :
    (∃ timeout, s.worker = some (.waiting timeout) ∧ s.poisoned = false) ∨ s.Rests := by
  by_cases waits : ∃ timeout, s.worker = some (.waiting timeout)
  · obtain ⟨timeout, waits⟩ := waits
    exact .inl ⟨timeout, waits, Bool.eq_false_iff.mpr fun poisoned => attended poisoned timeout waits⟩
  · exact .inr fun timeout is => waits ⟨timeout, is⟩

/-- `Session.wake` does nothing where the worker rests. -/
theorem wake_of_rests (rests : s.Rests) : (s.wake : HostM ε Session) = pure s := by
  unfold wake
  split
  · next timeout waits => exact absurd waits (rests timeout)
  · rfl

/-- `Session.tick` does nothing where the worker rests. -/
theorem tick_of_rests (rests : s.Rests) : (s.tick : HostM ε (Session × Bool)) = pure (s, false) := by
  unfold tick
  split
  · next timeout waits => exact absurd waits (rests timeout)
  · rfl

/-- `Session.wake` is `Marks`, and leaves a worker that rests. -/
theorem wake_marks (apart : s.waitSet.Apart) (attended : s.Attended) (h : Host) :
    ∃ s' h', (s.wake : HostM ε Session) h = .ok s' h' ∧ s.Marks h s' h' ∧ s'.waitSet = s.waitSet ∧
      s'.Rests := by
  obtain ⟨timeout, waits, free⟩ | rests := attended.cases
  · rw [wake, waits]
    exact polled_marks (.workerPoll true) apart free trivial h
  · rw [wake_of_rests rests]
    exact ⟨s, h, rfl, .silent rfl rfl attended, rfl, rests⟩

/-- `Session.enterWait` is `Marks`: it makes no callback, and with a poisoned lock the
    worker stops. -/
theorem enterWait_marks (interval : Duration) (s : Session) (h : Host) :
    ∃ s' h', (s.enterWait interval : HostM ε Session) h = .ok s' h' ∧ s.Marks h s' h' ∧
      s'.waitSet = s.waitSet := by
  unfold enterWait
  cases poisoned : s.poisoned with
  | true =>
    rw [bind_ok (attempt_error (lock_of_poisoned poisoned h))]
    refine ⟨_, _, rfl, .silent ?_ poisoned.symm fun _ => nofun, rfl⟩
    exact (Journal.callbacks_push_silent rfl _).trans (Journal.callbacks_push_silent rfl _)
  | false =>
    rw [bind_ok (attempt_lock poisoned)]
    exact ⟨_, _, rfl, .silent (Journal.callbacks_push_silent rfl _) poisoned.symm nofun, rfl⟩

/-- `Session.turns` is `Marks`, however many turns are allowed. -/
theorem turns_marks (interval : Duration) (n : Nat) (apart : s.waitSet.Apart) (attended : s.Attended)
    (h : Host) :
    ∃ s' h', (s.turns interval n : HostM ε Session) h = .ok s' h' ∧ s.Marks h s' h' := by
  -- On the number of turns: each is a poll that is contained, or a wait that is begun.
  induction n generalizing s h with
  | zero => exact ⟨s, h, rfl, .silent rfl rfl attended⟩
  | succ n ih =>
    have paused : s.Marks h s (h.past .pause) := .silent rfl rfl attended
    rw [turns, bind_ok (fault_apply ..)]
    split
    · exact ⟨s, _, rfl, paused⟩
    · obtain ⟨timeout, waits, free⟩ | rests := attended.cases
      · -- A wait whose sockets are ready ends with a poll.
        rw [waits]
        dsimp only
        rw [bind_ok (ask_apply ..)]
        split
        · obtain ⟨s₁, h₁, polled, one, same, -⟩ :=
            polled_marks (ε := ε) (.workerPoll false) apart free trivial (h.past .pause)
          obtain ⟨s', h', run, more⟩ := ih (same ▸ apart) one.attended h₁
          have goes := (bind_ok (f := turns interval n) polled).trans run
          rw [bind_assoc] at goes
          exact ⟨s', h', goes, (paused.trans one).trans more⟩
        · exact ⟨s, _, rfl, paused⟩
      · cases is : s.worker with
        | none       => exact ⟨s, _, rfl, paused⟩
        | some phase =>
          cases phase with
          | waiting timeout => exact absurd is (rests timeout)
          | asking =>
            obtain ⟨s₁, h₁, entered, one, same⟩ := enterWait_marks (ε := ε) interval s (h.past .pause)
            obtain ⟨s', h', run, more⟩ := ih (same ▸ apart) one.attended h₁
            exact ⟨s', h', (bind_ok entered).trans run, (paused.trans one).trans more⟩
          | stopped  => exact ⟨s, _, rfl, paused⟩
          | panicked => exact ⟨s, _, rfl, paused⟩

/-- `Session.settle` is `Marks`. -/
theorem settle_marks (interval : Duration) (apart : s.waitSet.Apart) (attended : s.Attended)
    (h : Host) :
    ∃ s' h', (s.settle interval : HostM ε Session) h = .ok s' h' ∧ s.Marks h s' h' :=
  turns_marks interval _ apart attended h

/-- `Session.tick` is `Marks`: the wait ends with nothing ready, or fails. -/
theorem tick_marks (apart : s.waitSet.Apart) (attended : s.Attended) (h : Host) :
    ∃ s' waited h', (s.tick : HostM ε (Session × Bool)) h = .ok (s', waited) h' ∧ s.Marks h s' h' := by
  obtain ⟨timeout, waits, free⟩ | rests := attended.cases
  · -- Either end is followed by `Session.afterWait` and `Session.afterPoll`.
    have ends (result : Except Errno (List Reported)) (awaits : s.Awaits result) :
        ∃ s' waited h', (do
          let r ← s.afterWait result
          return (← r.1.afterPoll r.2, true) : HostM ε (Session × Bool)) (h.past .workerWait) =
            .ok (s', waited) h' ∧ s.Marks h s' h' := by
      obtain ⟨s', h', polled, one, -, -⟩ :=
        polled_marks (ε := ε) (.afterWait result) apart free awaits (h.past .workerWait)
      have ended : s.Marks h s (h.past .workerWait) := .silent rfl rfl attended
      have goes := bind_ok (f := fun s => pure (s, true)) polled
      rw [bind_assoc] at goes
      exact ⟨s', true, h', goes, ended.trans one⟩
    rw [tick, waits]
    dsimp only
    rw [bind_ok (fault_apply ..)]
    generalize (h.kernel.faults.take .workerWait).1.filter (· ≠ 0) = failure
    cases failure with
    | some e => exact ends (.error e) trivial
    | none   => exact ends (.ok []) (List.nil_sublist _)
  · rw [tick_of_rests rests]
    exact ⟨s, false, h, rfl, .silent rfl rfl attended⟩

/-! ### Operations of callers -/

/-- `Session.locked` on a poisoned session logs that, and does not run its action. -/
theorem locked_of_poisoned (poisoned : s.poisoned = true) (action : HostM ε (Session × Outcome))
    (h : Host) : s.locked action h = .ok (s, .failed (.ofCode .lockPoisoned))
      (h.logged .error .session (s.name ++ ": unable to lock interface mutex")) := by
  rw [locked, bind_ok (attempt_error (lock_of_poisoned poisoned h))]
  rfl

/-- A `Calling` that takes the lock is `Marks` where the worker rests: contained, or refused. -/
theorem locked_marks (c : Calling) (apart : s.waitSet.Apart) (rests : s.Rests) (fits : c.Fits s)
    {action : HostM ε (Session × Outcome)} (locks : c.run s = s.locked action) (h : Host) :
    ∃ s' outcome h', (c.run s : HostM ε (Session × Outcome)) h = .ok (s', outcome) h' ∧
      s.Marks h s' h' := by
  cases poisoned : s.poisoned with
  | true =>
    rw [locks, locked_of_poisoned poisoned]
    exact ⟨s, _, _, rfl, .silent (Journal.callbacks_push_silent rfl _) rfl fun _ => rests⟩
  | false =>
    obtain ⟨s', outcome, h', run, contained⟩ := c.contained (ε := ε) apart poisoned fits h
    refine ⟨s', outcome, h', run, contained.marks poisoned rfl ?_ rfl⟩
    obtain ⟨dropped, rfl⟩ := contained.session
    exact fun _ => rests

end Session

/-! ### Steps -/

namespace Scenario

variable {x : Scenario} {i : Interface} {s : Session} {op : Operation} {h : Host}

/-- `Scenario.onSessionCalling` from its two parts: the wake, and the action in the session that the
    wake leaves. -/
theorem keep_calling {s₁ s' : Session} {h₁ h' : Host} {outcome : Outcome}
    {action : Session → HostM Empty (Session × Outcome)} (open_ : i.session? = some s)
    (woken : (s.wake : HostM Empty Session) h = .ok s₁ h₁)
    (run : action s₁ h₁ = .ok (s', outcome) h') (event : Event) :
    (keep event (onSessionCalling i action) : HostM Empty (Scenario × Reply)) h =
      .ok (⟨some { i with session? := some s' }, event⟩, .ofOutcome outcome) h' := by
  unfold keep onSessionCalling onSession
  rw [open_]
  dsimp only
  rw [bind_assoc, bind_ok woken, bind_assoc, bind_assoc, bind_ok run]
  rfl

/-- `Scenario.perform` of a tick from `Session.tick`. -/
theorem perform_tick {s' : Session} {h' : Host} {waited : Bool} (open_ : i.session? = some s)
    (run : (s.tick : HostM Empty (Session × Bool)) h = .ok (s', waited) h') (event : Event) :
    (perform ⟨some i, event⟩ (.incident .tick) : HostM Empty (Scenario × Reply)) h =
      .ok (⟨some { i with session? := some s' }, event⟩, .truth waited) h' := by
  unfold perform tick
  dsimp only
  rw [open_]
  dsimp only
  rw [bind_assoc, bind_ok run]
  rfl

/-- `Scenario.settle` from `Session.settle`. -/
theorem settle_apply {s' : Session} {h' : Host} (open_ : i.session? = some s)
    (run : (s.settle i.interval : HostM Empty Session) h = .ok s' h') (event : Event) :
    (settle ⟨some i, event⟩ : HostM Empty Scenario) h =
      .ok ⟨some { i with session? := some s' }, event⟩ h' := by
  unfold settle
  dsimp only
  rw [open_]
  dsimp only
  rw [bind_ok run]
  rfl

/-- `Scenario.perform` of a transmission leaves the scenario, and all its effects are `Idle`. -/
theorem perform_transmit (i : Interface) (f : Frame) (event : Event) (h : Host) :
    ∃ reply h', (perform ⟨some i, event⟩ (.request (.transmit (some f))) :
        HostM Empty (Scenario × Reply)) h = .ok (⟨some i, event⟩, reply) h' ∧ Adds Idle h h' := by
  have idle : Emits Idle (attempt (i.transmit f) : HostM Empty _) :=
    Along.attempt Interface.transmit_idle
  obtain ⟨answer, h', run⟩ := exists_ok (attempt (i.transmit f)) h
  have course := idle h
  rw [run] at course
  refine ⟨.ofResult answer, h', ?_, course⟩
  change keep event _ h = _
  unfold keep
  rw [bind_assoc, bind_ok run]
  rfl

section Perform

variable (open_ : i.session? = some s) (apart : s.waitSet.Apart) (attended : s.Attended)

include open_ apart attended

/-- `Scenario.perform` of a request for a change is `Marks`. -/
theorem change_marks (there : x.interface? = some i) (c : Change) (h : Host) :
    ∃ r s' h', (x.perform (.request c.request) : HostM Empty (Scenario × Reply)) h = .ok r h' ∧
      r.1.session? = some s' ∧ s.Marks h s' h' := by
  obtain ⟨s₁, h₁, woken, one, -, rests⟩ := s.wake_marks (ε := Empty) apart attended h
  have silent := Session.make_silent (s := s₁) c h₁
  rw [c.perform_eq there open_ woken, Session.install]
  cases run : c.make s₁ h₁ with
  | ok r h' =>
    have kept := Session.make_kept c h₁ r h' run
    have out : r.1.Attended := fun _ timeout => kept.worker ▸ rests timeout
    rw [run] at silent
    exact ⟨_, r.1, h', rfl, rfl, one.trans (.silent silent.callbacks kept.poisoned out)⟩
  | error f h' =>
    rw [run] at silent
    exact ⟨_, s₁, h', rfl, rfl, one.trans (.silent silent.callbacks rfl fun _ => rests)⟩

/-- A request that calls handlers with the lock is `Marks`. -/
theorem calling_marks (event : Event) (c : Calling) (fits : ∀ s, c.Fits s)
    {action : Session → HostM Empty (Session × Outcome)} (locks : ∀ s, c.run s = s.locked (action s))
    (h : Host) :
    ∃ r s' h', (keep event (onSessionCalling i fun s => c.run s) : HostM Empty (Scenario × Reply)) h =
        .ok r h' ∧ r.1.session? = some s' ∧ s.Marks h s' h' := by
  obtain ⟨s₁, h₁, woken, one, same, rests⟩ := s.wake_marks (ε := Empty) apart attended h
  obtain ⟨s', outcome, h', run, more⟩ :=
    Session.locked_marks c (same ▸ apart) rests (fits s₁) (locks s₁) h₁
  exact ⟨_, s', h', keep_calling open_ woken run event, rfl, one.trans more⟩

/-- `Scenario.pollOnce` is `Marks`. -/
theorem pollOnce_marks (event : Event) (timeout : Option Duration) (h : Host) :
    ∃ r s' h', (pollOnce timeout event i : HostM Empty (Scenario × Reply)) h = .ok r h' ∧
      r.1.session? = some s' ∧ s.Marks h s' h' := by
  obtain ⟨s₁, h₁, woken, one, -, rests⟩ := s.wake_marks (ε := Empty) apart attended h
  obtain ⟨s', event', answer, h', run, once⟩ := s₁.pollOnce_oneRead event timeout h₁
  have more : s₁.Marks h₁ s' h' := by
    refine .silent once.callbacks (by rw [once.session]) fun _ => ?_
    rw [once.session]
    exact rests
  unfold pollOnce
  rw [open_]
  dsimp only
  rw [bind_ok woken, bind_ok run]
  cases answer with
  | ok size => exact ⟨_, s', h', rfl, rfl, one.trans more⟩
  | error f => exact ⟨_, s', h', rfl, rfl, one.trans more⟩

/-- **`Scenario.perform` is `Marks`**, for every operation that leaves the session to go on. Those
    that take the lock find the worker at rest. -/
theorem perform_marks (there : x.interface? = some i) (stays : op.staysOpen = true) (h : Host) :
    ∃ r s' h', (x.perform op : HostM Empty (Scenario × Reply)) h = .ok r h' ∧
      r.1.session? = some s' ∧ s.Marks h s' h' := by
  obtain ⟨_, event⟩ := x
  obtain rfl := there
  have still {r : Scenario × Reply} {h' : Host} (same : r.1.session? = i.session?)
      (silent : Adds Silent h h') :
      ∃ s', r.1.session? = some s' ∧ s.Marks h s' h' :=
    ⟨s, same.trans open_, .silent silent.callbacks rfl attended⟩
  -- Changes and calls of handlers wake the worker first; the others leave the session as it is.
  cases op with
  | incident what =>
    by_cases ticks : what = .tick
    · subst ticks
      obtain ⟨s', waited, h', run, marks⟩ := s.tick_marks (ε := Empty) apart attended h
      exact ⟨_, s', h', perform_tick open_ run event, rfl, marks⟩
    · obtain ⟨r, h', run⟩ := exists_ok (perform ⟨some i, event⟩ (.incident what)) h
      have silent := (beside_idle (ε := Empty) (x := ⟨some i, event⟩) ticks).silent h
      rw [run] at silent
      obtain ⟨s', found, marks⟩ := still (r := r) (by rw [beside_same ticks run]; rfl) silent
      exact ⟨r, s', h', run, found, marks⟩
  | request q =>
    cases q with
    | init | free | drop => cases stays
    | registerRx y fs    => exact change_marks open_ apart attended rfl (.registerRx y fs) h
    | unregisterRx y     => exact change_marks open_ apart attended rfl (.unregisterRx y) h
    | openRx fs          => exact change_marks open_ apart attended rfl (.openRx fs) h
    | closeRx fd         => exact change_marks open_ apart attended rfl (.closeRx fd) h
    | registerError y    => exact change_marks open_ apart attended rfl (.registerError y) h
    | unregisterError y  => exact change_marks open_ apart attended rfl (.unregisterError y) h
    | pollOnce timeout   => exact pollOnce_marks open_ apart attended event timeout h
    | poll timeout       =>
      exact calling_marks open_ apart attended event (.poll timeout) (fun _ => trivial) (fun _ => rfl) h
    | dispatch e?        =>
      exact calling_marks open_ apart attended event (.dispatch (e?.getD event)) (fun _ => trivial)
        (fun _ => rfl) h
    | transmit f?        =>
      cases f? with
      | none   => exact ⟨_, s, h, rfl, open_, .silent rfl rfl attended⟩
      | some f =>
        obtain ⟨answer, h', run, idle⟩ := perform_transmit i f event h
        have silent := idle.widen fun _ idle => idle.silent
        exact ⟨_, s, h', run, open_, .silent silent.callbacks rfl attended⟩
    | setInterval d => exact ⟨_, s, h, rfl, open_, .silent rfl rfl attended⟩
    | txSocket      => exact ⟨_, s, h, rfl, open_, .silent rfl rfl attended⟩
    | state         => exact ⟨_, s, h, rfl, open_, .silent rfl rfl attended⟩

end Perform

/-- `Scenario.settle` is `Marks`. -/
theorem settle_marks (found : x.session? = some s) (apart : s.waitSet.Apart) (attended : s.Attended)
    (h : Host) :
    ∃ x' s' h', (x.settle : HostM Empty Scenario) h = .ok x' h' ∧ x'.session? = some s' ∧
      s.Marks h s' h' := by
  obtain ⟨_ | i, event⟩ := x
  · cases found
  · have open_ : i.session? = some s := found
    obtain ⟨s', h', run, marks⟩ := s.settle_marks (ε := Empty) i.interval apart attended h
    exact ⟨_, s', h', settle_apply open_ run event, rfl, marks⟩

/-- What holds of a scenario behind any steps: it is coherent, the host holds its estate, and the
    worker of its session is attended. -/
structure Sound (x : Scenario) (h : Host) : Prop where
  coherent : x.Coherent
  holds    : h.Holds (x.estate h.kernel.detached)
  attended : ∀ s, x.session? = some s → s.Attended

namespace Sound

variable (sound : x.Sound h)

include sound

/-- The host holds the estate of the session of a sound scenario. -/
theorem session_holds (found : x.session? = some s) : h.Holds (s.estate h.kernel.detached) := by
  have same : x.estate h.kernel.detached = s.estate h.kernel.detached := by
    rw [estate, sockets, found]
    rfl
  exact same ▸ sound.holds

theorem apart (found : x.session? = some s) : s.waitSet.Apart :=
  (sound.coherent s found).apart (sound.session_holds found)

/-- `Sound` is kept by `Scenario.withLink`. -/
theorem withLink (link : Link) : (x.withLink link).Sound h := by
  have same := session?_withLink link x
  refine ⟨fun s found => sound.coherent s (same.symm.trans found), ?_, fun s found =>
    sound.attended s (same.symm.trans found)⟩
  rw [estate, sockets, same]
  exact sound.holds

/-- The session that `Scenario.perform` leaves of a sound scenario is attended. -/
theorem perform_attended {r : Scenario × Reply} {h' : Host} {s' : Session}
    (run : (x.perform op : HostM Empty (Scenario × Reply)) h = .ok r h')
    (found' : r.1.session? = some s') : s'.Attended := by
  -- Either the session goes on, or it ends and perhaps another begins.
  cases stays : op.staysOpen with
  | true =>
    cases found : x.session? with
    | none   => exact nomatch (perform_session_of_none found stays run).symm.trans found'
    | some s =>
      obtain ⟨i, there, open_⟩ := Option.bind_eq_some_iff.mp found
      obtain ⟨r₁, s₁, h₁, run₁, found₁, marks⟩ :=
        perform_marks open_ (sound.apart found) (sound.attended s found) there stays h
      obtain ⟨rfl, rfl⟩ := EStateM.Result.ok.inj (run₁.symm.trans run)
      obtain rfl := Option.some.inj (found₁.symm.trans found')
      exact marks.attended
  | false =>
    cases op with
    | incident what => cases stays
    | request q =>
      cases q with
      | free   => exact nomatch (perform_ends (.inl rfl) run).symm.trans found'
      | drop   => exact nomatch (perform_ends (.inr rfl) run).symm.trans found'
      | init c =>
        obtain ⟨_ | i, event⟩ := x
        · obtain ⟨rfl, -⟩ := EStateM.Result.ok.inj run
          cases found'
        · -- The first session has a lock that is not poisoned.
          obtain ⟨kept, h₁, made, i', result, h₂, done, -, initialised⟩ :=
            Interface.init_initialised c sound.coherent sound.holds
          obtain ⟨rfl, rfl⟩ := EStateM.Result.ok.inj ((perform_init rfl done).symm.trans run)
          cases result with
          | error f => exact nomatch (initialised.undone f rfl).gone.symm.trans found'
          | ok _    =>
            obtain ⟨r, running⟩ := initialised.running rfl
            obtain rfl := Option.some.inj (running.session.symm.trans found')
            exact nofun
      | _ => cases stays

/-- **`Scenario.step` keeps `Sound`**, and is `Marks` for an operation that leaves the session
    to go on. -/
theorem step (op : Operation) :
    ∃ r h', (x.step op : HostM Empty (Scenario × Reply)) h = .ok r h' ∧ r.1.Sound h' ∧
      (op.staysOpen = true → ∀ s, x.session? = some s → ∃ s', r.1.session? = some s' ∧
        s.Marks h s' h') := by
  -- The operation, and then the turns of the worker: first that both end and stay coherent.
  obtain ⟨r₁, h₁, performed, -, _, holds₁, ts', goes, rfl⟩ :=
    (perform_spec sound.coherent op).answers sound.holds
  obtain rfl : h₁.kernel.detached = ts' := holds₁.threads
  obtain ⟨x₂, h₂, settled, -, _, holds₂, rfl, alike⟩ := (settle_steady goes.coherent).answers holds₁
  have same : h₂.kernel.detached = h₁.kernel.detached := holds₂.threads
  have sound₁ : r₁.1.Sound h₁ := ⟨goes.coherent, holds₁, fun s' => sound.perform_attended performed⟩
  -- The worker goes on with the session that the step leaves.
  have goesOn {s₁ : Session} (found : r₁.1.session? = some s₁) :
      ∃ s', x₂.session? = some s' ∧ s₁.Marks h₁ s' h₂ := by
    obtain ⟨x', s', h', run, found', marks⟩ :=
      settle_marks found (sound₁.apart found) (sound₁.attended s₁ found) h₁
    obtain ⟨rfl, rfl⟩ := EStateM.Result.ok.inj (run.symm.trans settled)
    exact ⟨s', found', marks⟩
  refine ⟨(x₂, r₁.2), h₂, (bind_ok performed).trans (bind_ok settled), ⟨?_, ?_, ?_⟩, ?_⟩
  · exact alike.coherent goes.coherent
  · rw [estate, alike.sockets, same]
    exact holds₂
  · intro s' found'
    obtain ⟨-, ⟨-, gone⟩ | ⟨s₁, s₂, found, -, -⟩⟩ := alike
    · cases gone.symm.trans found'
    · obtain ⟨s₃, found₃, marks⟩ := goesOn found
      obtain rfl := Option.some.inj (found₃.symm.trans found')
      exact marks.attended
  -- The marks of the operation and those of the worker behind it.
  · intro stays s found
    obtain ⟨i, there, open_⟩ := Option.bind_eq_some_iff.mp found
    obtain ⟨r, s₁, h', run, found₁, one⟩ :=
      perform_marks open_ (sound.apart found) (sound.attended s found) there stays h
    obtain ⟨rfl, rfl⟩ := EStateM.Result.ok.inj (run.symm.trans performed)
    obtain ⟨s', found', more⟩ := goesOn found₁
    exact ⟨s', found', one.trans more⟩

/-- **`Scenario.scriptedSteps` keeps `Sound`**, and is `Marks` where every operation leaves the
    session to go on. By induction on the script, with `Sound.step` and `Marks.trans`. -/
theorem steps (script : List (Link × Operation)) :
    ∃ x' h', scriptedSteps script x h = .ok x' h' ∧ x'.Sound h' ∧
      ((∀ entry ∈ script, entry.2.staysOpen = true) → ∀ s, x.session? = some s →
        ∃ s', x'.session? = some s' ∧ s.Marks h s' h') := by
  -- On the script; the marks of a step and of those behind it are put together by `Marks.trans`.
  induction script generalizing x h with
  | nil =>
    refine ⟨x, h, rfl, sound, fun _ s found => ⟨s, found, ?_⟩⟩
    exact .silent rfl rfl (sound.attended s found)
  | cons entry script ih =>
    obtain ⟨link, op⟩ := entry
    obtain ⟨r, h₁, run, sound₁, one⟩ := (sound.withLink link).step op
    obtain ⟨x', h', runs, sound', more⟩ := ih sound₁
    refine ⟨x', h', ?_, sound', fun stays s found => ?_⟩
    · rw [scriptedSteps, bind_ok run]
      exact runs
    · obtain ⟨first, rest⟩ := List.forall_mem_cons.mp stays
      obtain ⟨s₁, found₁, marks₁⟩ := one first s ((session?_withLink link x).trans found)
      obtain ⟨s', found', marks'⟩ := more rest s₁ found₁
      exact ⟨s', found', marks₁.trans marks'⟩

end Sound

/-- `Scenario.scripted` ends from every start, and leaves a sound scenario. -/
theorem exists_sound (links : List NetworkLink) (faults : Faults) (traffic : List Item)
    (name : String) (script : List (Link × Operation)) :
    ∃ x h, scripted name script (.start links faults traffic) = .ok x h ∧ x.Sound h := by
  obtain ⟨i, h, run, -, gone, -, held⟩ := exists_named links faults traffic name .external
  have first : (ofInterface i).Sound h :=
    ⟨coherent_of_none gone, held, fun s found => nomatch gone.symm.trans found⟩
  obtain ⟨x, h', runs, sound, -⟩ := first.steps script
  exact ⟨x, h', (bind_ok run).trans runs, sound⟩

end Scenario

end CanDriver
