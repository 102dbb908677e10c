import CanDriver.Proofs.Sockets.Setup
import CanDriver.Session.Worker

namespace CanDriver

/-!
# Polling leaves the sockets alone

* `Session.Alike` — two sessions with the same sockets and handlers;
* `Session.drain_plain` — a turn uses no socket but its own;
* `Session.poll_steady`, `pollOnce_steady`, `dispatch_steady` — polls of the caller leave the
  estate as it is, and a session that is alike;
* `Session.wake_steady`, `settle_steady`, `tick_steady` — all that the worker does leaves the estate.
-/

/-! ### Plain effects -/

section Plain

variable {fds : List Fd}

theorem Effect.Plain.callback (c : Callback) : (Effect.callback c).Plain fds :=
  ⟨rfl, rfl, fun _ hfd => absurd hfd List.not_mem_nil⟩

theorem Effect.Plain.record (r : Log.Record) : (Effect.record r).Plain fds :=
  ⟨rfl, rfl, fun _ hfd => absurd hfd List.not_mem_nil⟩

theorem Effect.Plain.receive {fd : Fd} (held : fd ∈ fds) (result : Except Errno Nat) :
    (Effect.call (.receive fd result)).Plain fds := by
  refine ⟨rfl, rfl, fun fd' hfd' => ?_⟩
  rw [List.mem_singleton.mp hfd']
  exact held

/-- `Callback.effectsOf` is `Plain`: callbacks use no socket. -/
theorem Callback.effectsOf_plain (made cs : List Callback) :
    ∀ what ∈ effectsOf made cs, what.Plain fds := by
  intro what member
  obtain ⟨r, rfl⟩ | ⟨c, -, rfl⟩ := mem_effectsOf member
  · exact .record r
  · exact .callback c

/-- The effects of `Item.read` are `Plain`, where `fd` is held. -/
theorem Item.read_plain (c : Config) (role : SocketRole) {fd : Fd} (held : fd ∈ fds)
    (item : Item) : ∀ what ∈ (item.read c role fd).1, what.Plain fds := by
  intro what member
  obtain ⟨result, rfl⟩ | ⟨r, rfl⟩ := mem_read member
  · exact .receive held result
  · exact .record r

end Plain

/-- A socket that is reported among `fds.map socket` is one of `fds`. -/
theorem Reported.mem_of_socket_mem {fd : Fd} {fds : List Fd} (h : socket fd ∈ fds.map socket) :
    fd ∈ fds := by
  obtain ⟨fd', member, same⟩ := List.mem_map.mp h
  rw [← Reported.socket.inj same]
  exact member

namespace Session

open Host

/-! ### Sessions that are alike -/

/-- Name, settings, sockets and registry are the same; what polls change may differ. -/
structure Alike (s s' : Session) : Prop where
  name     : s'.name = s.name
  config   : s'.config = s.config
  tx       : s'.tx = s.tx
  waitSet  : s'.waitSet = s.waitSet
  registry : s'.registry = s.registry
  /-- There is a worker in both, or in neither. -/
  worker   : s'.worker.isSome = s.worker.isSome

theorem Alike.refl (s : Session) : s.Alike s := ⟨rfl, rfl, rfl, rfl, rfl, rfl⟩

theorem Alike.trans {s s₁ s' : Session} (first : s.Alike s₁) (more : s₁.Alike s') : s.Alike s' :=
  ⟨more.name.trans first.name, more.config.trans first.config, more.tx.trans first.tx,
    more.waitSet.trans first.waitSet, more.registry.trans first.registry,
    more.worker.trans first.worker⟩

/-- `Alike`, and only a panic may have poisoned the lock. -/
structure Polled (s s' : Session) (panicked : Prop) : Prop where
  alike    : s.Alike s'
  poisoned : s'.poisoned = s.poisoned ∨ panicked

theorem Polled.refl {panicked : Prop} (s : Session) : s.Polled s panicked := ⟨.refl s, .inl rfl⟩

theorem Polled.trans {s s₁ s' : Session} {first panicked : Prop} (one : s.Polled s₁ first)
    (calm : ¬ first) (more : s₁.Polled s' panicked) : s.Polled s' panicked := by
  refine ⟨one.alike.trans more.alike, ?_⟩
  rw [← one.poisoned.resolve_right calm]
  exact more.poisoned

/-! ### Turns -/

section Turns

variable {ε : Type} {e : Estate} {s : Session}

/-- What the effects of a turn of `fd` can be. -/
inductive TurnEffect (s : Session) (fd : Fd) : Effect → Prop
  /-- It reads from `fd`. -/
  | receive (result : Except Errno Nat) : s.TurnEffect fd (.call (.receive fd result))
  | record (r : Log.Record) : s.TurnEffect fd (.record r)
  /-- It makes a callback of `deliveries` of some event. -/
  | callback {event : Event} {c : Callback} (h : c ∈ s.registry.deliveries event) :
    s.TurnEffect fd (.callback c)

/-- All effects of `Session.drain` are `TurnEffect`. -/
theorem drain_turnEffect (fd : Fd) (idle : Errno) (queue : List Item) (dropped : UInt32)
    (made : List Callback) :
    ∀ what ∈ (s.drain fd idle dropped made queue).effects, s.TurnEffect fd what := by
  have reads (item : Item) : ∀ what ∈ (item.read s.config (s.roleOf fd) fd).1,
      s.TurnEffect fd what := by
    intro what member
    obtain ⟨result, rfl⟩ | ⟨r, rfl⟩ := Item.mem_read member
    · exact .receive result
    · exact .record r
  have calls (made : List Callback) (event : Event) :
      ∀ what ∈ Callback.effectsOf made (s.registry.deliveries event), s.TurnEffect fd what := by
    intro what member
    obtain ⟨r, rfl⟩ | ⟨c, called, rfl⟩ := Callback.mem_effectsOf member
    · exact .record r
    · exact .callback called
  -- On the queue, whose last receive is the one that finds it empty.
  induction queue generalizing dropped made with
  | nil => exact reads (.failure idle)
  | cons item rest ih =>
    have read := reads item
    rw [drain]
    generalize item.read s.config (s.roleOf fd) fd = receive at read ⊢
    obtain ⟨effects, reading⟩ := receive
    cases reading with
    | nothing     => exact read
    | networkDown => exact read
    | event size event =>
      have both := List.forall_mem_append.mpr ⟨read, calls made event⟩
      simp only
      split
      · exact both
      · exact List.forall_mem_append.mpr ⟨both, ih _ _⟩

/-- The effects of `Session.drain` are `Plain`, where `fd` is held. -/
theorem drain_plain {fds : List Fd} {fd : Fd} (held : fd ∈ fds) (idle : Errno)
    (queue : List Item) (dropped : UInt32) (made : List Callback) :
    ∀ what ∈ (s.drain fd idle dropped made queue).effects, what.Plain fds := by
  intro what member
  cases drain_turnEffect fd idle queue dropped made what member with
  | receive result => exact .receive held result
  | record r       => exact .record r
  | callback _     => exact .callback _

/-- `Session.serve` leaves the estate, and is `Polled`. -/
theorem serve_steady {fd : Fd} (held : fd ∈ e.held) :
    Steady e (s.serve fd : HostM ε (Session × Ending)) fun r => s.Polled r.1 (r.2 = .panicked) := by
  refine .bind .ask fun queue _ => .bind .ask fun idle _ => .bind .called fun made _ => ?_
  refine .bind (.addAll (drain_plain held idle queue s.dropped made)) fun _ _ => ?_
  refine .bind (.modifyKernel (fun _ => Kernel.books_setQueue) fun _ => rfl) fun _ _ => ?_
  refine .pure ⟨⟨rfl, rfl, rfl, rfl, rfl, rfl⟩, ?_⟩
  -- Only a turn that ends in a panic poisons the lock.
  by_cases panicked : (s.drain fd idle s.dropped made queue).ending = .panicked
  · exact .inr panicked
  · left
    rw [beq_eq_false_iff_ne.mpr panicked, Bool.or_false]

/-- `Session.sweep` over held sockets leaves the estate, and is `Polled`. -/
theorem sweep_steady {first : Option Failure} {ready : List Reported}
    (held : ∀ fd, .socket fd ∈ ready → fd ∈ e.held) :
    Steady e (sweep first ready s : HostM ε (Session × Outcome)) fun r =>
      s.Polled r.1 (r.2 = .panicked) := by
  induction ready generalizing s first with
  | nil => exact .pure (.refl s)
  | cons what ready ih =>
    have others : ∀ fd, .socket fd ∈ ready → fd ∈ e.held := fun fd member =>
      held fd (List.mem_cons_of_mem _ member)
    cases what with
    | wakeUp => exact ih others
    | socket fd =>
      refine .bind (serve_steady (held fd List.mem_cons_self)) ?_
      rintro ⟨s₁, ending⟩ one
      cases ending with
      | emptied => exact (ih others).mono fun r more => one.trans (by simp) more
      -- The others take no turn.
      | panicked => exact .pure ⟨one.alike, .inr rfl⟩
      | networkDown =>
        refine .bind .log fun _ _ => ?_
        exact (ih others).mono fun r more => one.trans (by simp) more

end Turns

/-! ### Polls -/

section Polls

variable {ε : Type} {e : Estate} {s : Session}

/-- `Session.afterWait` on held sockets leaves the estate, and is `Polled`. -/
theorem afterWait_steady {result : Except Errno (List Reported)}
    (held : ∀ ready, result = .ok ready → ∀ fd, .socket fd ∈ ready → fd ∈ e.held) :
    Steady e (s.afterWait result : HostM ε (Session × Outcome)) fun r =>
      s.Polled r.1 (r.2 = .panicked) := by
  cases result with
  | ok ready => exact sweep_steady (held ready rfl)
  | error errno =>
    unfold afterWait
    simp only
    split
    · exact .pure (.refl s)
    · refine .bind .called fun made _ => .bind (.addAll (Callback.effectsOf_plain made _)) fun _ _ => ?_
      split
      · exact .pure ⟨⟨rfl, rfl, rfl, rfl, rfl, rfl⟩, .inr rfl⟩
      · refine .bind (.bind .log fun _ _ => .pure trivial) fun failure (_ : True) => ?_
        exact .pure (.refl s)

/-- `Session.lock` leaves the estate, and fails exactly where the lock is poisoned. -/
theorem lock_spec : Spec e s.lock (fun _ e' => e' = e ∧ s.poisoned = false)
    fun _ e' => e' = e ∧ s.poisoned = true := by
  unfold lock
  split
  · next poisoned => exact Spec.after .log fun _ _ => .throw ⟨rfl, poisoned⟩
  · next sound => exact .pure ⟨rfl, by simpa using sound⟩

theorem lock_steady : Steady e s.lock fun _ => s.poisoned = false :=
  lock_spec.mono (fun _ _ left => left) fun _ _ left => left.1

/-- `Session.locked` leaves the estate, and is `Polled`, where its action does and is. -/
theorem locked_steady {action : HostM ε (Session × Outcome)}
    (course : Steady e action fun r => s.Polled r.1 (r.2 = .panicked)) :
    Steady e (s.locked action) fun r => s.Polled r.1 (r.2 = .panicked) := by
  refine .bind lock_steady.attempt fun taken _ => ?_
  cases taken with
  | error failure => exact .pure (.refl s)
  | ok _          => exact course

/-- `Session.readOne` of a held socket leaves the estate, and is `Alike`. -/
theorem readOne_steady {fd : Fd} (own : fd ∈ e.held) :
    Steady e (s.readOne fd : HostM ε (Session × Event × Except Failure Nat)) fun r =>
      s.Alike r.1 := by
  refine .bind .ask fun item _ => ?_
  have reads := item.read_plain s.config (s.roleOf fd) own
  generalize item.read s.config (s.roleOf fd) fd = receive at reads ⊢
  obtain ⟨effects, reading⟩ := receive
  refine .bind (.addAll reads) fun _ _ => ?_
  refine .bind (.modifyKernel (fun _ => Kernel.books_setQueue) fun _ => rfl) fun _ _ => ?_
  cases reading with
  | nothing       => exact .pure (.refl s)
  | event size ev => exact .pure ⟨rfl, rfl, rfl, rfl, rfl, rfl⟩
  | networkDown   => exact .bind .log fun _ _ => .pure (.refl s)

/-- The descriptors of the wait-set are held by `e`. -/
def HeldBy (s : Session) (e : Estate) : Prop := ∀ fd ∈ s.waitSet.descriptors none, fd ∈ e.held

theorem Alike.heldBy {s' : Session} (alike : s.Alike s') (held : s.HeldBy e) : s'.HeldBy e := by
  unfold HeldBy
  rw [alike.waitSet]
  exact held

variable (held : s.HeldBy e)

include held

theorem waitFor_steady {timeout : Option Duration} :
    Steady e (s.waitFor timeout : HostM ε (Except Errno (List Fd))) fun result =>
      ∀ ready, result = .ok ready → ∀ fd ∈ ready, fd ∈ e.held := by
  refine (Steady.wait held).attempt.mono fun result reports ready same fd member => ?_
  exact held fd (reports ready same fd member)

/-- `Session.poll` leaves the estate, and is `Polled`. -/
theorem poll_steady {timeout : Option Duration} :
    Steady e (s.poll timeout : HostM ε (Session × Outcome)) fun r =>
      s.Polled r.1 (r.2 = .panicked) := by
  refine locked_steady (.bind (waitFor_steady held) fun result reports => afterWait_steady ?_)
  intro ready same fd member
  cases result with
  | error errno => cases same
  | ok fds =>
    obtain rfl : fds.map Reported.socket = ready := Except.ok.inj same
    exact reports fds rfl fd (Reported.mem_of_socket_mem member)

/-- `Session.workerPoll` leaves the estate, and is `Polled`. -/
theorem workerPoll_steady {woken : Bool} :
    Steady e (s.workerPoll woken : HostM ε (Session × Outcome)) fun r =>
      s.Polled r.1 (r.2 = .panicked) := by
  refine .bind .ask ?_
  rintro _ ⟨k, rfl, -⟩
  refine .bind (.modifyKernel (fun _ => Kernel.books_dropOverrides) fun _ => rfl) fun _ _ => ?_
  refine afterWait_steady ?_
  intro ready same fd member
  rw [← Except.ok.inj same] at member
  rcases List.mem_append.mp member with member | member
  · exact held fd (List.mem_of_mem_filter (Reported.mem_of_socket_mem member))
  · cases woken <;> simp at member

/-- `Session.pollOnce` leaves the estate, and is `Alike`. -/
theorem pollOnce_steady {timeout : Option Duration} {event : Event} :
    Steady e (s.pollOnce timeout event : HostM ε (Session × Event × Except Failure Nat)) fun r =>
      s.Alike r.1 := by
  refine .bind lock_steady.attempt fun taken _ => ?_
  cases taken with
  | error failure => exact .pure (.refl s)
  | ok _ =>
    refine .bind (waitFor_steady held) fun result reports => ?_
    cases result with
    | error errno =>
      simp only
      split
      · exact .pure (.refl s)
      · exact .bind (.bind .log fun _ _ => .pure trivial) fun failure (_ : True) => .pure (.refl s)
    | ok ready =>
      cases ready with
      | nil => exact .pure (.refl s)
      | cons fd fds =>
        -- What the wait reports first is one of the sockets of the wait-set.
        have own : fd ∈ e.held := reports _ rfl fd List.mem_cons_self
        exact readOne_steady own

omit held

/-- `Session.dispatch` leaves the estate, and is `Polled`. -/
theorem dispatch_steady {ev : Event} :
    Steady e (s.dispatch ev : HostM ε (Session × Outcome)) fun r =>
      s.Polled r.1 (r.2 = .panicked) := by
  refine locked_steady
    (.bind .called fun made _ => .bind (.addAll (Callback.effectsOf_plain made _)) fun _ _ => ?_)
  split
  · exact .pure ⟨⟨rfl, rfl, rfl, rfl, rfl, rfl⟩, .inr rfl⟩
  · exact .pure (.refl s)

end Polls

/-! ### The worker -/

section Working

variable {ε : Type} {e : Estate} {s : Session}

/-- `Session.afterPoll` leaves the estate and the lock; behind a panic it ends the worker. -/
theorem afterPoll_steady (employed : s.worker.isSome) {outcome : Outcome} :
    Steady e (s.afterPoll outcome : HostM ε Session) fun s' =>
      s.Polled s' False ∧ (outcome = .panicked → s'.worker = some .panicked) := by
  have next (w : WorkerState) : s.Polled { s with worker := some w } False :=
    ⟨⟨rfl, rfl, rfl, rfl, rfl, employed.symm⟩, .inl rfl⟩
  cases outcome with
  | panicked => exact .pure ⟨next _, fun _ => rfl⟩
  | done     => exact .pure ⟨next _, fun same => by cases same⟩
  | failed f => exact .bind .log fun _ _ => .pure ⟨next _, fun same => by cases same⟩

/-- A poll of the worker and its `Session.afterPoll`: only a panic that ends the worker poisons
    the lock. -/
theorem polled_afterPoll {action : HostM ε (Session × Outcome)} (employed : s.worker.isSome)
    (course : Steady e action fun r => s.Polled r.1 (r.2 = .panicked)) :
    Steady e (do let (s, outcome) ← action; s.afterPoll outcome) fun s' =>
      s.Polled s' (s'.worker = some .panicked) := by
  refine .bind course ?_
  rintro ⟨s₁, outcome⟩ one
  have employed₁ : s₁.worker.isSome := one.alike.worker.trans employed
  refine (afterPoll_steady employed₁).mono fun s' more => ⟨one.alike.trans more.1.alike, ?_⟩
  rw [more.1.poisoned.resolve_right id]
  exact one.poisoned.imp id more.2

variable (held : s.HeldBy e)

include held

theorem enterWait_steady (employed : s.worker.isSome) {interval : Duration} :
    Steady e (s.enterWait interval : HostM ε Session) s.Alike := by
  have next (w : WorkerState) : s.Alike { s with worker := some w } :=
    ⟨rfl, rfl, rfl, rfl, rfl, employed.symm⟩
  refine .bind lock_steady.attempt fun taken _ => ?_
  cases taken with
  | error failure => exact .bind .log fun _ _ => .pure (next _)
  | ok _          => exact .bind (.add ⟨rfl, rfl, held⟩) fun _ _ => .pure (next _)

/-- `Session.wake` leaves the estate; only a panic that ends the worker poisons the lock. -/
theorem wake_steady :
    Steady e (s.wake : HostM ε Session) fun s' => s.Polled s' (s'.worker = some .panicked) := by
  unfold wake
  split
  · next waits => exact polled_afterPoll (by rw [waits]; rfl) (workerPoll_steady held)
  · exact .pure (.refl s)

/-- `Session.turns` leaves the estate, and is `Alike`. -/
theorem turns_steady {interval : Duration} (n : Nat) :
    Steady e (s.turns interval n : HostM ε Session) s.Alike := by
  -- On the number of turns; `Alike` keeps the sockets held for those to come.
  induction n generalizing s with
  | zero => exact .pure (.refl s)
  | succ n ih =>
    rw [turns]
    refine .bind .fault fun pause _ => ?_
    split
    · exact .pure (.refl s)
    · split
      · next asks =>
        refine .bind (enterWait_steady held (by rw [asks]; rfl)) fun s₁ one => ?_
        exact (ih (one.heldBy held)).mono fun s' more => one.trans more
      · next waits =>
        refine .bind .ask fun reported _ => ?_
        split
        · refine .bind (workerPoll_steady held) ?_
          rintro ⟨s₁, outcome⟩ one
          have employed : s₁.worker.isSome := by
            rw [one.alike.worker, waits]
            rfl
          refine .bind (afterPoll_steady employed) fun s₂ two => ?_
          have alike := one.alike.trans two.1.alike
          exact (ih (alike.heldBy held)).mono fun s' more => alike.trans more
        · exact .pure (.refl s)
      · exact .pure (.refl s)

/-- `Session.settle` leaves the estate, and is `Alike`. -/
theorem settle_steady {interval : Duration} :
    Steady e (s.settle interval : HostM ε Session) s.Alike :=
  .bind .ask fun n _ => turns_steady held n

omit held in
/-- `Session.tick` leaves the estate, and is `Alike`. -/
theorem tick_steady :
    Steady e (s.tick : HostM ε (Session × Bool)) fun r => s.Alike r.1 := by
  unfold tick
  split
  · next waits =>
    refine .bind .fault fun failure _ => ?_
    refine .bind (afterWait_steady fun ready same fd member => ?_) ?_
    -- The wait failed, or nothing was reported.
    · cases failure with
      | some errno => cases same
      | none       => exact absurd (Except.ok.inj same ▸ member) List.not_mem_nil
    · rintro ⟨s₁, outcome⟩ one
      have employed : s₁.worker.isSome := by
        rw [one.alike.worker, waits]
        rfl
      refine .bind (afterPoll_steady employed) fun s₂ two => ?_
      exact .pure (one.alike.trans two.1.alike)
  · exact .pure (.refl s)

end Working

end Session

end CanDriver
