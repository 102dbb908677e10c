import CanDriver.Proofs.Sessions.Containment
import CanDriver.Proofs.Time.Rounding

namespace CanDriver

/-!
# How long sockets are waited for

* `Host.Adds.waits` — the waits that effects on the way start;
* `Session.poll_waits`, `Session.pollOnce_waits` — a poll waits once, for as long as its caller tells;
  `Session.enterWait_waits` — the worker waits for as long as its interval tells;
* `Scenario.perform_waits` — no other request waits;
* `Operation.interval?` — the duration that an operation gives the worker for its waits;
  `Scenario.Paced d` — where there is a session, the interval is made of `d`;
* `Scenario.steps_waits` — the waits of many steps;
* `waits_as_asked` — how many milliseconds are waited for.
-/

open Host Effect

/-! ### Waits in the journal -/

theorem Journal.waits_push (e : Effect) (j : Journal) : waits (j.push e) = waits j ++ e.wait?.toList := by
  cases h : e.wait? <;> simp [waits, h]

section Waits

variable {P : Waiter × Int → Prop} {h h' : Host}

/-- `Effect.Waits P` for an effect that starts no wait. -/
theorem Effect.Waits.of_still {e : Effect} (still : e.wait? = none) : e.Waits P := by
  intro w waits
  cases still.symm.trans waits

/-- Effects with `Effect.Waits P` add only waits with `P` to the journal. -/
theorem Host.Adds.waits (course : Adds (Waits P) h h') :
    ∃ ws, h'.journal.waits = h.journal.waits ++ ws ∧ ∀ w ∈ ws, P w := by
  obtain ⟨es, way, kind⟩ := course
  refine ⟨es.filterMap wait?, ?_, fun w there => ?_⟩
  · rw [Journal.waits, way.journal, List.filterMap_append]
    rfl
  · obtain ⟨e, member, same⟩ := List.mem_filterMap.mp there
    exact kind e member w same

theorem Emits.waits {ε α : Type} {m : HostM ε α} (course : Emits (Routine P) m) : Emits (Waits P) m :=
  course.widen fun _ routine => routine.waits

/-- A computation whose effects start no wait leaves `Journal.waits` as it is. -/
theorem Emits.no_waits {ε α : Type} {m : HostM ε α} (course : Emits (Routine fun _ => False) m) (h : Host) :
    (left (m h)).journal.waits = h.journal.waits := by
  obtain ⟨ws, waits, none⟩ := (course.waits h).waits
  rw [waits, List.eq_nil_iff_forall_not_mem.mpr none, List.append_nil]

/-- A computation that cannot fail ends, and adds only waits with `P`. -/
theorem Emits.exists_waits {α : Type} {m : HostM Empty α} (course : Emits (Waits P) m) (h : Host) :
    ∃ a h' ws, m h = .ok a h' ∧ h'.journal.waits = h.journal.waits ++ ws ∧ ∀ w ∈ ws, P w := by
  obtain ⟨a, h', run⟩ := exists_ok m h
  obtain ⟨ws, waits, kind⟩ := (course h).waits
  rw [run] at waits
  exact ⟨a, h', ws, run, waits, kind⟩

end Waits

/-! ### Polls and the worker -/

namespace Session

variable {ε : Type} {s : Session}

/-- `Session.waitFor timeout` adds one wait of the caller, of `Duration.pollMillis timeout`, whether
    it fails or not. -/
theorem waitFor_waits (s : Session) (timeout : Option Duration) (h : Host) :
    ∃ result h₁, (s.waitFor timeout : HostM ε (Except Errno (List Fd))) h = .ok result h₁ ∧
      h₁.journal.waits = h.journal.waits ++ [(.caller, Duration.pollMillis timeout)] := by
  unfold waitFor
  cases fails : h.kernel.nextFault .wait with
  | none   => exact ⟨_, _, attempt_ok (wait_apply fails _ _), Journal.waits_push _ _⟩
  | some e => exact ⟨_, _, attempt_error (wait_of_fault fails _ _), Journal.waits_push _ _⟩

/-- **`Session.poll timeout` adds one wait**, of `Duration.pollMillis timeout`, whatever
    follows it. -/
theorem poll_waits (free : s.poisoned = false) (timeout : Option Duration) (h : Host) :
    (left ((s.poll timeout : HostM ε (Session × Outcome)) h)).journal.waits =
      h.journal.waits ++ [(.caller, Duration.pollMillis timeout)] := by
  obtain ⟨result, h₁, run, waits⟩ := s.waitFor_waits (ε := ε) timeout h
  rw [poll, locked_of_sound free, bind_ok run, ← waits]
  exact (afterWait_emits _).no_waits h₁

/-- **`Session.pollOnce timeout` adds one wait**, of `Duration.pollMillis timeout`, whatever
    follows it. -/
theorem pollOnce_waits (free : s.poisoned = false) (timeout : Option Duration) (event : Event) (h : Host) :
    (left ((s.pollOnce timeout event : HostM ε (Session × Event × Except Failure Nat)) h)).journal.waits =
      h.journal.waits ++ [(.caller, Duration.pollMillis timeout)] := by
  obtain ⟨result, h₁, run, waits⟩ := s.waitFor_waits (ε := ε) timeout h
  rw [pollOnce_eq_onceAfter, bind_ok (attempt_lock free)]
  dsimp only
  rw [bind_ok run, ← waits]
  exact (onceAfter_emits result).no_waits h₁

/-- `Session.enterWait interval` adds one wait of the worker, of `interval.waitMillis`. -/
theorem enterWait_waits (free : s.poisoned = false) (interval : Duration) (h : Host) :
    ∃ h', (s.enterWait interval : HostM ε Session) h =
        .ok { s with worker := some (.waiting interval.waitMillis) } h' ∧
      h'.journal.waits = h.journal.waits ++ [(.worker, (interval.waitMillis : Int))] := by
  unfold enterWait
  rw [bind_ok (attempt_lock free)]
  exact ⟨_, rfl, Journal.waits_push _ _⟩

end Session

/-! ### Requests -/

/-- The timeout of a poll; `none` for all other operations. -/
def Operation.timeout? : Operation → Option (Option Duration)
  | .request q => q.timeout?
  | _          => none

section Requests

variable {P : Waiter × Int → Prop}

/-- `Interface.start` adds no wait. -/
theorem Interface.start_waits (c : Config) (i : Interface) :
    Emits (Waits P) (i.start c : HostM Empty (Interface × Except Failure Unit)) := by
  have lines (r : Log.Record) : (Effect.record r).Waits P := .of_still rfl
  exact start_emits lines (fun _ => .of_still rfl) (fun _ _ => .of_still rfl)
    (Setup.openTx_emits lines (fun _ still => .of_still still) i.name c)

theorem Interface.init_waits (c : Config) (i : Interface) :
    Emits (Waits P) (i.init c : HostM Empty (Interface × Except Failure Unit)) := by
  refine release_emits.waits.bind ?_
  rintro ⟨i, wasThere⟩
  dsimp only
  split
  · exact Along.bind (Emits.line fun _ => .of_still rfl) fun _ => i.start_waits c
  · exact i.start_waits c

namespace Scenario

variable {x : Scenario} {i : Interface} {event : Event}

/-- `Scenario.answer` adds only waits with `P`, where the timeout of the request has `P`. -/
theorem answer_waits {q : Request}
    (asked : ∀ timeout, q.timeout? = some timeout → P (.caller, Duration.pollMillis timeout)) :
    Emits (Waits P) (answer event i q : HostM Empty (Scenario × Reply)) := by
  have lines (r : Log.Record) : (Effect.record r).Waits P := .of_still rfl
  have calls (c : KernelCall) (still : (Effect.call c).wait? = none) : (Effect.call c).Waits P :=
    .of_still still
  have ends : Emits (Waits P) (i.shutdown : HostM Empty (Interface × Except Failure Unit)) :=
    Interface.shutdown_emits (fun _ routine w waits => (routine.waits w waits).elim) fun _ _ =>
      .of_still rfl
  -- Where a socket is opened, the worker is woken first.
  have opening {action : Session → HostM Failure (Session × Fd)}
      (course : ∀ s, Emits (Waits P) (action s)) :
      Emits (Waits P) (keep event (onSessionFd i action) : HostM Empty (Scenario × Reply)) := by
    refine Along.bind ?_ fun _ => .pure
    unfold onSessionFd onSession
    cases i.session? with
    | none   => exact .pure
    | some s =>
      refine Session.wake_emits.waits.bind fun s₁ => Along.bind ?_ fun _ => .pure
      exact change_along ((course s₁).bind fun _ => .pure)
  cases q with
  | init c          => exact (Along.bind (i.init_waits c) fun _ => .pure).bind fun _ => .pure
  | free            => exact ends.bind fun _ => .pure
  | drop            => exact ends.bind fun _ => .pure
  | registerRx x fs => exact opening fun _ => Session.registerRx_emits lines calls
  | openRx fs       => exact opening fun _ => Session.openRx_emits lines calls
  | _               => exact (answer_routine rfl asked).waits

/-- `Scenario.perform` adds only waits with `P`, where the timeout of the operation has `P`. -/
theorem perform_waits {op : Operation}
    (asked : ∀ timeout, op.timeout? = some timeout → P (.caller, Duration.pollMillis timeout)) :
    Emits (Waits P) (x.perform op : HostM Empty (Scenario × Reply)) := by
  cases op with
  | incident what => exact (incident_emits what).waits
  | request q =>
    obtain ⟨_ | i, event⟩ := x
    · exact .pure
    · exact answer_waits asked

/-- `Scenario.step` adds only waits with `P`, where the timeout of the operation and the interval
    that it leaves have `P`. -/
theorem step_waits {op : Operation}
    (asked : ∀ timeout, op.timeout? = some timeout → P (.caller, Duration.pollMillis timeout))
    (paces : Answers (fun r => r.1.Paces P) (x.perform op : HostM Empty (Scenario × Reply))) :
    Emits (Waits P) (x.step op : HostM Empty (Scenario × Reply)) := fun h =>
  Along.bind_at (perform_waits asked h) fun r h₁ run =>
    ((settle_emits (paces h r h₁ run)).waits.bind fun _ => .pure) h₁

end Scenario

end Requests

/-! ### Intervals -/

/-- The duration that an operation gives the worker for its waits; `none` where it gives none. -/
def Operation.interval? : Operation → Option Duration
  | .request (.init c)        => some c.pollTimeout
  | .request (.setInterval d) => some d
  | _                         => none

/-- The interval is the same, and there is no session where there was none. -/
structure Interface.KeepsPace (i i' : Interface) : Prop where
  interval : i'.interval = i.interval
  gone     : i.session? = none → i'.session? = none

theorem Interface.KeepsPace.refl (i : Interface) : i.KeepsPace i := ⟨rfl, id⟩

/-- `KeepsPace` for another session in place of the one that there is. -/
theorem Interface.KeepsPace.of_session {i : Interface} {s : Session} (there : i.session? = some s)
    (s' : Session) : i.KeepsPace { i with session? := some s' } := by
  refine ⟨rfl, fun gone => ?_⟩
  cases there.symm.trans gone

/-- `Interface.init c` ends without a session, or with the interval `keptInterval c.pollTimeout`. -/
theorem Interface.init_interval (c : Config) (i : Interface) :
    Answers (fun r => r.1.session? = none ∨ r.1.interval = keptInterval c.pollTimeout)
      (i.init c : HostM Empty (Interface × Except Failure Unit)) := by
  -- A start that fails leaves no session, and one that succeeds sets the interval.
  have starts {i : Interface} (gone : i.session? = none) :
      Answers (fun r => r.1.session? = none ∨ r.1.interval = keptInterval c.pollTimeout)
        (i.start c : HostM Empty (Interface × Except Failure Unit)) := by
    intro h r h' run
    obtain ⟨made, i', result, h₁, run', stages⟩ := i.start_stages c h
    obtain ⟨rfl, -⟩ := EStateM.Result.ok.inj (run'.symm.trans run)
    cases result with
    | error f => exact .inl (stages.of_error.trans gone)
    | ok _    =>
      obtain ⟨r, rfl⟩ := stages.of_ok
      exact .inr rfl
  -- The session that there was is released first, so that a start that fails leaves none.
  intro h r h' run
  obtain ⟨a, h₁, released, started⟩ := of_bind_ok run
  obtain rfl := release_answer released
  dsimp only at started
  split at started
  · obtain ⟨_, h₂, -, started⟩ := of_bind_ok started
    exact starts rfl h₂ r h' started
  · exact starts rfl h₁ r h' started

namespace Scenario

variable {x : Scenario} {i : Interface} {event : Event} {d : Duration}

/-- Where there is a session, its interval is `keptInterval d`. -/
def Paced (d : Duration) (x : Scenario) : Prop :=
  ∀ i, x.interface? = some i → i.session? = none ∨ i.interval = Interface.keptInterval d

/-- The worker of a scenario with `Paced d` waits for `d.waitMillis`. -/
theorem Paced.paces {P : Waiter × Int → Prop} (paced : x.Paced d) (waits : P (.worker, d.waitMillis)) :
    x.Paces P := by
  intro i s there found
  rcases paced i there with gone | made
  · cases gone.symm.trans found
  · rwa [made, Interface.waitMillis_keptInterval]

theorem Paced.of_keepsPace {i' : Interface} (paced : (⟨some i, event⟩ : Scenario).Paced d)
    (keeps : i.KeepsPace i') {event' : Event} : (⟨some i', event'⟩ : Scenario).Paced d := by
  rintro _ ⟨⟩
  exact (paced i rfl).imp keeps.gone keeps.interval.trans

theorem paced_of_none : (⟨none, event⟩ : Scenario).Paced d := by
  rintro _ ⟨⟩

theorem onSession_keepsPace (action : Session → HostM Empty (Session × Reply)) :
    Answers (fun r => i.KeepsPace r.1) (onSession i action) := by
  unfold onSession
  cases there : i.session? with
  | none   => exact .pure (.refl i)
  | some s => exact .bind fun _ => .bind fun r => .pure (.of_session there r.1)

/-- `Scenario.answer` keeps `Paced d` for a request that gives the worker no duration. -/
theorem answer_paced {q : Request} (keeps : (Operation.request q).interval? = none)
    (paced : (⟨some i, event⟩ : Scenario).Paced d) :
    Answers (fun r => r.1.Paced d) (answer event i q : HostM Empty (Scenario × Reply)) := by
  have kept {action : HostM Empty (Interface × Reply)} (course : Answers (fun r => i.KeepsPace r.1) action) :
      Answers (fun r : Scenario × Reply => r.1.Paced d) (keep event action) :=
    course.bind_of fun _ keeps => .pure (paced.of_keepsPace keeps)
  -- Each request keeps the interval, as `KeepsPace` has it, or leaves no interface.
  cases q with
  | init c            => cases keeps
  | setInterval d     => cases keeps
  | free              => exact .bind fun _ => .pure paced_of_none
  | drop              => exact .bind fun _ => .pure paced_of_none
  | registerRx x fs   => exact kept (onSession_keepsPace _)
  | unregisterRx x    => exact kept (onSession_keepsPace _)
  | openRx fs         => exact kept (onSession_keepsPace _)
  | closeRx fd        => exact kept (onSession_keepsPace _)
  | registerError x   => exact kept (onSession_keepsPace _)
  | unregisterError x => exact kept (onSession_keepsPace _)
  | poll timeout      => exact kept (onSession_keepsPace _)
  | dispatch e?       => exact kept (onSession_keepsPace _)
  | pollOnce timeout  =>
    unfold answer pollOnce
    cases there : i.session? with
    | none   => exact .pure paced
    | some s =>
      refine .bind fun s₁ => .bind ?_
      rintro ⟨s₂, event', result⟩
      cases result <;> exact .pure (paced.of_keepsPace (.of_session there s₂))
  | transmit f?       =>
    cases f? with
    | none   => exact .pure paced
    | some f => exact kept (.bind fun _ => .pure (.refl i))
  | txSocket          => exact .pure paced
  | state             => exact kept (.bind fun _ => .pure (.refl i))

/-- `Scenario.perform` keeps `Paced d` for an operation that gives the worker no duration. -/
theorem perform_paced {op : Operation} (keeps : op.interval? = none) (paced : x.Paced d) :
    Answers (fun r => r.1.Paced d) (x.perform op : HostM Empty (Scenario × Reply)) := by
  cases op with
  | request q =>
    obtain ⟨_ | i, event⟩ := x
    · exact .pure paced
    · exact answer_paced keeps paced
  | incident what =>
    -- Of all incidents a tick alone changes the session: the one wait of the worker is over.
    by_cases other : what = .tick
    · subst other
      obtain ⟨_ | ⟨name, config, link, interval, _ | s⟩, event⟩ := x
      · exact .bind_of (.pure paced) fun _ paced => .pure paced
      · exact .bind_of (.pure paced) fun _ paced => .pure paced
      · refine .bind_of (.bind fun r => ?_) fun _ paced => .pure paced
        exact .pure (paced.of_keepsPace (.of_session rfl r.1))
    · intro h r h' run
      rwa [beside_same other run]

/-- `Scenario.settle` keeps `Paced d`. -/
theorem settle_paced (paced : x.Paced d) : Answers (Paced d) (x.settle : HostM Empty Scenario) := by
  obtain ⟨_ | ⟨name, config, link, interval, _ | s⟩, event⟩ := x
  · exact .pure paced
  · exact .pure paced
  · exact .bind fun s' => .pure (paced.of_keepsPace (.of_session rfl s'))

/-- `Scenario.perform` makes `Paced d` of any scenario, for an operation that gives the
    worker `d`. -/
theorem perform_paced_of_sets {op : Operation} (sets : op.interval? = some d) :
    Answers (fun r => r.1.Paced d) (x.perform op : HostM Empty (Scenario × Reply)) := by
  cases op with
  | incident what => cases sets
  | request q =>
    obtain ⟨_ | i, event⟩ := x
    · exact .pure paced_of_none
    · -- A duration comes with an initialisation or with a new interval.
      cases q with
      | init c =>
        obtain rfl := Option.some.inj sets
        intro h r h' run
        obtain ⟨⟨i', result⟩, h₁, done⟩ := exists_ok (i.init c) h
        obtain ⟨rfl, -⟩ := EStateM.Result.ok.inj ((perform_init rfl done).symm.trans run)
        rintro _ ⟨⟩
        exact i.init_interval c h _ h₁ done
      | setInterval d =>
        obtain rfl := Option.some.inj sets
        refine .pure ?_
        rintro _ ⟨⟩
        exact .inr rfl
      | _ => cases sets

end Scenario

/-! ### Many steps -/

namespace Scenario

variable {P : Waiter × Int → Prop} {ops : List Operation} {x : Scenario}

/-- Steps that keep an invariant `Inv` add only waits with `P`, where the timeouts of the operations
    have `P` and `Inv` gives it to the worker. -/
theorem steps_waits {Inv : Scenario → Prop} (paces : ∀ x, Inv x → x.Paces P)
    (performs : ∀ x, Inv x → ∀ op ∈ ops,
      Answers (fun r => Inv r.1) (x.perform op : HostM Empty (Scenario × Reply)))
    (settles : ∀ x, Inv x → Answers Inv (x.settle : HostM Empty Scenario))
    (asked : ∀ op ∈ ops, ∀ timeout, op.timeout? = some timeout →
      P (.caller, Duration.pollMillis timeout)) (inv : Inv x) : Emits (Waits P) (steps ops x) := by
  induction ops generalizing x with
  | nil => exact .pure
  | cons op ops ih =>
    obtain ⟨first, more⟩ := List.forall_mem_cons.mp asked
    have one := performs x inv op List.mem_cons_self
    have waits := step_waits first fun h r h' run => paces r.1 (one h r h' run)
    have kept : Answers (fun r => Inv r.1) (x.step op : HostM Empty (Scenario × Reply)) :=
      one.bind_of fun r inv => (settles r.1 inv).bind_of fun _ inv => .pure inv
    intro h
    refine Along.bind_at (waits h) fun r h₁ run => ?_
    exact ih (fun x inv op there => performs x inv op (.tail _ there)) more (kept h r h₁ run) h₁

/-- In any steps, a caller waits for the timeout of one of the operations, and the worker for 0
    milliseconds or more. -/
theorem steps_callers_wait (ops : List Operation) (x : Scenario) : Emits (Waits fun w =>
    (w.1 = .caller → ∃ op ∈ ops, ∃ timeout, op.timeout? = some timeout ∧
      w.2 = Duration.pollMillis timeout) ∧
    (w.1 = .worker → 0 ≤ w.2)) (steps ops x) := by
  refine steps_waits (fun x _ i s _ _ => ⟨nofun, fun _ => i.interval.pollMillis_nonneg⟩)
    (fun x _ op _ _ _ _ _ => trivial) (fun x _ _ _ _ _ => trivial) ?_ (trivial : (fun _ => True) x)
  exact fun op member timeout polls => ⟨fun _ => ⟨op, member, timeout, polls, rfl⟩, nofun⟩

/-- Behind an operation that gives the worker `d`, and up to the next such one, the worker waits for
    `d.waitMillis`. -/
theorem steps_worker_waits {op : Operation} {d : Duration} {later : List Operation}
    (sets : op.interval? = some d) (keep : ∀ q ∈ later, q.interval? = none) (x : Scenario) :
    Emits (Waits fun w => w.1 = .worker → w.2 = d.waitMillis) (steps (op :: later) x) := by
  have one := perform_paced_of_sets (x := x) sets
  have waits : Emits (Waits fun w => w.1 = .worker → w.2 = d.waitMillis)
      (x.step op : HostM Empty (Scenario × Reply)) :=
    step_waits (fun _ _ => nofun) fun h r h' run => (one h r h' run).paces fun _ => rfl
  have paced : Answers (fun r => r.1.Paced d) (x.step op : HostM Empty (Scenario × Reply)) :=
    one.bind_of fun r made => (settle_paced made).bind_of fun _ made => .pure made
  intro h
  refine Along.bind_at (waits h) fun r h₁ run => ?_
  exact steps_waits (fun x made => made.paces fun _ => rfl)
    (fun x made q member => perform_paced (keep q member) made) (fun x made => settle_paced made)
    (fun _ _ _ _ => nofun) (paced h r h₁ run) h₁

end Scenario

/-- **A wait loses less than a microsecond that is left behind its milliseconds, and nothing else.**
    Take the least number of milliseconds that is no shorter than a duration. It is the number that
    is waited for, held at the largest of 32 bits, unless less than a microsecond is left behind the
    whole milliseconds; then it is one more. On the way to it no number is too large for its word,
    neither from the duration itself nor by way of an interval. Only no timeout stands for a wait
    without an end. A poll for which the lock is free waits once, for as long as its caller tells,
    and so does the worker for its interval. In any steps, the waits of callers are those of polls,
    and the worker does not wait without an end. From an initialisation or a new interval on, up to
    the next, the worker waits for as long as the duration that it came with. -/
theorem waits_as_asked {d : Duration} {n : Nat} (bounded : d.secs < 2 ^ 64)
    (least : IsLeast {n | d.nanos ≤ (Duration.ofMillis n).nanos} n) :
    ((d.waitMillis = min n maxInt32 ↔ ¬ (d.Shaved ∧ n ≤ maxInt32)) ∧
      (d.Shaved → n ≤ maxInt32 → d.waitMillis + 1 = n)) ∧
    (d.checkedMillis? = some d.waitMillis ∧ d.checkedInterval? = some (Interface.keptInterval d) ∧
      (Interface.keptInterval d).checkedMillis? = some d.waitMillis) ∧
    (Duration.pollMillis (some d) = d.waitMillis ∧
      ∀ timeout, Duration.pollMillis timeout = -1 ↔ timeout = none) ∧
    (∀ (s : Session) (timeout : Option Duration) (event : Event) (h : Host), s.poisoned = false →
      (left ((s.poll timeout : HostM Empty (Session × Outcome)) h)).journal.waits =
        h.journal.waits ++ [(.caller, Duration.pollMillis timeout)] ∧
      (left ((s.pollOnce timeout event : HostM Empty (Session × Event × Except Failure Nat)) h)).journal.waits
        = h.journal.waits ++ [(.caller, Duration.pollMillis timeout)] ∧
      (left ((s.enterWait (Interface.keptInterval d) : HostM Empty Session) h)).journal.waits =
        h.journal.waits ++ [(.worker, (d.waitMillis : Int))]) ∧
    (∀ (ops : List Operation) (x : Scenario) (h : Host), ∃ x' h' ws,
      Scenario.steps ops x h = .ok x' h' ∧ h'.journal.waits = h.journal.waits ++ ws ∧ ∀ w ∈ ws,
        (w.1 = .caller → ∃ op ∈ ops, ∃ timeout, op.timeout? = some timeout ∧
          w.2 = Duration.pollMillis timeout) ∧
        (w.1 = .worker → 0 ≤ w.2)) ∧
    ∀ (op : Operation) (later : List Operation) (x : Scenario) (h : Host),
      op.interval? = some d → (∀ q ∈ later, q.interval? = none) → ∃ x' h' ws,
        Scenario.steps (op :: later) x h = .ok x' h' ∧ h'.journal.waits = h.journal.waits ++ ws ∧
          ∀ w ∈ ws, w.1 = .worker → w.2 = d.waitMillis := by
  refine ⟨⟨Duration.waitMillis_eq_iff least, Duration.waitMillis_of_shaved least⟩,
    ⟨Duration.checkedMillis?_eq bounded, Duration.checkedInterval?_eq bounded,
      d.checkedMillis?_keptInterval⟩, ⟨rfl, fun _ => Duration.pollMillis_eq_neg_one_iff⟩, ?_, ?_, ?_⟩
  · intro s timeout event h free
    refine ⟨Session.poll_waits free timeout h, Session.pollOnce_waits free timeout event h, ?_⟩
    obtain ⟨h', run, waits⟩ := Session.enterWait_waits (ε := Empty) free (Interface.keptInterval d) h
    rw [run, ← Interface.waitMillis_keptInterval d]
    exact waits
  · exact fun ops x => (Scenario.steps_callers_wait ops x).exists_waits
  · exact fun op later x h sets keep => (Scenario.steps_worker_waits sets keep x).exists_waits h

/-- An interface without a session, on the link `.recorder .none`, which does all that it is
    asked for. -/
def Interface.unused : Interface where
  name     := "can0"
  config   := .default
  link     := .recorder .none
  interval := .zero
  session? := none

/-- The default settings with a `pollTimeout` of 1000001 nanoseconds. -/
def Config.nearlyMilli : Config := { Config.default with pollTimeout := ⟨1000001⟩ }

/-- The worker of `Config.nearlyMilli` waits for one millisecond, where two would be no shorter. -/
theorem waits_as_asked_nearly_milli :
    Config.nearlyMilli.pollTimeout.secs < 2 ^ 64 ∧
    IsLeast {n | Config.nearlyMilli.pollTimeout.nanos ≤ (Duration.ofMillis n).nanos} 2 ∧
    Config.nearlyMilli.pollTimeout.waitMillis + 1 = 2 ∧
    ∃ x' h', Scenario.steps [.request (.init .nearlyMilli), .request (.poll (some .zero))]
        (.ofInterface .unused) (.start [⟨"can0", 3, fdSize⟩] .none []) = .ok x' h' ∧
      h'.journal.waits = [(.worker, 1), (.caller, 0), (.worker, 1)] ∧
      ∀ w ∈ h'.journal.waits, w.1 = .worker → w.2 = Config.nearlyMilli.pollTimeout.waitMillis := by
  have bounded : Config.nearlyMilli.pollTimeout.secs < 2 ^ 64 := by decide
  have least : IsLeast {n | Config.nearlyMilli.pollTimeout.nanos ≤ (Duration.ofMillis n).nanos} 2 :=
    Duration.ceil_isLeast ⟨1000001⟩
  have course : (left (Scenario.steps [.request (.init .nearlyMilli), .request (.poll (some .zero))]
      (.ofInterface .unused) (.start [⟨"can0", 3, fdSize⟩] .none []))).journal.waits =
        [(.worker, 1), (.caller, 0), (.worker, 1)] := by decide +kernel
  obtain ⟨⟨-, shaved⟩, -, -, -, -, paced⟩ := waits_as_asked bounded least
  obtain ⟨x', h', ws, run, waits, told⟩ := paced (.request (.init .nearlyMilli))
    [.request (.poll (some .zero))] (.ofInterface .unused) (.start [⟨"can0", 3, fdSize⟩] .none []) rfl
    (List.forall_mem_singleton.mpr rfl)
  rw [run] at course
  refine ⟨bounded, least, shaved (by decide) (by decide), x', h', run, course, ?_⟩
  rw [waits]
  exact told

/-- `Session.poll` for a nanosecond waits for 0 milliseconds, where one would be the least that is
    no shorter. -/
theorem nanosecond_not_waited :
    IsLeast {n | (Duration.ofNanos 1).nanos ≤ (Duration.ofMillis n).nanos} 1 ∧
    (left ((Session.listening.poll (some (.ofNanos 1)) : HostM Empty (Session × Outcome))
      (.start [] .none []))).journal.waits = [(.caller, 0)] := by
  have least : IsLeast {n | (Duration.ofNanos 1).nanos ≤ (Duration.ofMillis n).nanos} 1 :=
    Duration.ceil_isLeast ⟨1⟩
  have cut : Duration.pollMillis (some (.ofNanos 1)) = 0 := by decide
  refine ⟨least, ?_⟩
  rw [Session.poll_waits (s := .listening) rfl, cut]
  rfl

end CanDriver
