import CanDriver.Proofs.Polling.Timeouts
import CanDriver.Proofs.Sockets.Configuration
import CanDriver.Proofs.Text.Boundaries

namespace CanDriver

/-!
# The name of an interface

* `Effect.Sizes name` — an effect asks for the size of the frames of no other link;
* `Scenario.Named name` — an interface and its session have a name, as long as they are there;
* `Scenario.step_sizes`, `Scenario.Traced.named_step` — what one step asks for, and what it makes of the
  name;
* `name_truncated` — what is kept of a name, and what stands of it in the requests of a whole history.
-/

open Host Effect

/-- If `e` is a `linkMtu` call, then for the link `name`. -/
def Effect.Sizes (name : String) (e : Effect) : Prop :=
  ∀ fd n e?, e = .call (.linkMtu fd n e?) → n = name

variable {name : String}

/-- A `Routine` effect is no `linkMtu` call. -/
theorem Effect.Routine.sizes {P : Waiter × Int → Prop} {e : Effect} (routine : e.Routine P) :
    e.Sizes name := by
  rintro fd n e? rfl
  cases routine.readies

/-! ### Setups -/

namespace Setup

/-- The `linkMtu` call of a step is for the link `s.name`. -/
theorem Step.sizes_calls {s : Subject} {index : UInt32} (step : Step) :
    ∀ call ∈ step.calls s index, ∀ e?, (Effect.call (call e?)).Sizes s.name := by
  cases step <;> simp [Step.calls, Sizes]

/-- The `linkMtu` calls of `Setup.openSocket name` are for the link `name`. -/
theorem openSocket_sizes {role : SocketRole} {steps : List Step} {index : UInt32} :
    Emits (Sizes name) (openSocket name role steps index) :=
  openSocket_makes (fun _ => nofun) (fun _ => nofun) (fun _ => nofun) fun _ step _ _ => step.sizes_calls

theorem openTx_sizes {c : Config} : Emits (Sizes name) (openTx name c) :=
  openSocket_sizes.bind fun _ => Along.bind (Emits.line fun _ => nofun) fun _ => .pure

theorem openRx_sizes {c : Config} {index : UInt32} {fs : List Filter} :
    Emits (Sizes name) (openRx name c index fs) :=
  openSocket_sizes.bind fun _ => Along.bind (Emits.line fun _ => nofun) fun _ => .pure

end Setup

/-- `Emits (Sizes name)` for a computation whose effects are `Routine`. -/
theorem Emits.sizes {ε α : Type} {P : Waiter × Int → Prop} {m : HostM ε α}
    (course : Emits (Routine P) m) : Emits (Sizes name) m :=
  course.widen fun _ routine => routine.sizes

namespace Session

variable {s : Session} {fs : List Filter}

theorem addSocket_sizes : Emits (Sizes s.name) (s.addSocket fs) :=
  Setup.openRx_sizes.bind fun _ => .pure

/-- The `linkMtu` calls of `Session.registerRx` are for the link `s.name`. -/
theorem registerRx_sizes {x : RxHandler} : Emits (Sizes s.name) (s.registerRx x fs) := by
  refine (lock_lines fun _ => nofun).bind fun _ => ?_
  split
  · exact Along.bind (Emits.line fun _ => nofun) fun _ => .throw
  · refine addSocket_sizes.bind ?_
    rintro ⟨s₁, fd⟩
    dsimp only
    split
    · exact (Emits.closeSocket (P := fun _ => True)).sizes.bind fun _ => .throw
    · exact Along.bind (Emits.line fun _ => nofun) fun _ => .pure

/-- The `linkMtu` calls of `Session.openRx` are for the link `s.name`. -/
theorem openRx_sizes : Emits (Sizes s.name) (s.openRx fs) :=
  (lock_lines fun _ => nofun).bind fun _ => addSocket_sizes.bind fun _ =>
    Along.bind (Emits.line fun _ => nofun) fun _ => .pure

end Session

namespace Interface

variable {i : Interface} {c : Config}

/-- The `linkMtu` calls of `Interface.start` are for the link `i.name`. -/
theorem start_sizes : Emits (Sizes i.name) (i.start c : HostM Empty (Interface × Except Failure Unit)) :=
  start_emits (fun _ => nofun) (fun _ => nofun) (fun _ _ => nofun) Setup.openTx_sizes

theorem init_sizes : Emits (Sizes i.name) (i.init c : HostM Empty (Interface × Except Failure Unit)) := by
  intro h
  refine Along.bind_at ((release_emits (P := fun _ => True)).sizes h) fun r h₁ run => ?_
  obtain rfl := release_answer run
  dsimp only
  split
  · exact (Along.bind (Emits.line fun _ => nofun) fun _ =>
      start_sizes (i := { i with session? := none })) h₁
  · exact start_sizes (i := { i with session? := none }) h₁

/-- `Interface.Stages` keeps the name of the interface. -/
theorem Stages.same_name {i' : Interface} {h h' : Host} {made : List LinkRequest}
    {result : Except Failure Unit} (stages : i.Stages c h made i' result h') : i'.name = i.name := by
  cases stages <;> rfl

end Interface

/-! ### Steps -/

namespace Scenario

/-- The interface of the scenario and its session have the name `name`, where there are any. -/
structure Named (name : String) (x : Scenario) : Prop where
  interface : ∀ i, x.interface? = some i → i.name = name
  session   : ∀ s, x.session? = some s → s.name = name

variable {x : Scenario} {i : Interface} {event : Event} {h h' : Host} {op : Operation}
  {r : Scenario × Reply}

/-- The `linkMtu` calls of `Scenario.onSessionFd` are for `name`, where those of its action are for
    the name of the session. -/
theorem onSessionFd_sizes (coherent : i.Coherent) {ts : List Thread} (holds : h.Holds (i.estate ts))
    (named : ∀ s, i.session? = some s → s.name = name) {action : Session → HostM Failure (Session × Fd)}
    (course : ∀ s, Emits (Sizes s.name) (action s)) :
    Adds (Sizes name) h (left ((onSessionFd i action : HostM Empty (Interface × Reply)) h)) := by
  unfold onSessionFd
  refine onSession_along coherent holds (fun s => (Session.wake_emits (P := fun _ => True)).sizes) ?_
  intro s s' there alike
  have same : s'.name = name := alike.name.trans (named s there)
  exact change_along (same ▸ (course s').bind fun _ => .pure)

/-- The `linkMtu` calls of `Scenario.answer` are for `name`, which interface and session have. -/
theorem answer_sizes (coherent : i.Coherent) {ts : List Thread} (holds : h.Holds (i.estate ts))
    (named : (⟨some i, event⟩ : Scenario).Named name) (q : Request) :
    Adds (Sizes name) h (left ((answer event i q : HostM Empty (Scenario × Reply)) h)) := by
  have keeps {action : HostM Empty (Interface × Reply)} (course : Adds (Sizes name) h (left (action h))) :
      Adds (Sizes name) h (left (keep event action h)) :=
    Along.bind_at course fun _ h₁ _ => refl_of _ h₁
  have ends : Emits (Sizes name) (i.shutdown : HostM Empty (Interface × Except Failure Unit)) :=
    Interface.shutdown_emits (fun _ routine => routine.sizes) fun _ _ => nofun
  have same : i.name = name := named.interface i rfl
  -- Only an initialisation and the two requests for a receive socket make such a call.
  cases q with
  | init c =>
    have starts : Emits (Sizes name) (i.init c : HostM Empty (Interface × Except Failure Unit)) :=
      same ▸ Interface.init_sizes
    exact keeps ((starts.bind fun _ => .pure) h)
  | free => exact (ends.bind fun _ => .pure) h
  | drop => exact (ends.bind fun _ => .pure) h
  | registerRx x fs =>
    exact keeps (onSessionFd_sizes coherent holds named.session fun _ => Session.registerRx_sizes)
  | openRx fs =>
    exact keeps (onSessionFd_sizes coherent holds named.session fun _ => Session.openRx_sizes)
  | _ => exact (answer_routine (P := fun _ => True) rfl fun _ _ => trivial).sizes h

/-- **The `linkMtu` calls of `Scenario.step` are for `name`**, which interface and session have.
    Only a setup makes such a call, and it is for the name of its session or interface. -/
theorem step_sizes (coherent : x.Coherent) {ts : List Thread} (holds : h.Holds (x.estate ts))
    (named : x.Named name) (op : Operation) :
    Adds (Sizes name) h (left ((x.step op : HostM Empty (Scenario × Reply)) h)) := by
  have performs : Adds (Sizes name) h (left ((x.perform op : HostM Empty (Scenario × Reply)) h)) := by
    cases op with
    | incident what => exact (incident_emits (P := fun _ => True) what).sizes h
    | request q =>
      obtain ⟨_ | i, event⟩ := x
      · exact refl_of _ h
      · exact answer_sizes coherent holds named q
  refine Along.bind_at performs fun r h₁ _ => ?_
  have settles : Emits (Sizes name) (r.1.settle : HostM Empty Scenario) :=
    (settle_emits (P := fun _ => True) fun _ _ _ _ => trivial).sizes
  exact (settles.bind fun _ => .pure) h₁

/-! ### The name from step to step -/

/-- The interface of the scenario has the name `name`, where there is one. -/
def Bears (name : String) (x : Scenario) : Prop := ∀ i, x.interface? = some i → i.name = name

theorem bears_of_none : (⟨none, event⟩ : Scenario).Bears name := by
  rintro _ ⟨⟩

theorem bears_of_some (same : i.name = name) : (⟨some i, event⟩ : Scenario).Bears name := by
  rintro _ ⟨⟩
  exact same

/-- `Scenario.onSession` keeps the name of the interface. -/
theorem onSession_bears (action : Session → HostM Empty (Session × Reply)) (same : i.name = name) :
    Answers (fun r => r.1.name = name) (onSession i action) := by
  unfold onSession
  cases i.session? with
  | none   => exact .pure same
  | some s => exact .bind fun _ => .bind fun _ => .pure same

/-- `Interface.init` keeps the name of the interface. -/
theorem init_bears (c : Config) (same : i.name = name) :
    Answers (fun r => r.1.name = name) (i.init c : HostM Empty (Interface × Except Failure Unit)) := by
  -- A release keeps all but the session, and a start keeps the name as `Stages` has it.
  have starts : Answers (fun r => r.1.name = name)
      (({ i with session? := none } : Interface).start c :
        HostM Empty (Interface × Except Failure Unit)) := by
    intro h r h' run
    obtain ⟨made, i', result, h₁, run', stages⟩ := Interface.start_stages { i with session? := none } c h
    obtain ⟨rfl, -⟩ := EStateM.Result.ok.inj (run'.symm.trans run)
    exact stages.same_name.trans same
  intro h r h' run
  obtain ⟨a, h₁, released, started⟩ := of_bind_ok run
  obtain rfl := Interface.release_answer released
  dsimp only at started
  split at started
  · obtain ⟨_, h₂, -, started⟩ := of_bind_ok started
    exact starts h₂ r h' started
  · exact starts h₁ r h' started

/-- `Scenario.answer` keeps the name of the interface. -/
theorem answer_bears (q : Request) (same : i.name = name) :
    Answers (fun r => r.1.Bears name) (answer event i q : HostM Empty (Scenario × Reply)) := by
  have kept {action : HostM Empty (Interface × Reply)}
      (course : Answers (fun r => r.1.name = name) action) :
      Answers (fun r : Scenario × Reply => r.1.Bears name) (keep event action) :=
    course.bind_of fun _ same => .pure (bears_of_some same)
  have onSession {action : Session → HostM Empty (Session × Reply)} :
      Answers (fun r : Scenario × Reply => r.1.Bears name) (keep event (onSession i action)) :=
    kept (onSession_bears action same)
  -- Each request replaces the session, or some field beside the name, or the interface is gone.
  cases q with
  | init c            => exact kept ((init_bears c same).bind_of fun _ same => .pure same)
  | free              => exact .bind fun _ => .pure bears_of_none
  | drop              => exact .bind fun _ => .pure bears_of_none
  | registerRx x fs   => exact onSession
  | unregisterRx x    => exact onSession
  | openRx fs         => exact onSession
  | closeRx fd        => exact onSession
  | registerError x   => exact onSession
  | unregisterError x => exact onSession
  | poll timeout      => exact onSession
  | dispatch e?       => exact onSession
  | pollOnce timeout  =>
    unfold answer pollOnce
    cases i.session? with
    | none   => exact .pure (bears_of_some same)
    | some s =>
      refine .bind fun s₁ => .bind ?_
      rintro ⟨s₂, event', result⟩
      cases result <;> exact .pure (bears_of_some same)
  | transmit f?       =>
    cases f? with
    | none   => exact .pure (bears_of_some same)
    | some f => exact kept (.bind fun _ => .pure same)
  | setInterval d     => exact .pure (bears_of_some same)
  | txSocket          => exact .pure (bears_of_some same)
  | state             => exact kept (.bind fun _ => .pure same)

/-- `Scenario.perform` keeps the name of the interface. -/
theorem perform_bears (op : Operation) (bears : x.Bears name) :
    Answers (fun r => r.1.Bears name) (x.perform op : HostM Empty (Scenario × Reply)) := by
  cases op with
  | request q =>
    obtain ⟨_ | i, event⟩ := x
    · exact .pure bears
    · exact answer_bears q (bears i rfl)
  | incident what =>
    -- Of all incidents a tick alone changes anything of the interface: its session.
    by_cases other : what = .tick
    · subst other
      obtain ⟨_ | ⟨n, config, link, interval, _ | s⟩, event⟩ := x
      · exact .bind_of (.pure bears) fun _ bears => .pure bears
      · exact .bind_of (.pure bears) fun _ bears => .pure bears
      · have same : n = name := bears _ rfl
        refine .bind_of (.bind fun r => ?_) fun _ bears => .pure bears
        exact .pure (bears_of_some same)
    · intro h r h' run
      rwa [beside_same other run]

/-- `Scenario.settle` keeps the name of the interface. -/
theorem settle_bears (bears : x.Bears name) : Answers (Bears name) (x.settle : HostM Empty Scenario) := by
  obtain ⟨_ | ⟨n, config, link, interval, _ | s⟩, event⟩ := x
  · exact .pure bears
  · exact .pure bears
  · have same : n = name := bears _ rfl
    exact .bind fun s' => .pure (bears_of_some same)

/-- The session that `Scenario.perform` leaves has the name `name`, where the scenario is
    `Named name`. -/
theorem perform_session_name (coherent : x.Coherent) (holds : h.Holds (x.estate h.kernel.detached))
    {ts' : List Thread} (goes : x.Goes h.kernel.detached op r ts') (named : x.Named name)
    (run : (x.perform op : HostM Empty (Scenario × Reply)) h = .ok r h') {s' : Session}
    (there : r.1.session? = some s') : s'.name = name := by
  -- Either the session goes on, or it ends and perhaps another begins.
  cases stays : op.staysOpen with
  | true =>
    cases before : x.session? with
    | none   => exact nomatch (perform_session_of_none before stays run).symm.trans there
    | some s =>
      obtain ⟨s₁, found, next, -⟩ := goes.kept stays s before
      obtain rfl := Option.some.inj (found.symm.trans there)
      exact next.name.trans (named.session s before)
  | false =>
    cases op with
    | incident what => cases stays
    | request q =>
      cases q with
      | free   => exact nomatch (perform_ends (.inl rfl) run).symm.trans there
      | drop   => exact nomatch (perform_ends (.inr rfl) run).symm.trans there
      | init c =>
        obtain ⟨_ | i, event⟩ := x
        · obtain ⟨rfl, -⟩ := EStateM.Result.ok.inj run
          cases there
        · -- The session is the first one of the interface.
          obtain ⟨kept, h₁, made, i', result, h₂, done, -, initialised⟩ :=
            Interface.init_initialised c coherent holds
          obtain ⟨rfl, -⟩ := EStateM.Result.ok.inj ((perform_init rfl done).symm.trans run)
          cases result with
          | error f => exact nomatch (initialised.undone f rfl).gone.symm.trans there
          | ok _    =>
            obtain ⟨ready, running⟩ := initialised.running rfl
            obtain rfl := Option.some.inj (running.session.symm.trans there)
            exact named.interface i rfl
      | _      => cases stays

variable {asked : String} {link : Link} {first : Host} {ops : List Operation}

/-- **`Scenario.step` keeps `Named name`** behind any history. -/
theorem Traced.named_step (traced : Traced asked link first ops x h) (named : x.Named name)
    (run : (x.step op : HostM Empty (Scenario × Reply)) h = .ok r h') : r.1.Named name := by
  obtain ⟨r₁, h₁, performed, -, _, holds₁, ts', goes, rfl⟩ :=
    (perform_spec traced.coherent op).answers traced.holds
  obtain ⟨x₂, h₂, settled, -, _, -, -, alike⟩ := (settle_steady goes.coherent).answers holds₁
  obtain rfl : (x₂, r₁.2) = r :=
    (EStateM.Result.ok.inj (((bind_ok performed).trans (bind_ok settled)).symm.trans run)).1
  have bears₁ : r₁.1.Bears name := perform_bears op named.interface h r₁ h₁ performed
  refine ⟨settle_bears bears₁ h₁ x₂ h₂ settled, fun s' there => ?_⟩
  obtain ⟨-, ⟨-, gone⟩ | ⟨s₁, s₂, found, found', same⟩⟩ := alike
  · exact nomatch gone.symm.trans there
  · obtain rfl := Option.some.inj (found'.symm.trans there)
    rw [same.name]
    exact perform_session_name traced.coherent traced.holds goes named performed found

/-- The scenario is `Named name`, and so are all `linkMtu` calls in the journal. -/
structure Called (name : String) (x : Scenario) (h : Host) : Prop where
  named : x.Named name
  sizes : ∀ e ∈ h.journal.toList, e.Sizes name

/-- `Interface.named asked` has the name `truncatedName asked`. -/
theorem Called.start (empty : first.journal = #[]) (run : history asked link [] first = .ok x h) :
    Called (truncatedName asked) x h := by
  have course : Emits (Sizes (truncatedName asked)) (history asked link []) :=
    Along.bind (Along.bind (Emits.line fun _ => nofun) fun _ => .pure) fun _ => .pure
  obtain ⟨es, way, sizes⟩ := course first
  rw [run] at way
  have journal : h.journal.toList = es := by
    rw [show h.journal.toList = first.journal.toList ++ es from way.journal, empty]
    rfl
  obtain ⟨i, h₁, made, done⟩ := of_bind_ok run
  obtain ⟨rfl, -⟩ := EStateM.Result.ok.inj done
  obtain ⟨rfl, -⟩ := EStateM.Result.ok.inj made
  refine ⟨⟨bears_of_some rfl, fun s there => ?_⟩, ?_⟩
  · cases there
  · rwa [journal]

/-- **Every history ends with `Called (truncatedName asked)`.** By induction on the operations, with
    `Traced.named_step` and `step_sizes`. -/
theorem exists_called (links : List NetworkLink) (faults : Faults) (traffic : List Item)
    (asked : String) (link : Link) (ops : List Operation) :
    ∃ x h, Traced asked link (.start links faults traffic) ops x h ∧
      Called (truncatedName asked) x h := by
  induction ops using List.reverseRecOn with
  | nil =>
    obtain ⟨x, h, traced⟩ : ∃ x h, Traced asked link (.start links faults traffic) [] x h :=
      Traced.start links faults traffic
    exact ⟨x, h, traced, .start rfl traced.run⟩
  | append_singleton ops op ih =>
    obtain ⟨x, h, traced, called⟩ := ih
    obtain ⟨r, h', run, -, -, more⟩ := traced.step op
    refine ⟨r.1, h', more, traced.named_step called.named run, ?_⟩
    obtain ⟨es, way, sizes⟩ := step_sizes traced.coherent traced.holds called.named op
    rw [run] at way
    rw [show h'.journal.toList = h.journal.toList ++ es from way.journal]
    exact List.forall_mem_append.mpr ⟨called.sizes, sizes⟩

end Scenario

/-- **The name of an interface is the longest start of the name that was asked for that has room.**
    It is made of whole characters, and takes up no more than 15 bytes. The search for the place to
    cut at ends at a boundary between characters, so that it neither goes on before the start nor
    cuts a character; no more than three of the 15 bytes are given up, and another cut changes
    nothing. After any steps the interface has this name, and whenever a link was asked for the size
    of its frames, it was this one: the request has all bytes of the name, and zeros behind them. -/
theorem name_truncated (name : String) :
    Cuts maxNameBytes name (truncatedName name) ∧
    (∃ p, boundaryFrom? name maxNameBytes = some p ∧
      IsGreatest {q : name.Pos | q.offset.byteIdx ≤ maxNameBytes} p ∧
      truncatedName name = (name.sliceTo p).copy) ∧
    min name.utf8ByteSize maxNameBytes ≤ (truncatedName name).utf8ByteSize + 3 ∧
    truncatedName (truncatedName name) = truncatedName name ∧
    ∀ (links : List NetworkLink) (faults : Faults) (traffic : List Item) (link : Link)
      (ops : List Operation), ∃ x h,
      Scenario.history name link ops (.start links faults traffic) = .ok x h ∧
      (∀ i, x.interface? = some i → i.name = truncatedName name) ∧
      ∀ fd n e?, .call (.linkMtu fd n e?) ∈ h.journal.toList → n = truncatedName name ∧
        requestName n = n.toUTF8.data.toList ++ List.replicate (nameRoom - n.utf8ByteSize) 0 := by
  have cuts := truncatedName_cuts name
  refine ⟨cuts, truncatedName_boundary name, min_size_le_truncatedName name,
    truncatedName_truncatedName name, fun links faults traffic link ops => ?_⟩
  obtain ⟨x, h, traced, called⟩ := Scenario.exists_called links faults traffic name link ops
  refine ⟨x, h, traced.run, called.named.interface, fun fd n e? there => ?_⟩
  obtain rfl : n = truncatedName name := called.sizes _ there fd n e? rfl
  exact ⟨rfl, requestName_of_fits cuts.fits⟩

end CanDriver
