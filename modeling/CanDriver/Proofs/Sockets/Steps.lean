import CanDriver.Proofs.Sockets.Lifecycle
import CanDriver.Scenario

namespace CanDriver

/-!
# The sockets from step to step

* `Interface.Keeps` — the session goes on, coherent and with the same transmit socket;
* `Scenario.Goes` — what a step makes of the session and of the threads that were let go;
* `Scenario.step_spec` — every step goes in order, and leaves the sockets of the session and of
  those threads open and no others.
-/

open Host

namespace Interface

variable {i i' : Interface} {ts : List Thread}

/-- The session goes on with `Session.Next`, or there is none before and after. -/
def Keeps (i i' : Interface) : Prop :=
  (i.session? = none ∧ i'.session? = none) ∨
    ∃ s s', i.session? = some s ∧ i'.session? = some s' ∧ s.Next s'

theorem Keeps.refl (coherent : i.Coherent) : i.Keeps i := by
  cases h : i.session? with
  | none   => exact .inl ⟨h, h⟩
  | some s => exact .inr ⟨s, s, h, h, coherent s h, rfl, rfl, rfl⟩

theorem Keeps.coherent (keeps : i.Keeps i') : i'.Coherent := by
  intro s there
  obtain ⟨-, gone⟩ | ⟨_, s', -, found, next⟩ := keeps
  · rw [gone] at there
    cases there
  · rw [found] at there
    exact Option.some.inj there ▸ next.coherent

/-- `Interface.transmit` leaves the estate. -/
theorem transmit_steady {f : Frame} :
    Steady (i.estate ts) (i.transmit f) fun _ => True := by
  unfold transmit Interface.session
  cases h : i.session? with
  | none => exact .throw_bind
  | some s =>
    have held : s.tx ∈ (i.estate ts).held := by
      rw [estate_of_session h]
      exact List.mem_cons_self
    -- The frame goes to the transmit socket, which is held.
    refine .bind (.pure (P := (· = s)) rfl) ?_
    rintro _ rfl
    refine .bind ((Steady.send held).orElse fun errno => ?_) fun written _ => ?_
    · split
      · exact .throw_bind
      · exact .bind .log fun _ _ => .throw
    · split
      · exact .bind .log fun _ _ => .throw_bind
      · exact .log

end Interface

namespace Scenario

variable {i : Interface} {s : Session} {ts : List Thread}

/-- `Scenario.onSession` is `Keeps`, where its action is `Session.Next`. -/
theorem onSession_spec {action : Session → HostM Empty (Session × Reply)} (coherent : i.Coherent)
    (course : ∀ s, s.Coherent → Spec (s.estate ts) (action s)
      (fun r e => s.Next r.1 ∧ e = r.1.estate ts) fun _ _ => False) :
    Spec (i.estate ts) (onSession i action) (fun r e => i.Keeps r.1 ∧ e = r.1.estate ts)
      fun _ _ => False := by
  unfold onSession
  cases h : i.session? with
  | none   => exact .pure ⟨.inl ⟨h, h⟩, rfl⟩
  | some s =>
    have sound := coherent s h
    rw [Interface.estate_of_session h]
    -- The worker polls once before it lets go of the lock.
    refine Spec.after (Session.wake_steady sound.heldBy).sure fun s₁ one => ?_
    rw [show s.estate ts = s₁.estate ts by rw [Session.estate, Session.estate, one.alike.sockets]]
    refine (course s₁ (one.alike.coherent sound)).bind ?_
    rintro ⟨s₂, reply⟩ _ ⟨two, rfl⟩
    exact .pure ⟨.inr ⟨s, s₂, h, rfl, (one.alike.next sound).trans two⟩, rfl⟩

/-- `Scenario.change` is `Session.Next`, where its action is or fails with the estate as it was. -/
theorem change_spec {action : HostM Failure (Session × Reply)} (coherent : s.Coherent)
    (course : Spec (s.estate ts) action (fun r e => s.Next r.1 ∧ e = r.1.estate ts)
      fun _ e => e = s.estate ts) :
    Spec (s.estate ts) (change s action : HostM Empty (Session × Reply))
      (fun r e => s.Next r.1 ∧ e = r.1.estate ts) fun _ _ => False := by
  refine course.tried.bind ?_
  rintro _ _ (⟨⟨s', reply⟩, rfl, next, rfl⟩ | ⟨f, rfl, rfl⟩)
  · exact .pure ⟨next, rfl⟩
  · exact .pure ⟨⟨coherent, rfl, rfl, rfl⟩, rfl⟩

/-- `Scenario.onSessionUnit` is `Keeps`, where its action is `Session.Next`. -/
theorem onSessionUnit_spec {action : Session → HostM Failure Session} (coherent : i.Coherent)
    (course : ∀ s, s.Coherent → Spec (s.estate ts) (action s)
      (fun s' e => s.Next s' ∧ e = s'.estate ts) fun _ e => e = s.estate ts) :
    Spec (i.estate ts) (onSessionUnit i action : HostM Empty (Interface × Reply))
      (fun r e => i.Keeps r.1 ∧ e = r.1.estate ts) fun _ _ => False := by
  refine onSession_spec coherent fun s sound => change_spec sound ((course s sound).bind ?_)
  rintro s' _ ⟨next, rfl⟩
  exact .pure ⟨next, rfl⟩

/-- `Scenario.onSessionFd` is `Keeps`, where its action is `Session.Next`. -/
theorem onSessionFd_spec {action : Session → HostM Failure (Session × Fd)} (coherent : i.Coherent)
    (course : ∀ s, s.Coherent → Spec (s.estate ts) (action s)
      (fun r e => s.Next r.1 ∧ e = r.1.estate ts) fun _ e => e = s.estate ts) :
    Spec (i.estate ts) (onSessionFd i action : HostM Empty (Interface × Reply))
      (fun r e => i.Keeps r.1 ∧ e = r.1.estate ts) fun _ _ => False := by
  refine onSession_spec coherent fun s sound => change_spec sound ((course s sound).bind ?_)
  rintro ⟨s', fd⟩ _ ⟨next, rfl⟩
  exact .pure ⟨next, rfl⟩

/-- `Scenario.onSessionCalling` is `Keeps`, where its action is `Session.Alike`. -/
theorem onSessionCalling_spec {action : Session → HostM Empty (Session × Outcome)}
    (coherent : i.Coherent)
    (course : ∀ s : Session, s.Coherent → Steady (s.estate ts) (action s) fun r => s.Alike r.1) :
    Spec (i.estate ts) (onSessionCalling i action) (fun r e => i.Keeps r.1 ∧ e = r.1.estate ts)
      fun _ _ => False := by
  refine onSession_spec coherent fun s sound => Spec.after (course s sound).sure ?_
  rintro ⟨s', outcome⟩ alike
  exact .pure ⟨alike.next sound, by rw [Session.estate, Session.estate, alike.sockets]⟩

end Scenario

/-! ### Steps -/

/-- The operation leaves the session to go on: it is no `.init`, `.free` or `.drop`. -/
def Operation.staysOpen : Operation → Bool
  | .request (.init _) => false
  | .request .free     => false
  | .request .drop     => false
  | _                  => true

/-- The request is refused where there is no session. -/
def Request.needsSession : Request → Bool
  | .init _         => false
  | .free           => false
  | .drop           => false
  | .transmit none  => false
  | .setInterval _  => false
  | .state          => false
  | _               => true

/-- A request with `needsSession` fails without a session, and nothing else happens. -/
theorem Scenario.perform_of_none {x : Scenario} {i : Interface} (there : x.interface? = some i)
    (gone : i.session? = none) {r : Request} (needs : r.needsSession = true) (h : Host) :
    (x.perform (.request r) : HostM Empty (Scenario × Reply)) h =
      .ok (x, .failed (.ofCode .notInitialized)) h := by
  obtain ⟨_, event⟩ := x
  obtain rfl := there
  obtain ⟨name, config, link, interval, _⟩ := i
  obtain rfl := gone
  cases r with
  | transmit f? => cases f? with
    | none => cases needs
    | some f => rfl
  | init | free | drop | setInterval | state => cases needs
  | _ => rfl

namespace Scenario

variable {x x' : Scenario} {i : Interface} {ts ts' : List Thread} {op : Operation}

/-- The session of the interface, if there is one. -/
def session? (x : Scenario) : Option Session := x.interface?.bind (·.session?)

/-- The sockets of the session; none without one. -/
def sockets (x : Scenario) : List Fd := (x.session?.map Session.sockets).getD []

/-- The estate of a scenario: its sockets, and the detached workers `ts`. -/
def estate (x : Scenario) (ts : List Thread) : Estate := ⟨x.sockets, ts⟩

/-- The session, if there is one, is coherent. -/
def Coherent (x : Scenario) : Prop := ∀ s, x.session? = some s → s.Coherent

/-- `Coherent` without a session. -/
theorem coherent_of_none (gone : x.session? = none) : x.Coherent := by
  intro s there
  rw [gone] at there
  cases there

/-- The estate without a session holds nothing. -/
theorem estate_of_none (gone : x.session? = none) : x.estate ts = ⟨[], ts⟩ := by
  rw [estate, sockets, gone]
  rfl

theorem session?_of_interface (there : x.interface? = some i) : x.session? = i.session? := by
  rw [session?, there, Option.bind_some]

theorem estate_of_interface (there : x.interface? = some i) : x.estate ts = i.estate ts := by
  rw [estate, sockets, Interface.estate, Interface.sockets, session?_of_interface there]

/-- What an operation makes of the session, and of the detached workers `ts`. -/
structure Goes (x : Scenario) (ts : List Thread) (op : Operation) (r : Scenario × Reply)
    (ts' : List Thread) : Prop where
  coherent : r.1.Coherent
  /-- A detached worker that is new has what remains of the session. -/
  threads  : ∀ t ∈ ts', t ∈ ts ∨ ∃ s, x.session? = some s ∧ s.config.shutdown = .detach ∧
    t = ⟨s.name, s.remains⟩
  /-- The session goes on, and where a detached worker ends it keeps its sockets. -/
  kept     : op.staysOpen = true → ∀ s, x.session? = some s → ∃ s', r.1.session? = some s' ∧
    s.Next s' ∧ (ts' = ts ∨ ts'.Sublist ts ∧ s'.waitSet = s.waitSet)
  /-- A new session has the transmit socket alone. -/
  started  : ∀ c, op = .request (.init c) → r.2 = .done →
    ∃ s', r.1.session? = some s' ∧ s'.waitSet.rx = []
  freed    : op = .request .free → r.1.interface? = none

/-- Both scenarios have no session, or sessions that are `Session.Alike`. -/
def Alike (x x' : Scenario) : Prop :=
  (x.interface? = none → x'.interface? = none) ∧
    ((x.session? = none ∧ x'.session? = none) ∨
      ∃ s s', x.session? = some s ∧ x'.session? = some s' ∧ s.Alike s')

theorem Alike.refl (x : Scenario) : x.Alike x := by
  refine ⟨id, ?_⟩
  cases h : x.session? with
  | none   => exact .inl ⟨rfl, rfl⟩
  | some s => exact .inr ⟨s, s, rfl, rfl, .refl s⟩

theorem Alike.sockets (alike : x.Alike x') : x'.sockets = x.sockets := by
  obtain ⟨-, ⟨h, h'⟩ | ⟨s, s', h, h', same⟩⟩ := alike
  · rw [Scenario.sockets, Scenario.sockets, h, h']
  · rw [Scenario.sockets, Scenario.sockets, h, h', Option.map_some, Option.map_some, same.sockets]

theorem Alike.coherent (alike : x.Alike x') (coherent : x.Coherent) : x'.Coherent := by
  intro s₁ there
  obtain ⟨-, ⟨-, h'⟩ | ⟨s, s', h, h', same⟩⟩ := alike
  · rw [h'] at there
    cases there
  · rw [h'] at there
    exact Option.some.inj there ▸ same.coherent (coherent s h)

/-- `Goes` for a scenario that is `Alike` to the one that the operation leaves. -/
theorem Goes.alike {r : Scenario × Reply} (goes : x.Goes ts op r ts') (alike : r.1.Alike x') :
    x.Goes ts op (x', r.2) ts' := by
  -- A session after the step is one beside it, with the same sockets and handlers.
  have after : ∀ {s}, r.1.session? = some s → ∃ s', x'.session? = some s' ∧ s.Alike s' := by
    intro s there
    obtain ⟨-, ⟨h, -⟩ | ⟨s₁, s', h, h', same⟩⟩ := alike
    · rw [h] at there
      cases there
    · obtain rfl := Option.some.inj (h.symm.trans there)
      exact ⟨s', h', same⟩
  refine ⟨alike.coherent goes.coherent, goes.threads, ?_, ?_, fun same => alike.1 (goes.freed same)⟩
  · intro stays s there
    obtain ⟨s₁, found, next, part⟩ := goes.kept stays s there
    obtain ⟨s', found', same⟩ := after found
    exact ⟨s', found', next.trans (same.next next.coherent), same.waitSet.symm ▸ part⟩
  · intro c same done
    obtain ⟨s₁, found, only⟩ := goes.started c same done
    obtain ⟨s', found', alike'⟩ := after found
    exact ⟨s', found', alike'.waitSet.symm ▸ only⟩

/-- `Goes` for an operation that is `Interface.Keeps` and ends no detached worker. -/
theorem Goes.of_keeps {event : Event} {i' : Interface} {reply : Reply} (there : x.interface? = some i)
    (stays : op.staysOpen = true) (keeps : i.Keeps i') :
    x.Goes ts op (⟨some i', event⟩, reply) ts := by
  have same : x.session? = i.session? := session?_of_interface there
  refine ⟨keeps.coherent, fun t member => .inl member, ?_, ?_, ?_⟩
  · intro _ s found
    rw [same] at found
    obtain ⟨gone, -⟩ | ⟨s₁, s', h, h', next⟩ := keeps
    · rw [gone] at found
      cases found
    · obtain rfl := Option.some.inj (h.symm.trans found)
      exact ⟨s', h', next, .inl rfl⟩
  · rintro c rfl
    cases stays
  · rintro rfl
    cases stays

/-- `Goes` for an operation that is `Alike`, and may end detached workers. -/
theorem Goes.of_alike {reply : Reply} (coherent : x.Coherent) (stays : op.staysOpen = true)
    (alike : x.Alike x') (part : ts'.Sublist ts) : x.Goes ts op (x', reply) ts' := by
  refine ⟨alike.coherent coherent, fun t member => .inl (part.subset member), ?_, ?_, ?_⟩
  · intro _ s found
    obtain ⟨-, ⟨gone, -⟩ | ⟨s₁, s', h, h', same⟩⟩ := alike
    · rw [gone] at found
      cases found
    · obtain rfl := Option.some.inj (h.symm.trans found)
      exact ⟨s', h', same.next (coherent _ h), .inr ⟨part, same.waitSet⟩⟩
  · rintro c rfl
    cases stays
  · rintro rfl
    cases stays

/-- The detached workers of `Interface.Leaves` are as `Goes` has them. -/
theorem threads_of_leaves {event : Event} (leaves : i.Leaves ts ts') :
    ∀ t ∈ ts', t ∈ ts ∨ ∃ s, (⟨some i, event⟩ : Scenario).session? = some s ∧
      s.config.shutdown = .detach ∧ t = ⟨s.name, s.remains⟩ := by
  intro t member
  obtain rfl | ⟨s, found, detaches, rfl⟩ := leaves
  · exact .inl member
  · rcases List.mem_append.mp member with old | new
    · exact .inl old
    · exact .inr ⟨s, found, detaches.2, List.mem_singleton.mp new⟩

/-- `Goes` for an initialisation with `Interface.Started` and `Interface.Leaves`. -/
theorem Goes.of_started {event : Event} {c : Config} {i' : Interface}
    {result : Except Failure Unit} (started : i'.Started result) (leaves : i.Leaves ts ts') :
    (⟨some i, event⟩ : Scenario).Goes ts (.request (.init c))
      (⟨some i', event⟩, .ofResult result) ts' := by
  refine ⟨started.coherent, threads_of_leaves leaves, fun stays => absurd stays Bool.false_ne_true,
    ?_, fun same => by cases same⟩
  intro _ _ done
  have success : result = .ok () := by
    cases result with
    | ok _    => rfl
    | error _ => cases done
  obtain ⟨s, found⟩ := Option.isSome_iff_exists.mp (started.answer.mp success)
  exact ⟨s, found, started.fresh s found⟩

/-- `Goes` for the end of the interface with `Interface.Leaves`. -/
theorem Goes.of_ended {event : Event} {q : Request} {reply : Reply}
    (ends : (Operation.request q).staysOpen = false) (other : ∀ c, q ≠ .init c)
    (leaves : i.Leaves ts ts') :
    (⟨some i, event⟩ : Scenario).Goes ts (.request q) (⟨none, event⟩, reply) ts' := by
  refine ⟨fun s there => (nomatch there), threads_of_leaves leaves, ?_, ?_, fun _ => rfl⟩
  · intro stays
    rw [ends] at stays
    cases stays
  · intro c same
    exact absurd (Operation.request.inj same) (other c)

/-! ### What the caller asks -/

section Answer

variable (coherent : i.Coherent) (event : Event)

/-- `Scenario.keep` of an action that is `Interface.Keeps` is `Goes`. -/
theorem keep_spec {q : Request} (stays : (Operation.request q).staysOpen = true)
    {action : HostM Empty (Interface × Reply)}
    (course : Spec (i.estate ts) action (fun r e => i.Keeps r.1 ∧ e = r.1.estate ts)
      fun _ _ => False) :
    Spec (i.estate ts) (keep event action) (fun r e => ∃ ts',
      (⟨some i, event⟩ : Scenario).Goes ts (.request q) r ts' ∧ e = r.1.estate ts')
      fun _ _ => False := by
  refine course.bind ?_
  rintro ⟨i', reply⟩ _ ⟨kept, rfl⟩
  exact .pure ⟨ts, .of_keeps rfl stays kept, (estate_of_interface rfl).symm⟩

include coherent

/-- A request that leaves the session and the host is `Goes`. -/
theorem asked_spec {q : Request} (stays : (Operation.request q).staysOpen = true) (i' : Interface)
    (same : i'.session? = i.session?) {event' : Event} {reply : Reply} :
    Spec (i.estate ts) (pure (⟨some i', event'⟩, reply) : HostM Empty (Scenario × Reply))
      (fun r e => ∃ ts', (⟨some i, event⟩ : Scenario).Goes ts (.request q) r ts' ∧
        e = r.1.estate ts') fun _ _ => False := by
  have keeps : i.Keeps i' := by
    rcases Interface.Keeps.refl coherent with ⟨h, -⟩ | ⟨s, s', h, h', next⟩
    · exact .inl ⟨h, same.trans h⟩
    · exact .inr ⟨s, s', h, same.trans h', next⟩
  have held : i.estate ts = (⟨some i', event'⟩ : Scenario).estate ts := by
    rw [estate_of_interface rfl, Interface.estate, Interface.estate, Interface.sockets,
      Interface.sockets, same]
  exact .pure ⟨ts, .of_keeps rfl stays keeps, held⟩

/-- `Scenario.answer` of `.init c` is `Goes`. -/
theorem init_spec (c : Config) :
    Spec (i.estate ts) (answer event i (.init c) : HostM Empty (Scenario × Reply))
      (fun r e => ∃ ts', (⟨some i, event⟩ : Scenario).Goes ts (.request (.init c)) r ts' ∧
        e = r.1.estate ts') fun _ _ => False := by
  have course : Spec (i.estate ts) (do
      let r ← i.init c
      return (r.1, .ofResult r.2) : HostM Empty (Interface × Reply)) (fun r e => ∃ result ts',
        r.2 = .ofResult result ∧ r.1.Started result ∧ i.Leaves ts ts' ∧ e = r.1.estate ts')
      fun _ _ => False := by
    refine (Interface.init_spec coherent).bind ?_
    rintro ⟨i', result⟩ _ ⟨started, ts', leaves, rfl⟩
    exact .pure ⟨result, ts', rfl, started, leaves, rfl⟩
  refine course.bind ?_
  rintro ⟨i', _⟩ _ ⟨result, ts', rfl, started, leaves, rfl⟩
  exact .pure ⟨ts', .of_started started leaves, (estate_of_interface rfl).symm⟩

/-- `Interface.shutdown`, and no interface behind it, is `Goes`. -/
theorem shutdown_spec {q : Request} (ends : (Operation.request q).staysOpen = false)
    (other : ∀ c, q ≠ .init c) (reply : Except Failure Unit → Reply) :
    Spec (i.estate ts) (do
      let r ← i.shutdown
      return (⟨none, event⟩, reply r.2) : HostM Empty (Scenario × Reply))
      (fun r e => ∃ ts', (⟨some i, event⟩ : Scenario).Goes ts (.request q) r ts' ∧
        e = r.1.estate ts') fun _ _ => False := by
  refine (Interface.shutdown_spec coherent).bind ?_
  rintro ⟨i', result⟩ _ ⟨ts', leaves, rfl⟩
  exact .pure ⟨ts', .of_ended ends other leaves, rfl⟩

/-- `Scenario.pollOnce` is `Goes`. -/
theorem pollOnce_spec {timeout : Option Duration} :
    Spec (i.estate ts) (pollOnce timeout event i : HostM Empty (Scenario × Reply))
      (fun r e => ∃ ts', (⟨some i, event⟩ : Scenario).Goes ts (.request (.pollOnce timeout)) r ts' ∧
        e = r.1.estate ts') fun _ _ => False := by
  unfold pollOnce
  cases h : i.session? with
  | none =>
    exact asked_spec coherent event (q := .pollOnce timeout) rfl i rfl
  | some s =>
    have sound := coherent s h
    rw [Interface.estate_of_session h]
    -- The worker is woken, and then the caller polls; both leave the estate.
    refine Spec.after (Session.wake_steady sound.heldBy).sure fun s₁ one => ?_
    have held₁ : s₁.HeldBy (s.estate ts) := one.alike.heldBy sound.heldBy
    refine Spec.after (Session.pollOnce_steady held₁).sure ?_
    rintro ⟨s₂, event', result⟩ two
    have alike := one.alike.trans two
    have keeps : i.Keeps { i with session? := some s₂ } := .inr ⟨s, s₂, h, rfl, alike.next sound⟩
    have held : s.estate ts = s₂.estate ts := by
      rw [Session.estate, Session.estate, alike.sockets]
    cases result with
    | ok size => exact .pure ⟨ts, .of_keeps rfl rfl keeps, held⟩
    | error f => exact .pure ⟨ts, .of_keeps rfl rfl keeps, held⟩

/-- `Scenario.answer` is `Goes` for every request. -/
theorem answer_spec (q : Request) :
    Spec (i.estate ts) (answer event i q : HostM Empty (Scenario × Reply))
      (fun r e => ∃ ts', (⟨some i, event⟩ : Scenario).Goes ts (.request q) r ts' ∧
        e = r.1.estate ts') fun _ _ => False := by
  -- Each request cites the lemma about its operation on the session.
  cases q with
  | init c => exact init_spec coherent event c
  | free   => exact shutdown_spec coherent event (q := .free) rfl (fun _ same => nomatch same) _
  | drop   =>
    exact shutdown_spec coherent event (q := .drop) rfl (fun _ same => nomatch same) fun _ => .done
  | registerRx x fs =>
    exact keep_spec event rfl
      (onSessionFd_spec coherent fun s sound => Session.registerRx_spec sound)
  | unregisterRx x =>
    exact keep_spec event rfl
      (onSessionUnit_spec coherent fun s sound => Session.unregisterRx_spec sound)
  | openRx fs =>
    exact keep_spec event rfl
      (onSessionFd_spec coherent fun s sound => Session.openRx_spec sound)
  | closeRx fd =>
    exact keep_spec event rfl
      (onSessionUnit_spec coherent fun s sound => Session.closeRx_spec sound)
  | registerError x =>
    exact keep_spec event rfl
      (onSessionUnit_spec coherent fun s sound => Session.registerError_spec sound)
  | unregisterError x =>
    exact keep_spec event rfl
      (onSessionUnit_spec coherent fun s sound => Session.unregisterError_spec sound)
  | pollOnce timeout => exact pollOnce_spec coherent event
  | poll timeout =>
    exact keep_spec event rfl (onSessionCalling_spec coherent fun s sound =>
      (Session.poll_steady sound.heldBy).mono fun _ polled => polled.alike)
  | dispatch e? =>
    exact keep_spec event rfl (onSessionCalling_spec coherent fun s sound =>
      Session.dispatch_steady.mono fun _ polled => polled.alike)
  | transmit f? =>
    cases f? with
    | none   => exact asked_spec coherent event (q := .transmit none) rfl i rfl
    | some f =>
      refine keep_spec event rfl (Spec.after Interface.transmit_steady.attempt.sure fun _ _ => ?_)
      exact .pure ⟨.refl coherent, rfl⟩
  | setInterval d => exact asked_spec coherent event (q := .setInterval d) rfl (i.withInterval d) rfl
  | txSocket      => exact asked_spec coherent event (q := .txSocket) rfl i rfl
  | state         =>
    refine keep_spec event rfl (Spec.after (P := fun _ => True) ?_ fun _ _ => ?_)
    · exact Spec.after .ask fun _ _ => .pure ⟨rfl, trivial⟩
    · exact .pure ⟨.refl coherent, rfl⟩

end Answer

/-! ### All steps -/

/-- `Scenario.deliverAll` changes the queues of sockets, and no estate. -/
theorem deliverAll_steady {e : Estate} (items : List (Fd × Item)) :
    Steady e (deliverAll items : HostM Empty Nat) fun _ => True := by
  induction items with
  | nil => exact .pure trivial
  | cons entry items ih =>
    refine .bind .ask fun found _ => ?_
    refine .bind (.modifyKernel (fun _ => Kernel.books_enqueue) fun _ => rfl) fun _ _ => ?_
    exact .bind ih fun _ _ => .pure trivial

theorem setOverride_steady {e : Estate} {fd : Fd} {report : Nat} :
    Steady e (setOverride fd report : HostM Empty Bool) fun _ => True := by
  refine .bind .ask fun found _ => ?_
  refine .bind (.modifyKernel (fun _ => ?_) fun _ => rfl) fun _ _ => .pure trivial
  exact Kernel.books_modifySocket fun _ => rfl

theorem addFaults_steady {e : Estate} {faults : List (Point × List Int)} :
    Steady e (addFaults faults : HostM Empty Unit) fun _ => True :=
  Spec.modifyKernel (fun _ => rfl) fun _ => rfl

section Step

/-- `Scenario.tick` leaves the estate, and is `Alike`. -/
theorem tick_steady :
    Steady (x.estate ts) (x.tick : HostM Empty (Scenario × Bool)) fun r => x.Alike r.1 := by
  unfold tick
  split
  · next i there =>
    split
    · next s found =>
      refine .bind Session.tick_steady ?_
      rintro ⟨s', waited⟩ alike
      have same : x.session? = some s := (session?_of_interface there).trans found
      exact .pure ⟨fun gone => by simp [there] at gone, .inr ⟨s, s', same, rfl, alike⟩⟩
    · exact .pure (.refl x)
  · exact .pure (.refl x)

variable (coherent : x.Coherent)

include coherent

/-- `Scenario.settle` leaves the estate, and is `Alike`. -/
theorem settle_steady :
    Steady (x.estate ts) (x.settle : HostM Empty Scenario) fun x' => x.Alike x' := by
  unfold settle
  split
  · next i there =>
    split
    · next s found =>
      have same : x.session? = some s := (session?_of_interface there).trans found
      have held : x.estate ts = s.estate ts := by rw [estate, sockets, same]; rfl
      have sound := coherent s same
      refine .bind (Session.settle_steady (held ▸ sound.heldBy)) fun s' alike => ?_
      exact .pure ⟨fun gone => by simp [there] at gone, .inr ⟨s, s', same, rfl, alike⟩⟩
    · exact .pure (.refl x)
  · exact .pure (.refl x)

/-- `Scenario.perform` is `Goes` for every operation. -/
theorem perform_spec (op : Operation) :
    Spec (x.estate ts) (x.perform op : HostM Empty (Scenario × Reply))
      (fun r e => ∃ ts', x.Goes ts op r ts' ∧ e = r.1.estate ts') fun _ _ => False := by
  -- What the kernel does beside the interface leaves the interface as it is.
  have beside {op : Operation} (stays : op.staysOpen = true) {α : Type} {action : HostM Empty α}
      (course : Steady (x.estate ts) action fun _ => True) {reply : α → Reply} :
      Spec (x.estate ts) (do let a ← action; return (x, reply a) : HostM Empty (Scenario × Reply))
        (fun r e => ∃ ts', x.Goes ts op r ts' ∧ e = r.1.estate ts') fun _ _ => False :=
    Spec.after course.sure fun a _ => .pure ⟨ts, .of_alike coherent stays (.refl x) (.refl _), rfl⟩
  cases op with
  | incident what =>
    cases what with
    | deliver items     => exact beside rfl (deliverAll_steady items)
    | override fd value => exact beside rfl setOverride_steady
    | script faults     => exact beside rfl addFaults_steady
    | tick =>
      refine Spec.after tick_steady.sure ?_
      rintro ⟨x', waited⟩ alike
      refine .pure ⟨ts, .of_alike coherent rfl alike (.refl _), ?_⟩
      rw [estate, estate, alike.sockets]
    | workerEnds n =>
      refine Session.endDetached_spec.bind ?_
      rintro ended _ ⟨ts', part, rfl⟩
      exact .pure ⟨ts', .of_alike coherent rfl (.refl x) part, rfl⟩
  | request q =>
    obtain ⟨i?, event⟩ := x
    cases i? with
    | none =>
      refine .pure ⟨ts, ⟨coherent, fun _ => .inl, ?_, ?_, fun _ => rfl⟩, rfl⟩
      · exact fun _ s there => nomatch there
      · exact fun c _ done => nomatch done
    | some i => exact answer_spec coherent event q

/-- **`Scenario.step` is `Goes` for every operation**: the open sockets are those of the session and
    those of the detached workers. The turns of the worker behind it leave the estate. -/
theorem step_spec (op : Operation) :
    Spec (x.estate ts) (x.step op : HostM Empty (Scenario × Reply))
      (fun r e => ∃ ts', x.Goes ts op r ts' ∧ e = r.1.estate ts') fun _ _ => False := by
  refine (perform_spec coherent op).bind ?_
  rintro ⟨x₁, reply⟩ _ ⟨ts', goes, rfl⟩
  -- The worker runs to its next wait, which is no matter to what the step has made of the sockets.
  refine Spec.after (settle_steady goes.coherent).sure fun x' alike => .pure ⟨ts', goes.alike alike, ?_⟩
  rw [estate, estate, alike.sockets]

end Step

end Scenario

end CanDriver
