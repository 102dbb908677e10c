import CanDriver.Proofs.Sockets.Conservation
import CanDriver.Proofs.Sockets.Membership

namespace CanDriver

/-!
# Handlers and wait-set stay in step

* `Scenario.Since` — what is known of a session and the host since the session started;
* `Session.Represents` — handlers are distinct and bound to sockets that are waited for, and waited
  for are the transmit socket and the receive sockets that were opened and not closed;
* `session_represents` — this holds after every initialisation that succeeds, along all steps that
  leave the session to go on.
-/

open Host Effect

/-! ### Since an initialisation -/

namespace Scenario

variable {h₁ h : Host} {s₁ s : Session} {x : Scenario}

/-- A session started as `s₁`, in the host `h₁`. Behind the effects `es` it is `s`, in the scenario
    `x` and the host `h`. -/
structure Since (h₁ : Host) (s₁ : Session) (x : Scenario) (h : Host) (s : Session)
    (es : List Effect) : Prop where
  session : x.session? = some s
  next    : s₁.Next s
  holds   : h.Holds (s.estate h.kernel.detached)
  threads : h.kernel.detached.Sublist h₁.kernel.detached
  journal : h.journal.toList = h₁.journal.toList ++ es
  booked  : h₁.kernel.Booked es h.kernel
  /-- The receive sockets are among those that `es` opened. -/
  newer   : ∀ fd ∈ s.waitSet.rx, fd ∈ opened es

/-- A receive socket of `s'` that `s` does not have was opened by the effects between
    their hosts. -/
theorem opened_of_new {ts : List Thread} {h' : Host} {s' : Session} {fs : List Effect}
    (holds : h.Holds (s.estate ts)) (holds' : h'.Holds (s'.estate ts)) (same : s'.tx = s.tx)
    (booked : h.kernel.Booked fs h'.kernel) {fd : Fd}
    (there : fd ∈ s'.waitSet.rx) (new : fd ∉ s.waitSet.rx) : fd ∈ opened fs := by
  have once := holds'.nodup
  obtain ⟨sockets, -, apart⟩ := List.nodup_append.mp once
  -- It was not among the open sockets: it is neither the transmit socket nor one of a thread.
  have closed_before : fd ∉ h.kernel.openFds := by
    intro live
    rcases List.mem_append.mp (holds.live.mem_iff.mp live) with own | kept
    · rcases List.mem_cons.mp own with rfl | rx
      · exact (List.nodup_cons.mp sockets).1 (same ▸ there)
      · exact new rx
    · exact apart fd (List.mem_cons_of_mem _ there) fd kept rfl
  -- By the books, what is open behind `fs` was open before, or was opened by `fs`.
  have balance := booked.conserved holds.sound
  have live : fd ∈ h'.kernel.openFds := holds'.mem_open (List.mem_cons_of_mem _ there)
  exact (List.mem_append.mp (balance.mem_iff.mpr (List.mem_append_right _ live))).resolve_left
    closed_before

/-- `Scenario.step` keeps `Since`, for an operation that leaves the session to go on. -/
theorem Since.step {es : List Effect} (since : Since h₁ s₁ x h s es) {op : Operation}
    (stays : op.staysOpen = true) :
    ∃ r h' s' es', (x.step op : HostM Empty (Scenario × Reply)) h = .ok r h' ∧
      Since h₁ s₁ r.1 h' s' es' := by
  have coherent : x.Coherent := by
    intro s' there
    rw [since.session] at there
    exact Option.some.inj there ▸ since.next.coherent
  have held : x.estate h.kernel.detached = s.estate h.kernel.detached := by
    rw [estate, sockets, since.session]
    rfl
  obtain ⟨r, h', run, ⟨fs, journal, booked⟩, _, holds, ts', goes, rfl⟩ :=
    (step_spec coherent op).answers (held ▸ since.holds)
  obtain rfl : h'.kernel.detached = ts' := holds.threads
  obtain ⟨s', found, next, part⟩ := goes.kept stays s since.session
  have holds' : h'.Holds (s'.estate h'.kernel.detached) := by
    rw [show s'.estate h'.kernel.detached = r.1.estate h'.kernel.detached by
      rw [estate, sockets, found]
      rfl]
    exact holds
  refine ⟨r, h', s', es ++ fs, run, found, since.next.trans next, holds', ?_, ?_,
    since.booked.append booked, ?_⟩
  · rcases part with same | ⟨fewer, -⟩
    · exact same ▸ since.threads
    · exact fewer.trans since.threads
  · rw [journal, since.journal, List.append_assoc]
  · intro fd there
    rw [opened, List.filterMap_append]
    -- An old socket was opened before; a new one by this step.
    by_cases old : fd ∈ s.waitSet.rx
    · exact List.mem_append_left _ (since.newer fd old)
    · rcases part with same | ⟨-, same⟩
      · rw [same] at holds'
        exact List.mem_append_right _ (opened_of_new since.holds holds' next.tx booked there old)
      · exact absurd (same ▸ there) old

/-- `Scenario.steps` keep `Since`, where all operations leave the session to go on. -/
theorem Since.steps {es : List Effect} (since : Since h₁ s₁ x h s es) {ops : List Operation}
    (stays : ∀ op ∈ ops, op.staysOpen = true) :
    ∃ x' h' s' es', steps ops x h = .ok x' h' ∧ Since h₁ s₁ x' h' s' es' := by
  induction ops generalizing x h s es with
  | nil => exact ⟨x, h, s, es, rfl, since⟩
  | cons op ops ih =>
    obtain ⟨r, h₂, s₂, es₂, run, since₂⟩ := since.step (stays op List.mem_cons_self)
    obtain ⟨x', h', s', es', more, since'⟩ :=
      ih since₂ fun op member => stays op (List.mem_cons_of_mem _ member)
    exact ⟨x', h', s', es', (steps_cons run).trans more, since'⟩

end Scenario

/-! ### What a session represents -/

/-- The registry and the wait-set of a session agree with each other, and with the sockets that the
    effects `es` opened and closed. -/
structure Session.Represents (s : Session) (es : List Effect) : Prop where
  /-- No two receive handlers share a socket. -/
  sockets  : (s.registry.rx.map (·.1)).Nodup
  /-- No receive handler is registered twice. -/
  handlers : (s.registry.rx.map (·.2)).Nodup
  errors   : s.registry.errors.Nodup
  /-- The socket of every receive handler is in the wait-set. -/
  bound    : ∀ entry ∈ s.registry.rx, entry.1 ∈ s.waitSet.rx
  /-- The receive sockets are those that `es` opened and did not close. -/
  rx       : s.waitSet.rx = (opened es).filter (· ∉ closed es)
  tx       : s.waitSet.tx = some s.tx
  apart    : s.waitSet.Apart
  max_mem  : s.waitSet.max ∈ s.waitSet.descriptors none
  le_max   : ∀ fd ∈ s.waitSet.descriptors none, fd ≤ s.waitSet.max

/-- The receive sockets of `Since` are those that `es` opened and did not close. -/
theorem Scenario.Since.rx_eq {h₁ h : Host} {s₁ s : Session} {x : Scenario} {es : List Effect}
    (since : Since h₁ s₁ x h s es) (sound : h₁.kernel.Sound)
    (held : h₁.Holds (s₁.estate h₁.kernel.detached)) :
    s.waitSet.rx = (opened es).filter (· ∉ closed es) := by
  have balance := since.booked.conserved sound
  obtain ⟨-, -, older⟩ := List.nodup_append.mp (since.booked.nodup_opened sound)
  have same : ∀ fd, fd ∈ s.waitSet.rx ↔ fd ∈ (opened es).filter (· ∉ closed es) := by
    intro fd
    rw [List.mem_filter, decide_eq_true_iff]
    constructor
    · intro there
      have live : fd ∈ h.kernel.openFds := since.holds.mem_open (List.mem_cons_of_mem _ there)
      exact ⟨since.newer fd there, since.booked.not_closed sound live⟩
    · rintro ⟨new, kept⟩
      have live : fd ∈ h.kernel.openFds :=
        (List.mem_append.mp (balance.mem_iff.mp (List.mem_append_right _ new))).resolve_left kept
      -- What was open before is none of the new sockets: the transmit socket, and what threads keep.
      have before : ∀ fd' ∈ (s₁.estate h₁.kernel.detached).sockets, fd' ≠ fd := fun fd' old =>
        older fd' (held.live.mem_iff.mpr old) fd new
      rcases List.mem_append.mp (since.holds.live.mem_iff.mp live) with own | theirs
      · rcases List.mem_cons.mp own with rfl | rx
        · refine absurd rfl (before s.tx ?_)
          rw [since.next.tx]
          exact List.mem_append_left _ List.mem_cons_self
        · exact rx
      · obtain ⟨t, member, there⟩ := List.mem_flatMap.mp theirs
        refine absurd rfl (before fd (List.mem_append_right _ ?_))
        exact List.mem_flatMap.mpr ⟨t, since.threads.subset member, there⟩
  -- Both lists are ascending, so that they are equal if they have the same members.
  have issued := since.booked.issued
  have perm := (List.perm_ext_iff_of_nodup s.waitSet.nodup (issued.nodup.filter _)).mpr same
  exact eq_of_perm_of_ascending perm s.waitSet.ascending (issued.ascending.filter _)

/-- The wait-set of a coherent session is `WaitSet.Apart`: its sockets are distinct, as they
    are open. -/
theorem Session.Coherent.apart {s : Session} {h : Host} {ts : List Thread} (coherent : s.Coherent)
    (holds : h.Holds (s.estate ts)) : s.waitSet.Apart := by
  intro fd rx tx
  rw [coherent.tx, Option.some.injEq] at tx
  exact (List.nodup_cons.mp (List.nodup_append.mp holds.nodup).1).1 (tx ▸ rx)

/-- `Since` gives `Session.Represents`. -/
theorem Scenario.Since.represents {h₁ h : Host} {s₁ s : Session} {x : Scenario} {es : List Effect}
    (since : Since h₁ s₁ x h s es) (held : h₁.Holds (s₁.estate h₁.kernel.detached)) :
    s.Represents es := by
  have coherent := since.next.coherent
  have there : s.tx ∈ (s.estate h.kernel.detached).held := List.mem_cons_self
  have positive : 0 ≤ s.tx := (since.holds.sound.issued s.tx (since.holds.mem_open there)).1
  exact {
    sockets  := coherent.distinct.sockets
    handlers := coherent.distinct.handlers
    errors   := coherent.distinct.errors
    bound    := coherent.bound
    rx       := since.rx_eq held.sound held
    tx       := coherent.tx
    apart    := coherent.apart since.holds
    max_mem  := WaitSet.mem_descriptors_none.mpr
      (WaitSet.max_isGreatest (.inr coherent.tx) positive).1
    le_max   := fun _ member => WaitSet.le_max (WaitSet.mem_descriptors_none.mp member) }

/-- **The representation invariant.** After any history, an initialisation that succeeds gives a
    session whose handlers and wait-set are in step, with each other and with the sockets that were
    opened and closed since; and so they stay along all steps that leave the session to go on. -/
theorem session_represents (links : List NetworkLink) (faults : Faults) (traffic : List Item)
    (name : String) (link : Link) (before : List Operation) (c : Config) (after : List Operation)
    (stays : ∀ op ∈ after, op.staysOpen = true) :
    ∃ x₀ h₀ x₁ reply h₁ x h,
      Scenario.history name link before (.start links faults traffic) = .ok x₀ h₀ ∧
      (x₀.step (.request (.init c)) : HostM Empty (Scenario × Reply)) h₀ = .ok (x₁, reply) h₁ ∧
      Scenario.steps after x₁ h₁ = .ok x h ∧
      (reply = .done → ∃ s₁ s es, x₁.session? = some s₁ ∧ x.session? = some s ∧ s.tx = s₁.tx ∧
        h.journal.toList = h₁.journal.toList ++ es ∧ s.Represents es ∧
        ∀ fd ∈ s.waitSet.descriptors none, fd ∈ h.kernel.openFds) := by
  obtain ⟨x₀, h₀, traced⟩ := Scenario.exists_traced links faults traffic name link before
  obtain ⟨⟨x₁, reply⟩, h₁, init, -, goes, traced₁⟩ := traced.step (.request (.init c))
  -- Only an initialisation that succeeds begins a session, from which `Since` starts with no
  -- effects.
  by_cases done : reply = .done
  · obtain ⟨s₁, found, only⟩ := goes.started c rfl done
    have held : h₁.Holds (s₁.estate h₁.kernel.detached) := by
      rw [show s₁.estate h₁.kernel.detached = x₁.estate h₁.kernel.detached by
        rw [Scenario.estate, Scenario.sockets, found]
        rfl]
      exact traced₁.holds
    have coherent := traced₁.coherent s₁ found
    have base : Scenario.Since h₁ s₁ x₁ h₁ s₁ [] :=
      ⟨found, ⟨coherent, rfl, rfl, rfl⟩, held, .refl _, (List.append_nil _).symm, .of_books rfl,
        by simp [only]⟩
    obtain ⟨x, h, s, es, run, since⟩ := base.steps stays
    have waited : ∀ fd ∈ s.waitSet.descriptors none, fd ∈ h.kernel.openFds := fun fd member =>
      since.holds.mem_open (since.next.coherent.mem_descriptors.mp member)
    exact ⟨x₀, h₀, x₁, reply, h₁, x, h, traced.run, init, run, fun _ =>
      ⟨s₁, s, es, found, since.session, since.next.tx, since.journal, since.represents held, waited⟩⟩
  · obtain ⟨x, h, run⟩ := exists_ok (Scenario.steps after x₁) h₁
    exact ⟨x₀, h₀, x₁, reply, h₁, x, h, traced.run, init, run, fun same => absurd same done⟩

/-- A receive handler is registered and a second socket opened; that one is closed, and the transmit
    socket is not. -/
def Scenario.registrations : List Operation :=
  [.request (.registerRx ⟨"monitor", .returns⟩ []), .request (.openRx []),
    .request (.closeRx 102), .request (.closeRx 100)]

/-- The reply to an initialisation with the default settings. -/
def Scenario.firstReply : Reply :=
  let first := history "can0" .external [] >>= (·.step (.request (.init .default)))
  match first (.start [⟨"can0", 3, fdSize⟩] .none []) with
  | .ok (_, reply) _ => reply
  | .error never _   => never.elim

/-- The session of the default settings is in step with its sockets behind
    `Scenario.registrations`. -/
theorem session_represents_registrations :
    (∀ op ∈ Scenario.registrations, op.staysOpen = true) ∧
      ∃ x h s es, Scenario.history "can0" .external
        (.request (.init .default) :: Scenario.registrations)
        (.start [⟨"can0", 3, fdSize⟩] .none []) = .ok x h ∧
        x.session? = some s ∧ s.Represents es := by
  have stays : ∀ op ∈ Scenario.registrations, op.staysOpen = true := by decide
  obtain ⟨x₀, h₀, x₁, reply, h₁, x, h, first, init, rest, more⟩ :=
    session_represents [⟨"can0", 3, fdSize⟩] .none [] "can0" .external [] .default
      Scenario.registrations stays
  have done : Scenario.firstReply = .done := by decide +kernel
  rw [Scenario.firstReply, bind_ok first, init] at done
  obtain ⟨-, s, es, -, found, -, -, represents, -⟩ := more done
  refine ⟨stays, x, h, s, es, ?_, found, represents⟩
  rw [← List.nil_append (_ :: _), Scenario.history_append first, Scenario.steps_cons init]
  exact rest

end CanDriver
