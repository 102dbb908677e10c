import CanDriver.Proofs.Sessions.Stages
import CanDriver.Proofs.Sockets.Conservation

namespace CanDriver

/-!
# An initialisation succeeds as a whole or leaves nothing

* `Interface.Released` — the old session has ended, and its sockets are closed or kept by a worker
  that goes on for now;
* `Interface.Initialised` — what is left of an initialisation, however it ends;
* `Scenario.scripted` — steps, each with answers of the link of its own;
* `init_all_or_nothing` — an initialisation after all such steps, and under all failures.
-/

open Host Effect

/-! ### The old session -/

section Release

/-- Closing `fds` one after the other adds a `close` call for each to the journal, and leaves the
    detached workers. -/
theorem Host.closeAll_journal (fds : List Fd) (h : Host) :
    ∃ h', (fds.forM closeSocket : HostM Empty Unit) h = .ok () h' ∧
      h'.journal.toList = h.journal.toList ++ fds.map (.call ∘ .close) ∧
      h'.kernel.detached = h.kernel.detached := by
  induction fds generalizing h with
  | nil => exact ⟨h, rfl, (List.append_nil _).symm, rfl⟩
  | cons fd fds ih =>
    let h₁ : Host := ⟨h.kernel.closeSocket fd, h.journal.push (.call (.close fd))⟩
    obtain ⟨h', run, journal, threads⟩ := ih h₁
    refine ⟨h', run, ?_, threads⟩
    rw [journal, Array.toList_push, List.append_assoc]
    rfl

/-- `Session.endDetached n` closes the sockets that the detached worker `n` kept, and removes it. -/
theorem Session.endDetached_closes {h : Host} {n : Nat} {t : Thread}
    (there : h.kernel.detached[n]? = some t) :
    ∃ h' es, (Session.endDetached n : HostM Empty Bool) h = .ok true h' ∧
      h'.journal.toList = h.journal.toList ++ es ∧ closed es = t.sockets ∧
      h'.kernel.detached = h.kernel.detached.eraseIdx n := by
  let line : Effect := .record ⟨.debug, .worker, t.name ++ ": worker stopped"⟩
  let h₁ : Host := ⟨h.kernel.forget n, h.journal.push line⟩
  obtain ⟨h', run, journal, threads⟩ := closeAll_journal t.sockets h₁
  refine ⟨h', line :: t.sockets.map (.call ∘ .close), ?_, ?_, ?_, threads⟩
  · unfold Session.endDetached
    rw [bind_ok (ask_apply ..), there]
    exact bind_ok run
  · rw [journal, Array.toList_push, List.append_assoc]
    rfl
  · have closes : closed? ∘ (.call ∘ .close) = (some : Fd → Option Fd) := rfl
    rw [closed, List.filterMap_cons_none rfl, List.filterMap_map, closes, List.filterMap_some]

variable {i : Interface}

/-- `h₁` is the host behind a release of the session of `i`. Its sockets are closed or in `kept`,
    those of a worker that nobody waits for. -/
structure Interface.Released (i : Interface) (kept : List Thread) (h h₁ : Host) : Prop where
  threads : h₁.kernel.detached = h.kernel.detached ++ kept
  policy  : kept = [] ∨ ∃ s, i.session? = some s ∧ s.Detaches ∧ kept = [⟨s.name, s.remains⟩]
  closes  : ∃ es, h₁.journal.toList = h.journal.toList ++ es ∧ (∀ e ∈ es, e.Passive) ∧
    (closed es ++ kept.flatMap Thread.sockets).Perm i.sockets
  live    : h₁.kernel.openFds.Perm (h₁.kernel.detached.flatMap Thread.sockets)

theorem Interface.release_emits {ε : Type} {P : Waiter × Int → Prop} :
    Emits (Routine P) (i.release : HostM ε (Interface × Bool)) := by
  unfold release
  cases i.session? with
  | none   => exact .pure
  | some s => exact Session.release_emits.bind fun _ => .pure

/-- `Interface.release` removes the session, and answers whether there was one. -/
theorem Interface.release_answer {h h₁ : Host} {r : Interface × Bool}
    (run : (i.release : HostM Empty (Interface × Bool)) h = .ok r h₁) :
    r = ({ i with session? := none }, i.session?.isSome) := by
  unfold release at run
  cases there : i.session? with
  | none   =>
    rw [there] at run
    have same : { i with session? := none } = i := by rw [← there]
    rw [same]
    exact (EStateM.Result.ok.inj run).1.symm
  | some s =>
    obtain ⟨_, h', done⟩ := exists_ok (s.release : HostM Empty Unit) h
    rw [there] at run
    dsimp only at run
    rw [bind_ok done] at run
    exact (EStateM.Result.ok.inj run).1.symm

/-- `Interface.release` ends with `Released`, where the host holds the sockets of the session. -/
theorem Interface.released {h : Host} (coherent : i.Coherent)
    (holds : h.Holds (i.estate h.kernel.detached)) :
    ∃ kept h₁, (i.release : HostM Empty (Interface × Bool)) h =
        .ok ({ i with session? := none }, i.session?.isSome) h₁ ∧
      i.Released kept h h₁ ∧ h₁.Holds ⟨[], h₁.kernel.detached⟩ := by
  obtain ⟨r, h₁, run, ⟨es, journal, booked⟩, _, holds₁, -, ts', leaves, rfl⟩ :=
    (release_spec coherent).answers holds
  obtain rfl := release_answer run
  -- A worker that goes on is the last of those that were let go.
  obtain ⟨kept, threads, policy⟩ : ∃ kept, ts' = h.kernel.detached ++ kept ∧
      (kept = [] ∨ ∃ s, i.session? = some s ∧ s.Detaches ∧ kept = [⟨s.name, s.remains⟩]) := by
    obtain rfl | ⟨s, found, detaches, rfl⟩ := leaves
    · exact ⟨[], (List.append_nil _).symm, .inl rfl⟩
    · exact ⟨_, rfl, .inr ⟨s, found, detaches, rfl⟩⟩
  have same : h₁.kernel.detached = ts' := holds₁.threads
  -- The effects that are booked are those that a release emits.
  have passive : ∀ e ∈ es, e.Passive := by
    obtain ⟨es', way, kind⟩ := (release_emits (ε := Empty) (i := i)).passive h
    rw [run] at way
    obtain rfl : es' = es := List.append_cancel_left (way.journal.symm.trans journal)
    exact kind
  refine ⟨kept, h₁, run, ⟨same.trans threads, policy, ⟨es, journal, passive, ?_⟩, same ▸ holds₁.live⟩,
    same ▸ holds₁⟩
  -- Nothing was opened, so that what is not open any more was closed.
  have balance := booked.conserved holds.sound
  have opens : opened es = [] := List.filterMap_eq_nil_iff.mpr fun e there => (passive e there).opens
  have before := holds.live
  have after := holds₁.live
  rw [opens, List.append_nil] at balance
  rw [threads] at after
  simp only [Estate.sockets, estate, List.nil_append, List.flatMap_append] at before after
  have all : (closed es ++ kept.flatMap Thread.sockets ++ h.kernel.detached.flatMap Thread.sockets).Perm
      (i.sockets ++ h.kernel.detached.flatMap Thread.sockets) := by
    refine .trans ?_ (balance.symm.trans before)
    rw [List.append_assoc]
    exact (List.perm_append_comm.trans after.symm).append_left _
  exact (List.perm_append_right_iff _).mp all

/-- `Released` leaves `Journal.requests`: the end of a session asks no link. -/
theorem Interface.Released.requests {kept : List Thread} {h h₁ : Host} (released : i.Released kept h h₁) :
    h₁.journal.requests = h.journal.requests := by
  obtain ⟨es, journal, passive, -⟩ := released.closes
  have unasked : es.filterMap Effect.request? = [] :=
    List.filterMap_eq_nil_iff.mpr fun e member => (passive e member).asks
  rw [Journal.requests, journal, List.filterMap_append, unasked, List.append_nil, Journal.requests]

/-- `Released` does not see a log record that is added at the end. -/
theorem Interface.Released.logged {kept : List Thread} {h h₁ : Host} (released : i.Released kept h h₁)
    (level : Log.Level) (target : Log.Target) (text : String) :
    i.Released kept h (h₁.logged level target text) := by
  obtain ⟨es, journal, passive, closes⟩ := released.closes
  let line : Effect := .record ⟨level, target, text⟩
  have silent : closed (es ++ [line]) = closed es := by
    rw [closed, List.filterMap_append]
    exact List.append_nil _
  refine ⟨released.threads, released.policy, ⟨es ++ [line], ?_, ?_, silent.symm ▸ closes⟩, released.live⟩
  · rw [← List.append_assoc, ← journal]
    exact Array.toList_push
  · refine List.forall_mem_append.mpr ⟨passive, fun e there => ?_⟩
    obtain rfl := List.mem_singleton.mp there
    exact ⟨rfl, rfl⟩

end Release

/-! ### What is left of an initialisation -/

namespace Interface

/-- An initialisation that failed left no session and no open socket, and a request that needs a
    session is answered with an error. -/
structure Undone (i' : Interface) (h₁ h' : Host) : Prop where
  gone    : i'.session? = none
  live    : h'.kernel.openFds = h₁.kernel.openFds
  closes  : ∃ es, h'.journal.toList = h₁.journal.toList ++ es ∧ (opened es).Perm (closed es)
  refuses : ∀ event q, q.needsSession = true → ∀ h'' : Host,
    ((⟨some i', event⟩ : Scenario).perform (.request q) : HostM Empty (Scenario × Reply)) h'' =
      .ok (⟨some i', event⟩, .failed (.ofCode .notInitialized)) h''

/-- An initialisation that succeeded left `i.firstSession c r`, whose transmit socket
    `r.fd` is new. -/
structure Running (i : Interface) (c : Config) (r : Setup.Ready) (i' : Interface) (h₁ h' : Host) :
    Prop where
  session  : i'.session? = some (i.firstSession c r)
  interval : i'.interval = keptInterval c.pollTimeout
  live     : h'.kernel.openFds.Perm (r.fd :: h₁.kernel.openFds)
  fresh    : r.fd ∉ h₁.kernel.openFds

/-- What `Interface.start c` leaves of `i` and `h₁`: the `made` requests were put to the link, and
    `result` is answered. -/
structure Initialised (i : Interface) (c : Config) (h₁ : Host) (made : List LinkRequest)
    (i' : Interface) (result : Except Failure Unit) (h' : Host) : Prop where
  /-- The stages were passed in order, up to the first that failed. -/
  stages   : i.Stages c h₁ made i' result h'
  /-- The requests to the link are `made`, and no others. -/
  requests : h'.journal.requests = h₁.journal.requests ++ i.link.recorded i.name made
  /-- Where the link refuses one of the requests, no call of the kernel is made. -/
  refused  : ∀ r ∈ c.requests, i.link.verdict r ≠ none →
    h'.kernel = h₁.kernel ∧ h'.journal.calls = h₁.journal.calls
  config   : i'.config = c
  threads  : h'.kernel.detached = h₁.kernel.detached
  undone   : ∀ f, result = .error f → i'.Undone h₁ h'
  running  : result = .ok () → ∃ r, i.Running c r i' h₁ h'

/-- `Interface.start` on an interface without a session ends with `Initialised`. -/
theorem start_initialised {i : Interface} (c : Config) {h₁ : Host} (gone : i.session? = none)
    (holds : h₁.Holds ⟨[], h₁.kernel.detached⟩) :
    ∃ made i' result h', (i.start c : HostM Empty (Interface × Except Failure Unit)) h₁ =
      .ok (i', result) h' ∧ i.Initialised c h₁ made i' result h' := by
  obtain ⟨made, i', result, h', run, stages⟩ := i.start_stages c h₁
  obtain ⟨_, _, run', course, _, holds', -, rfl⟩ := (start_spec gone).answers holds
  -- There is one run, whose stages and whose sockets are known.
  rw [run] at run'
  obtain ⟨rfl, rfl⟩ := EStateM.Result.ok.inj run'
  have threads : h'.kernel.detached = h₁.kernel.detached := holds'.threads
  refine ⟨made, i', result, h', run, stages, stages.requests, fun _ => stages.of_refusal, stages.config,
    threads, ?_, ?_⟩
  · rintro f rfl
    have none_ := stages.of_error.trans gone
    rw [estate_of_none none_] at holds'
    exact ⟨none_, holds.openFds_eq holds', course.opened_perm holds holds', fun event q needs h'' =>
      Scenario.perform_of_none rfl none_ needs h''⟩
  · rintro rfl
    obtain ⟨r, rfl⟩ := stages.of_ok
    rw [estate_of_session rfl] at holds'
    have live : h'.kernel.openFds.Perm (r.fd :: h₁.kernel.openFds) :=
      holds'.live.trans (holds.live.symm.cons r.fd)
    have once := live.nodup_iff.mp holds'.sound.nodup
    exact ⟨r, rfl, rfl, live, (List.nodup_cons.mp once).1⟩

/-- The interface on another link. -/
def withLink (link : Link) (i : Interface) : Interface := { i with link }

/-- **`Interface.init` ends with `Released`, and then with `Initialised`.** The start begins where
    the old session has ended, whether there was one or not. -/
theorem init_initialised {i : Interface} (c : Config) {h : Host} (coherent : i.Coherent)
    (holds : h.Holds (i.estate h.kernel.detached)) :
    ∃ kept h₁ made i' result h', (i.init c : HostM Empty (Interface × Except Failure Unit)) h =
      .ok (i', result) h' ∧ i.Released kept h h₁ ∧
        ({ i with session? := none } : Interface).Initialised c h₁ made i' result h' := by
  obtain ⟨kept, h₀, run, released, holds₀⟩ := released coherent holds
  unfold init
  rw [bind_ok run]
  -- Where there was a session, the log tells that it has ended.
  cases there : i.session?.isSome with
  | false =>
    obtain ⟨made, i', result, h', done, initialised⟩ :=
      start_initialised (i := { i with session? := none }) c rfl holds₀
    exact ⟨kept, h₀, made, i', result, h', done, released, initialised⟩
  | true =>
    let h₁ := h₀.logged .warn .interface (i.name ++ ": re-initialising, previous sockets closed")
    have holds₁ : h₁.Holds ⟨[], h₁.kernel.detached⟩ := ⟨holds₀.sound, holds₀.threads, holds₀.live⟩
    obtain ⟨made, i', result, h', done, initialised⟩ :=
      start_initialised (i := { i with session? := none }) c rfl holds₁
    exact ⟨kept, h₁, made, i', result, h', done, released.logged _ _ _, initialised⟩

end Interface

/-! ### All states of an interface -/

namespace Scenario

/-- The scenario with its interface on another link. -/
def withLink (link : Link) (x : Scenario) : Scenario :=
  { x with interface? := x.interface?.map (·.withLink link) }

/-- The operations in order, each on a link of its own. -/
def scriptedSteps : List (Link × Operation) → Scenario → HostM Empty Scenario
  | [], x                  => return x
  | (link, op) :: script, x => do
    let (x, _) ← (x.withLink link).step op
    scriptedSteps script x

/-- `Interface.named`, and then `scriptedSteps`. -/
def scripted (name : String) (script : List (Link × Operation)) : HostM Empty Scenario := do
  let i ← Interface.named name .external
  scriptedSteps script (ofInterface i)

theorem session?_withLink (link : Link) (x : Scenario) : (x.withLink link).session? = x.session? := by
  obtain ⟨_ | i, event⟩ := x <;> rfl

/-- `scriptedSteps` keeps `Scenario.Coherent`, and the host holds the estate. -/
theorem scriptedSteps_holds (script : List (Link × Operation)) {x : Scenario} {h : Host}
    (coherent : x.Coherent) (holds : h.Holds (x.estate h.kernel.detached)) :
    ∃ x' h', scriptedSteps script x h = .ok x' h' ∧ x'.Coherent ∧
      h'.Holds (x'.estate h'.kernel.detached) := by
  induction script generalizing x h with
  | nil => exact ⟨x, h, rfl, coherent, holds⟩
  | cons entry script ih =>
    obtain ⟨link, op⟩ := entry
    -- Who administers the link is no matter to the session and its sockets.
    have same := session?_withLink link x
    have coherent₁ : (x.withLink link).Coherent := fun s there => coherent s (same.symm.trans there)
    have holds₁ : h.Holds ((x.withLink link).estate h.kernel.detached) := by
      rw [estate, sockets, same]
      exact holds
    obtain ⟨⟨x₁, reply⟩, h₁, run, -, _, holds₂, ts', goes, rfl⟩ :=
      (step_spec coherent₁ op).answers holds₁
    obtain rfl : h₁.kernel.detached = ts' := holds₂.threads
    rw [scriptedSteps, bind_ok run]
    exact ih goes.coherent holds₂

theorem scripted_holds (links : List NetworkLink) (faults : Faults) (traffic : List Item)
    (name : String) (script : List (Link × Operation)) :
    ∃ x h, scripted name script (.start links faults traffic) = .ok x h ∧ x.Coherent ∧
      h.Holds (x.estate h.kernel.detached) := by
  obtain ⟨i, h, run, -, gone, -, held⟩ := exists_named links faults traffic name .external
  rw [scripted, bind_ok run]
  exact scriptedSteps_holds script (coherent_of_none gone) held

/-- `Scenario.perform` of an initialisation from `Interface.init`. -/
theorem perform_init {x : Scenario} {i i' : Interface} {c : Config} {result : Except Failure Unit}
    {h h' : Host} (there : x.interface? = some i)
    (done : (i.init c : HostM Empty (Interface × Except Failure Unit)) h = .ok (i', result) h') :
    (x.perform (.request (.init c)) : HostM Empty (Scenario × Reply)) h =
      .ok (⟨some i', x.event⟩, .ofResult result) h' := by
  rw [perform, there]
  unfold answer keep
  dsimp only
  rw [bind_assoc, bind_ok done]
  rfl

end Scenario

/-- **An initialisation succeeds as a whole or leaves nothing.** Take an interface after any steps
    at all, under all failures that are scripted and all answers of the link. An initialisation
    first ends the old session: its sockets are closed, or kept by a worker that nobody waits for,
    which closes them when it ends. Then the link is asked for the settings, in order, and to start,
    up to the first request that it refuses, and the kernel is called only if it refuses none. The
    first stage that fails is the last one, and its failure the answer. After a failure there is no
    session, no new socket and no new worker, and a request to the session is answered with an
    error; else the first session goes on with its transmit socket. -/
theorem init_all_or_nothing (links : List NetworkLink) (faults : Faults) (traffic : List Item)
    (name : String) (script : List (Link × Operation)) :
    ∃ x h, Scenario.scripted name script (.start links faults traffic) = .ok x h ∧
      ∀ i link c, x.interface? = some i → ∃ kept h₁ made i' result h',
        ((i.withLink link).init c : HostM Empty (Interface × Except Failure Unit)) h =
          .ok (i', result) h' ∧
        i.Released kept h h₁ ∧
        (∀ t ∈ kept, ∀ (h : Host) n, h.kernel.detached[n]? = some t → ∃ h' es,
          (Session.endDetached n : HostM Empty Bool) h = .ok true h' ∧
          h'.journal.toList = h.journal.toList ++ es ∧ closed es = t.sockets ∧
          h'.kernel.detached = h.kernel.detached.eraseIdx n) ∧
        ({ i with link, session? := none } : Interface).Initialised c h₁ made i' result h' := by
  obtain ⟨x, h, run, coherent, holds⟩ := Scenario.scripted_holds links faults traffic name script
  refine ⟨x, h, run, fun i link c there => ?_⟩
  have same : x.session? = i.session? := by rw [Scenario.session?, there, Option.bind_some]
  have coherent' : (i.withLink link).Coherent := fun s found => coherent s (same.trans found)
  have holds' : h.Holds ((i.withLink link).estate h.kernel.detached) :=
    Scenario.estate_of_interface there ▸ holds
  obtain ⟨kept, h₁, made, i', result, h', done, released, initialised⟩ :=
    Interface.init_initialised c coherent' holds'
  refine ⟨kept, h₁, made, i', result, h', done, ?_, fun t _ h n => Session.endDetached_closes, initialised⟩
  exact ⟨released.threads, released.policy, released.closes, released.live⟩

/-- An initialisation and a receive handler, on a link that refuses nothing. -/
def Scenario.listening : List (Link × Operation) :=
  [(.recorder .none, .request (.init .default)),
    (.recorder .none, .request (.registerRx ⟨"monitor", .returns⟩ []))]

/-- A link that refuses `dataBitrate`. -/
def Link.classic : Link := .recorder { Refusals.none with dataBitrate := some .linkDataBitrate }

/-- The default settings with a bit rate, a data bit rate and a restart delay. -/
def Config.fast : Config :=
  { Config.default with bitrate := some 500000, dataBitrate := some 2000000, restartMs := some 100 }

/-- The reply to `.init .fast` on `Link.classic`, behind `Scenario.listening`. -/
def Scenario.tooFast : Reply :=
  let last := scripted "can0" listening >>= fun x =>
    (x.withLink .classic).perform (.request (.init .fast))
  match last (.start [⟨"can0", 3, fdSize⟩] .none []) with
  | .ok (_, reply) _ => reply
  | .error never _   => never.elim

/-- `.init .fast` on `Link.classic` fails with the data bit rate, behind `Scenario.listening`, and
    no session is left. -/
theorem init_all_or_nothing_refused :
    Scenario.tooFast = .failed (.ofCode .linkDataBitrate) ∧
      ∃ x h i kept h₁ i' h',
        Scenario.scripted "can0" Scenario.listening (.start [⟨"can0", 3, fdSize⟩] .none []) = .ok x h ∧
        x.interface? = some i ∧ i.Released kept h h₁ ∧
        ((i.withLink .classic).init .fast : HostM Empty (Interface × Except Failure Unit)) h =
          .ok (i', .error (.ofCode .linkDataBitrate)) h' ∧
        i'.config = .fast ∧ i'.Undone h₁ h' := by
  have replies : Scenario.tooFast = .failed (.ofCode .linkDataBitrate) := by decide +kernel
  refine ⟨replies, ?_⟩
  obtain ⟨x, h, run, more⟩ :=
    init_all_or_nothing [⟨"can0", 3, fdSize⟩] .none [] "can0" Scenario.listening
  -- The reply is that of the last step from where the theorem starts.
  have last : (Scenario.scripted "can0" Scenario.listening >>= fun x =>
      (x.withLink .classic).perform (.request (.init .fast)))
        (.start [⟨"can0", 3, fdSize⟩] .none []) =
      (x.withLink .classic).perform (.request (.init .fast)) h := bind_ok run
  rw [Scenario.tooFast, last] at replies
  clear last
  obtain ⟨_ | i, event⟩ := x
  · cases replies
  · obtain ⟨kept, h₁, made, i', result, h', done, released, -, initialised⟩ :=
      more i .classic .fast rfl
    have answers := Scenario.perform_init (x := (⟨some i, event⟩ : Scenario).withLink .classic) rfl done
    rw [answers] at replies
    cases result with
    | ok _    => cases replies
    | error f =>
      obtain rfl := Reply.failed.inj replies
      exact ⟨_, h, i, kept, h₁, i', h', run, rfl, released, done, initialised.config,
        initialised.undone _ rfl⟩

end CanDriver
