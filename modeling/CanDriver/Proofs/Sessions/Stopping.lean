import CanDriver.Proofs.Sessions.Settings
import CanDriver.Proofs.Sessions.Silence

namespace CanDriver

/-!
# Who brings the link down

The link is asked to stop where a session ends with its interface.  An initialisation that fails ends
the session before it too, and then nobody asks.

* `Scenario.lastInit?` — how the last initialisation among some steps ended;
* `Interface.Stages.unstopped` — no initialisation asks the link to stop;
* `Scenario.Standing` — what is known of an interface while it is there, with a lemma for each kind of
  step;
* `Interface.Stopped` — how a session ends with its interface;
* `link_stopped_with_session`, `link_left_up` — the link is asked to stop exactly where the last
  initialisation succeeded, and one that succeeded earlier is not enough.
-/

open Host Effect

/-- No link was asked to stop. -/
def Journal.Unstopped (j : Journal) : Prop := ∀ name, (LinkRequest.stop, name) ∉ j.requests

/-- The operation is `.free` or `.drop`. -/
def Operation.endsInterface : Operation → Bool
  | .request .free => true
  | .request .drop => true
  | _              => false

/-- An operation that does not end the interface leaves the session to go on, or is an
    initialisation. -/
theorem Operation.stays_or_init {op : Operation} (goesOn : op.endsInterface = false) :
    op.staysOpen = true ∨ ∃ c, op = .request (.init c) := by
  cases op with
  | incident what => exact .inl rfl
  | request q =>
    cases q with
    | init c => exact .inr ⟨c, rfl⟩
    | free   => cases goesOn
    | drop   => cases goesOn
    | _      => exact .inl rfl

/-! ### Initialisations -/

/-- `Config.requests` has no `.stop`. -/
theorem Config.stop_not_mem_requests (c : Config) : LinkRequest.stop ∉ c.requests := by
  simp [requests, linkRequests, Option.mem_toList]

namespace Link

variable {link : Link} {name : String}

/-- The requests that `Asked` has made are a prefix of those that it was to make. -/
theorem Asked.made_prefix {rs made : List LinkRequest} {h : Host}
    {result : EStateM.Result Failure Host Unit} (asked : link.Asked name rs h made result) :
    made <+: rs := by
  cases asked with
  | granted all heard => exact List.prefix_rfl
  | refused order granted refuses heard => exact ⟨_, (List.append_assoc ..).trans order.symm⟩

/-- A request that is `recorded` is one that was made. -/
theorem mem_of_mem_recorded {made : List LinkRequest} {r : LinkRequest} {name' : String}
    (there : (r, name') ∈ link.recorded name made) : r ∈ made := by
  cases link with
  | external            => exact absurd there List.not_mem_nil
  | recorder refusals =>
    obtain ⟨q, member, same⟩ := List.mem_map.mp there
    exact (Prod.mk.inj same).1 ▸ member

end Link

/-- **`Interface.Stages` keep `Journal.Unstopped`**: no initialisation asks for a stop. -/
theorem Interface.Stages.unstopped {i i' : Interface} {c : Config} {h h' : Host}
    {made : List LinkRequest} {result : Except Failure Unit}
    (stages : i.Stages c h made i' result h') (before : h.journal.Unstopped) :
    h'.journal.Unstopped := by
  have first : made <+: c.requests := by
    cases stages with
    | link refused         => exact refused.made_prefix
    | socket granted fails => exact granted.made_prefix
    | pipe opens | thread opens | polled opens | worked opens =>
      obtain ⟨_, granted, -⟩ := opens
      exact granted.made_prefix
  intro name there
  rw [stages.requests] at there
  obtain old | new := List.mem_append.mp there
  · exact before name old
  · exact c.stop_not_mem_requests (first.subset (Link.mem_of_mem_recorded new))

/-- `Adds AsksNoLink` keeps `Journal.Unstopped`. -/
theorem Journal.Unstopped.of_adds {h h' : Host} (course : Adds AsksNoLink h h')
    (before : h.journal.Unstopped) : h'.journal.Unstopped := by
  intro name
  rw [course.requests]
  exact before name

namespace Scenario

/-- The reply to the last initialisation in the log of a script. -/
def lastInit? (log : List (Operation × Reply)) : Option Reply :=
  (log.filterMap fun | (.request (.init _), reply) => some reply | _ => none).getLast?

theorem lastInit?_concat_init (log : List (Operation × Reply)) (c : Config) (reply : Reply) :
    lastInit? (log ++ [(.request (.init c), reply)]) = some reply := by
  rw [lastInit?, List.filterMap_append]
  exact List.getLast?_concat

/-- `lastInit?` does not see an operation that leaves the session to go on. -/
theorem lastInit?_concat_of_stays {op : Operation} (stays : op.staysOpen = true)
    (log : List (Operation × Reply)) (reply : Reply) :
    lastInit? (log ++ [(op, reply)]) = lastInit? log := by
  have silent : [(op, reply)].filterMap
      (fun | (.request (.init _), reply) => some reply | _ => none) = ([] : List Reply) := by
    cases op with
    | incident what => rfl
    | request q =>
      cases q with
      | init c => cases stays
      | _      => rfl
  rw [lastInit?, List.filterMap_append, silent, List.append_nil]
  rfl

/-! ### The interface from step to step -/

variable {x x' : Scenario} {op : Operation} {r : Scenario × Reply} {h h' : Host}
  {log : List (Operation × Reply)}

/-- `Scenario.tick` keeps the interface, with or without a session. -/
theorem tick_interface {waited : Bool}
    (run : (x.tick : HostM Empty (Scenario × Bool)) h = .ok (x', waited) h') :
    x'.interface?.isSome = x.interface?.isSome := by
  obtain ⟨_ | ⟨_, _, _, _, _ | s⟩, event⟩ := x
  · obtain ⟨⟨⟩, -⟩ := EStateM.Result.ok.inj run
    rfl
  · obtain ⟨⟨⟩, -⟩ := EStateM.Result.ok.inj run
    rfl
  · obtain ⟨_, _, -, done⟩ := of_bind_ok run
    obtain ⟨⟨⟩, -⟩ := EStateM.Result.ok.inj done
    rfl

/-- `Scenario.settle` keeps the interface. -/
theorem settle_interface (run : (x.settle : HostM Empty Scenario) h = .ok x' h') :
    x'.interface?.isSome = x.interface?.isSome := by
  obtain ⟨_ | ⟨_, _, _, _, _ | s⟩, event⟩ := x
  · obtain ⟨rfl, -⟩ := EStateM.Result.ok.inj run
    rfl
  · obtain ⟨rfl, -⟩ := EStateM.Result.ok.inj run
    rfl
  · obtain ⟨_, _, -, done⟩ := of_bind_ok run
    obtain ⟨rfl, -⟩ := EStateM.Result.ok.inj done
    rfl

/-- `Scenario.perform` keeps the interface, unless the operation ends it. -/
theorem perform_interface (goesOn : op.endsInterface = false) (there : x.interface?.isSome = true)
    (run : (x.perform op : HostM Empty (Scenario × Reply)) h = .ok r h') :
    r.1.interface?.isSome = true := by
  cases op with
  | incident what =>
    cases what with
    | tick =>
      obtain ⟨⟨x₁, waited⟩, h₁, ticked, done⟩ := of_bind_ok run
      obtain ⟨rfl, -⟩ := EStateM.Result.ok.inj done
      exact (tick_interface ticked).trans there
    | _ =>
      -- What the kernel does leaves the interface as it is.
      obtain ⟨_, _, -, done⟩ := of_bind_ok run
      obtain ⟨rfl, -⟩ := EStateM.Result.ok.inj done
      exact there
  | request q =>
    obtain ⟨_ | i, event⟩ := x
    · cases there
    · have kept {action : HostM Empty (Interface × Reply)}
          (run : keep event action h = .ok r h') : r.1.interface?.isSome = true := by
        obtain ⟨_, _, -, done⟩ := of_bind_ok run
        obtain ⟨rfl, -⟩ := EStateM.Result.ok.inj done
        rfl
      have same {i' : Interface} {reply : Reply}
          (run : (pure (⟨some i', event⟩, reply) : HostM Empty (Scenario × Reply)) h = .ok r h') :
          r.1.interface?.isSome = true := by
        obtain ⟨rfl, -⟩ := EStateM.Result.ok.inj run
        rfl
      -- Each request replies with some interface, the old one or a changed one.
      cases q with
      | free     => cases goesOn
      | drop     => cases goesOn
      | pollOnce timeout =>
        obtain ⟨_, _, _, _, _ | s⟩ := i
        · exact same run
        · obtain ⟨_, _, -, run⟩ := of_bind_ok run
          obtain ⟨⟨_, _, result⟩, _, -, run⟩ := of_bind_ok run
          cases result with
          | ok size =>
            obtain ⟨rfl, -⟩ := EStateM.Result.ok.inj run
            rfl
          | error f =>
            obtain ⟨rfl, -⟩ := EStateM.Result.ok.inj run
            rfl
      | transmit f? =>
        cases f? with
        | none   => exact same run
        | some f => exact kept run
      | setInterval d => exact same run
      | txSocket      => exact same run
      | _             => exact kept run

/-- What holds of an interface that is there, behind the operations and replies of `log`. -/
structure Standing (log : List (Operation × Reply)) (x : Scenario) (h : Host) : Prop where
  there     : x.interface?.isSome = true
  coherent  : x.Coherent
  holds     : h.Holds (x.estate h.kernel.detached)
  /-- There is a session exactly where the last initialisation succeeded. -/
  session   : x.session?.isSome = true ↔ lastInit? log = some .done
  unstopped : h.journal.Unstopped

/-- `Standing` is kept by `Scenario.withLink`. -/
theorem Standing.withLink (standing : Standing log x h) (link : Link) :
    Standing log (x.withLink link) h := by
  have same := session?_withLink link x
  refine ⟨?_, fun s there => standing.coherent s (same.symm.trans there), ?_, ?_, standing.unstopped⟩
  · rw [Scenario.withLink, Option.isSome_map]
    exact standing.there
  · rw [estate, sockets, same]
    exact standing.holds
  · rw [same]
    exact standing.session

/-- `Scenario.perform` keeps `Standing` for an operation that leaves the session to go on. -/
theorem Standing.perform_stays (standing : Standing log x h) (goesOn : op.endsInterface = false)
    (stays : op.staysOpen = true) :
    ∃ r h', (x.perform op : HostM Empty (Scenario × Reply)) h = .ok r h' ∧
      Standing (log ++ [(op, r.2)]) r.1 h' := by
  obtain ⟨r, h', run, -, _, holds, ts', goes, rfl⟩ :=
    (perform_spec standing.coherent op).answers standing.holds
  obtain rfl : h'.kernel.detached = ts' := holds.threads
  have silent := perform_asksNoLink (ε := Empty) (x := x) stays h
  rw [run] at silent
  refine ⟨r, h', run, perform_interface goesOn standing.there run, goes.coherent, holds, ?_,
    standing.unstopped.of_adds silent⟩
  -- There is a session behind the operation exactly where there was one before it.
  rw [lastInit?_concat_of_stays stays, ← standing.session]
  cases before : x.session? with
  | none =>
    rw [perform_session_of_none before stays run]
  | some s =>
    obtain ⟨s', found, -⟩ := goes.kept stays s before
    rw [found]
    rfl

/-- `Scenario.perform` of an initialisation keeps `Standing`: its reply is the last one
    from now on. -/
theorem Standing.perform_init (standing : Standing log x h) (c : Config) :
    ∃ r h', (x.perform (.request (.init c)) : HostM Empty (Scenario × Reply)) h = .ok r h' ∧
      Standing (log ++ [(.request (.init c), r.2)]) r.1 h' := by
  obtain ⟨i, there⟩ := Option.isSome_iff_exists.mp standing.there
  have same : x.session? = i.session? := session?_of_interface there
  obtain ⟨kept, h₁, made, i', result, h', done, released, initialised⟩ :=
    Interface.init_initialised c (fun s found => standing.coherent s (same.trans found))
      (estate_of_interface there ▸ standing.holds)
  have run := Scenario.perform_init there done
  obtain ⟨_, _, run', -, _, holds, ts', goes, rfl⟩ :=
    (perform_spec standing.coherent (.request (.init c))).answers standing.holds
  obtain ⟨rfl, rfl⟩ := EStateM.Result.ok.inj (run.symm.trans run')
  obtain rfl : h'.kernel.detached = ts' := holds.threads
  refine ⟨_, h', run, rfl, goes.coherent, holds, ?_, ?_⟩
  -- A session is left exactly where the initialisation replies `.done`.
  · rw [lastInit?_concat_init]
    cases result with
    | ok _ =>
      obtain ⟨r, running⟩ := initialised.running rfl
      exact iff_of_true (Option.isSome_iff_exists.mpr ⟨_, running.session⟩) rfl
    | error f =>
      have gone : (⟨some i', x.event⟩ : Scenario).session? = none := (initialised.undone f rfl).gone
      rw [gone]
      exact iff_of_false Bool.false_ne_true nofun
  · -- The end of the old session asks no link, and the start of the new one not for a stop.
    refine initialised.stages.unstopped fun name there => standing.unstopped name ?_
    rwa [released.requests] at there

/-- `Scenario.settle` keeps `Standing`. -/
theorem Standing.settle (standing : Standing log x h) :
    ∃ x' h', (x.settle : HostM Empty Scenario) h = .ok x' h' ∧ Standing log x' h' := by
  obtain ⟨x', h', run, -, _, holds, rfl, alike⟩ :=
    (settle_steady standing.coherent).answers standing.holds
  have same : h'.kernel.detached = h.kernel.detached := holds.threads
  have unasked := (settle_emits (ε := Empty) (x := x) fun _ _ _ _ => trivial).asksNoLink h
  rw [run] at unasked
  refine ⟨x', h', run, (settle_interface run).trans standing.there, alike.coherent standing.coherent,
    ?_, ?_, standing.unstopped.of_adds unasked⟩
  · rw [estate, alike.sockets, same]
    exact holds
  · rw [← standing.session]
    obtain ⟨-, ⟨gone, gone'⟩ | ⟨s, s', found, found', -⟩⟩ := alike
    · rw [gone, gone']
    · rw [found, found']
      rfl

/-- **`Scenario.step` keeps `Standing`**, unless the operation ends the interface. -/
theorem Standing.step (standing : Standing log x h) (goesOn : op.endsInterface = false) :
    ∃ r h', (x.step op : HostM Empty (Scenario × Reply)) h = .ok r h' ∧
      Standing (log ++ [(op, r.2)]) r.1 h' := by
  obtain ⟨⟨x₁, reply⟩, h₁, performed, standing₁⟩ :
      ∃ r h', (x.perform op : HostM Empty (Scenario × Reply)) h = .ok r h' ∧
        Standing (log ++ [(op, r.2)]) r.1 h' := by
    obtain stays | ⟨c, rfl⟩ := Operation.stays_or_init goesOn
    · exact standing.perform_stays goesOn stays
    · exact standing.perform_init c
  obtain ⟨x₂, h₂, settled, standing₂⟩ := standing₁.settle
  exact ⟨(x₂, reply), h₂, (bind_ok performed).trans (bind_ok settled), standing₂⟩

/-- The operations in order, each on a link of its own, with the replies. -/
def loggedSteps : List (Link × Operation) → Scenario →
    HostM Empty (Scenario × List (Operation × Reply))
  | [], x                   => return (x, [])
  | (link, op) :: script, x => do
    let (x, reply) ← (x.withLink link).step op
    let (x, log) ← loggedSteps script x
    return (x, (op, reply) :: log)

/-- `Interface.named`, and then `loggedSteps`. -/
def logged (name : String) (script : List (Link × Operation)) :
    HostM Empty (Scenario × List (Operation × Reply)) := do
  let i ← Interface.named name .external
  loggedSteps script (ofInterface i)

/-- **`loggedSteps` keeps `Standing`**, where no operation ends the interface. By induction on the
    script, with `Standing.step`. -/
theorem Standing.steps (script : List (Link × Operation)) (standing : Standing log x h)
    (goesOn : ∀ entry ∈ script, entry.2.endsInterface = false) :
    ∃ x' more h', loggedSteps script x h = .ok (x', more) h' ∧
      more.map Prod.fst = script.map Prod.snd ∧ Standing (log ++ more) x' h' := by
  induction script generalizing x h log with
  | nil => exact ⟨x, [], h, rfl, rfl, (List.append_nil log).symm ▸ standing⟩
  | cons entry script ih =>
    obtain ⟨link, op⟩ := entry
    obtain ⟨first, rest⟩ := List.forall_mem_cons.mp goesOn
    obtain ⟨⟨x₁, reply⟩, h₁, run, standing₁⟩ := (standing.withLink link).step first
    obtain ⟨x', more, h', runs, ops, standing'⟩ := ih standing₁ rest
    refine ⟨x', (op, reply) :: more, h', ?_, congrArg (op :: ·) ops, ?_⟩
    · rw [loggedSteps, bind_ok run]
      exact bind_ok runs
    · rwa [List.append_assoc] at standing'

/-- `logged` ends with `Standing`, where no operation ends the interface. -/
theorem exists_standing (links : List NetworkLink) (faults : Faults) (traffic : List Item)
    (name : String) (script : List (Link × Operation))
    (goesOn : ∀ entry ∈ script, entry.2.endsInterface = false) :
    ∃ x log h, logged name script (.start links faults traffic) = .ok (x, log) h ∧
      log.map Prod.fst = script.map Prod.snd ∧ Standing log x h := by
  obtain ⟨i, h, run, -, gone, -, held⟩ := exists_named links faults traffic name .external
  have unstopped : h.journal.Unstopped := by
    obtain ⟨-, rfl⟩ := EStateM.Result.ok.inj run
    exact fun name => List.not_mem_nil
  have standing : Standing [] (ofInterface i) h :=
    ⟨rfl, coherent_of_none gone, held, iff_of_false (by rw [gone]; exact Bool.false_ne_true) nofun,
      unstopped⟩
  obtain ⟨x, log, h', steps, ops, standing'⟩ := standing.steps script goesOn
  exact ⟨x, log, h', (bind_ok run).trans steps, ops, standing'⟩

end Scenario

/-! ### The end of an interface -/

namespace Interface

variable {i : Interface} {s : Session} {kept : List Thread} {h h₁ h' : Host}

/-- `Released` closes the receive sockets, unless the lock is poisoned and a detached worker
    keeps them. -/
theorem Released.closes_receive (released : i.Released kept h h₁) (there : i.session? = some s) :
    ∃ es, h₁.journal.toList = h.journal.toList ++ es ∧ ∀ fd ∈ s.waitSet.rx, fd ∈ closed es ∨
      s.poisoned = true ∧ s.Detaches ∧ kept = [⟨s.name, s.sockets⟩] := by
  obtain ⟨es, journal, -, closes⟩ := released.closes
  have own : i.sockets = s.tx :: s.waitSet.rx := by rw [sockets, there]; rfl
  rw [own] at closes
  refine ⟨es, journal, fun fd member => ?_⟩
  obtain rfl | ⟨s₁, found, detaches, rfl⟩ := released.policy
  · -- Nobody keeps anything.
    rw [List.flatMap_nil, List.append_nil] at closes
    exact .inl (closes.mem_iff.mpr (List.mem_cons_of_mem _ member))
  · obtain rfl := Option.some.inj (found.symm.trans there)
    cases locked : s₁.poisoned with
    | true =>
      have all : s₁.remains = s₁.sockets := by
        rw [Session.remains, locked]
        rfl
      exact .inr ⟨rfl, detaches, by rw [all]⟩
    | false =>
      -- Of the sockets the worker keeps only the one to transmit on.
      have one : [(⟨s₁.name, s₁.remains⟩ : Thread)].flatMap Thread.sockets = [s₁.tx] := by
        rw [List.flatMap_singleton, Session.remains, locked]
        rfl
      rw [one] at closes
      have rest := (List.perm_append_singleton ..).symm.trans closes
      exact .inl ((List.perm_cons _).mp rest |>.mem_iff.mpr member)

/-- The session `s` was released as `Released` has it, and then the link was asked to stop, once. -/
structure Stopped (i : Interface) (s : Session) (kept : List Thread) (h h₁ : Host)
    (result : Except Failure Unit) (h' : Host) : Prop where
  released : i.Released kept h h₁
  receive  : ∃ es, h₁.journal.toList = h.journal.toList ++ es ∧ ∀ fd ∈ s.waitSet.rx, fd ∈ closed es ∨
    s.poisoned = true ∧ s.Detaches ∧ kept = [⟨s.name, s.sockets⟩]
  asked    : i.link.Heard i.name [.stop] h₁ h'
  once     : h'.journal.requests = h.journal.requests ++ i.link.recorded i.name [.stop]
  answer   : result = match i.link.verdict .stop with
    | some code => .error (.ofCode code)
    | none      => .ok ()

/-- `Interface.shutdown` without a session does nothing. -/
theorem shutdown_of_none (gone : i.session? = none) (h : Host) :
    (i.shutdown : HostM Empty (Interface × Except Failure Unit)) h = .ok (i, .ok ()) h := by
  obtain ⟨name, config, link, interval, _⟩ := i
  obtain rfl := gone
  rfl

/-- `Interface.shutdown` with a session ends with `Stopped`. -/
theorem shutdown_stopped (coherent : i.Coherent) (holds : h.Holds (i.estate h.kernel.detached))
    (there : i.session? = some s) :
    ∃ kept h₁ result h', (i.shutdown : HostM Empty (Interface × Except Failure Unit)) h =
        .ok ({ i with session? := none }, result) h' ∧ i.Stopped s kept h h₁ result h' := by
  obtain ⟨kept, h₁, run, released, -⟩ := released coherent holds
  -- The release asks no link, so that the stop is all that is asked.
  obtain ⟨h₂, heard, answer⟩ := i.link.ask_cases i.name .stop h₁
  rw [there, Option.isSome_some] at run
  unfold shutdown
  rw [bind_ok run]
  cases verdict : i.link.verdict .stop with
  | none =>
    rw [verdict] at answer
    refine ⟨kept, h₁, .ok (), h₂, ?_, released, released.closes_receive there, heard, ?_, ?_⟩
    · exact bind_ok (attempt_ok answer)
    · rw [heard.requests, released.requests]
    · rw [verdict]
  | some code =>
    rw [verdict] at answer
    -- A refusal goes to the log as well.
    have told : i.link.Heard i.name [.stop] h₁ _ := heard.trans (.logged h₂
      ⟨.error, .interface, i.name ++ ": can not stop interface: " ++ (Failure.ofCode code).message⟩)
    refine ⟨kept, h₁, .error (.ofCode code), _, ?_, released, released.closes_receive there, told, ?_, ?_⟩
    · exact bind_ok (attempt_error answer)
    · rw [told.requests, released.requests]
    · rw [verdict]

end Interface

namespace Scenario

variable {x : Scenario} {i i' : Interface} {result : Except Failure Unit} {h h' : Host}

/-- `Scenario.step` of `.free` is `Interface.shutdown`, whose result it replies. -/
theorem step_free (there : x.interface? = some i)
    (run : (i.shutdown : HostM Empty (Interface × Except Failure Unit)) h = .ok (i', result) h') :
    (x.step (.request .free) : HostM Empty (Scenario × Reply)) h =
      .ok (⟨none, x.event⟩, .ofResult result) h' := by
  obtain ⟨_, event⟩ := x
  obtain rfl := there
  have answers : (answer event i .free : HostM Empty (Scenario × Reply)) h =
      .ok (⟨none, event⟩, .ofResult result) h' := bind_ok run
  exact bind_ok answers

/-- `Scenario.step` of `.drop` is `Interface.shutdown`, and replies `.done`. -/
theorem step_drop (there : x.interface? = some i)
    (run : (i.shutdown : HostM Empty (Interface × Except Failure Unit)) h = .ok (i', result) h') :
    (x.step (.request .drop) : HostM Empty (Scenario × Reply)) h =
      .ok (⟨none, x.event⟩, .done) h' := by
  obtain ⟨_, event⟩ := x
  obtain rfl := there
  have answers : (answer event i .drop : HostM Empty (Scenario × Reply)) h =
      .ok (⟨none, event⟩, .done) h' := bind_ok run
  exact bind_ok answers

end Scenario

/-- **The link is asked to stop where a session ends with its interface.** Take an interface after
    any steps that do not end it, under all failures that are scripted and all answers of the link.
    Up to then the link was never asked to stop. If the last initialisation succeeded, the end of
    the interface closes the receive sockets, or leaves them to the worker where the lock is
    poisoned; then it asks the link to stop, once, and answers what the link answers to that. If the
    last initialisation failed, or there was none, nothing happens, whatever succeeded before it.
    Either way the end of an interface that was freed does nothing more. -/
theorem link_stopped_with_session (links : List NetworkLink) (faults : Faults) (traffic : List Item)
    (name : String) (script : List (Link × Operation))
    (goesOn : ∀ entry ∈ script, entry.2.endsInterface = false) :
    ∃ x i log h, Scenario.logged name script (.start links faults traffic) = .ok (x, log) h ∧
      log.map Prod.fst = script.map Prod.snd ∧ x.interface? = some i ∧ h.journal.Unstopped ∧
      ∀ link, ∃ i' result h',
        ((i.withLink link).shutdown : HostM Empty (Interface × Except Failure Unit)) h =
          .ok (i', result) h' ∧
        (i'.shutdown : HostM Empty (Interface × Except Failure Unit)) h' = .ok (i', .ok ()) h' ∧
        ((x.withLink link).step (.request .free) : HostM Empty (Scenario × Reply)) h =
          .ok (⟨none, x.event⟩, .ofResult result) h' ∧
        ((x.withLink link).step (.request .drop) : HostM Empty (Scenario × Reply)) h =
          .ok (⟨none, x.event⟩, .done) h' ∧
        (Scenario.lastInit? log = some .done → ∃ s kept h₁, i.session? = some s ∧
          (i.withLink link).Stopped s kept h h₁ result h') ∧
        (Scenario.lastInit? log ≠ some .done → result = .ok () ∧ h' = h) := by
  obtain ⟨x, log, h, run, ops, standing⟩ :=
    Scenario.exists_standing links faults traffic name script goesOn
  obtain ⟨i, there⟩ := Option.isSome_iff_exists.mp standing.there
  refine ⟨x, i, log, h, run, ops, there, standing.unstopped, fun link => ?_⟩
  have found : (x.withLink link).interface? = some (i.withLink link) := by
    rw [Scenario.withLink, there, Option.map_some]
  have same : (x.withLink link).session? = i.session? := by
    rw [Scenario.session?_of_interface found]
    rfl
  have linked := standing.withLink link
  -- By `standing.session`, there is a session exactly where the last initialisation succeeded.
  cases session : i.session? with
  | none =>
    have ended := Interface.shutdown_of_none (i := i.withLink link) session
    refine ⟨_, _, h, ended h, ended h, Scenario.step_free found (ended h),
      Scenario.step_drop found (ended h), fun up => ?_, fun _ => ⟨rfl, rfl⟩⟩
    have there := linked.session.mpr up
    rw [same, session] at there
    cases there
  | some s =>
    obtain ⟨kept, h₁, result, h', done, stopped⟩ :=
      Interface.shutdown_stopped (i := i.withLink link) (s := s)
        (fun s there => linked.coherent s (same.trans there))
        (Scenario.estate_of_interface found ▸ linked.holds) session
    refine ⟨_, result, h', done, Interface.shutdown_of_none rfl h', Scenario.step_free found done,
      Scenario.step_drop found done, fun _ => ⟨s, kept, h₁, rfl, stopped⟩,
      fun down => absurd (linked.session.mp ?_) down⟩
    rw [same, session]
    rfl

/-- The replies to a script and to a `.free` behind it on `link`, and all requests to the links. -/
def Scenario.endReplies (script : List (Link × Operation)) (link : Link) :
    List Reply × List (LinkRequest × String) :=
  let ending := logged "can0" script >>= fun (x, log) => do
    let (_, reply) ← (x.withLink link).step (.request .free)
    return log.map Prod.snd ++ [reply]
  match ending (.start [⟨"can0", 3, fdSize⟩] .none []) with
  | .ok replies h  => (replies, h.journal.requests)
  | .error never _ => never.elim

theorem Scenario.endReplies_of_runs {script : List (Link × Operation)} {link : Link} {x x' : Scenario}
    {log : List (Operation × Reply)} {reply : Reply} {h h' : Host}
    (run : logged "can0" script (.start [⟨"can0", 3, fdSize⟩] .none []) = .ok (x, log) h)
    (free : ((x.withLink link).step (.request .free) : HostM Empty (Scenario × Reply)) h =
      .ok (x', reply) h') :
    endReplies script link = (log.map Prod.snd ++ [reply], h'.journal.requests) := by
  unfold endReplies
  dsimp only
  rw [bind_ok run]
  dsimp only
  rw [bind_ok free]
  rfl

/-- An initialisation without a socket, which fails, one more that succeeds, and a
    receive handler. -/
def Scenario.secondTry : List (Link × Operation) :=
  [(.recorder .none, .incident (.script [(.socket, [24])])),
    (.recorder .none, .request (.init .default))] ++ listening

/-- A link that refuses `.stop`. -/
def Link.stuck : Link := .recorder { Refusals.none with stop := some .linkStop }

/-- Behind `Scenario.secondTry`, `Link.stuck` is asked to stop, once, and its refusal is
    the reply. -/
theorem link_stopped_with_session_refused :
    (∀ entry ∈ Scenario.secondTry, entry.2.endsInterface = false) ∧
      Scenario.endReplies Scenario.secondTry .stuck =
        ([.done, .failed (.os .txSocketCreate 24), .done, .socket 101, .failed (.ofCode .linkStop)],
          [(.start, "can0"), (.start, "can0"), (.stop, "can0")]) ∧
      ∃ (x : Scenario) (i : Interface) (log : List (Operation × Reply)) (h : Host) (s : Session)
        (kept : List Thread) (h₁ h' : Host), Scenario.logged "can0" Scenario.secondTry
          (.start [⟨"can0", 3, fdSize⟩] .none []) = .ok (x, log) h ∧ i.session? = some s ∧
        (i.withLink .stuck).Stopped s kept h h₁ (.error (.ofCode .linkStop)) h' := by
  have goesOn : ∀ entry ∈ Scenario.secondTry, entry.2.endsInterface = false := by decide
  have replies : Scenario.endReplies Scenario.secondTry .stuck =
      ([.done, .failed (.os .txSocketCreate 24), .done, .socket 101, .failed (.ofCode .linkStop)],
        [(.start, "can0"), (.start, "can0"), (.stop, "can0")]) := by decide +kernel
  refine ⟨goesOn, replies, ?_⟩
  obtain ⟨x, i, log, h, run, -, -, -, ends⟩ :=
    link_stopped_with_session [⟨"can0", 3, fdSize⟩] .none [] "can0" Scenario.secondTry goesOn
  obtain ⟨i', result, h', -, -, free, -, up, down⟩ := ends .stuck
  -- The last reply is that of the end from where the theorem starts.
  rw [Scenario.endReplies_of_runs run free] at replies
  have last : some (Reply.ofResult result) = some (.failed (.ofCode .linkStop)) :=
    List.getLast?_concat.symm.trans (congrArg List.getLast? (Prod.mk.inj replies).1)
  cases result with
  | ok _    => cases last
  | error f =>
    obtain rfl := Reply.failed.inj (Option.some.inj last)
    have done : Scenario.lastInit? log = some .done := by
      by_contra failed
      exact nomatch (down failed).1
    obtain ⟨s, kept, h₁, there, stopped⟩ := up done
    exact ⟨x, i, log, h, s, kept, h₁, h', run, there, stopped⟩

/-- An initialisation, and one more without a socket. -/
def Scenario.failingAgain : List (Link × Operation) :=
  let polled : Config := { Config.default with polled := true }
  [(.recorder .none, .request (.init polled)),
    (.recorder .none, .incident (.script [(.socket, [24])])),
    (.recorder .none, .request (.init polled))]

/-- Behind `Scenario.failingAgain` the link is left up: an initialisation succeeded, and the end of
    the interface asks for no stop. -/
theorem link_left_up :
    Scenario.endReplies Scenario.failingAgain (.recorder .none) =
      ([.done, .done, .failed (.os .txSocketCreate 24), .done], [(.start, "can0"), (.start, "can0")]) := by
  decide +kernel

end CanDriver
