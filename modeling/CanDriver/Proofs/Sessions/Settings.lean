import CanDriver.Proofs.Sessions.Initialisation

namespace CanDriver

/-!
# The settings of a session

* `Scenario.settings?` — the settings of the last initialisation among some steps;
* `Scenario.perform_config` — a session comes of an initialisation and has its settings, or it was there
  before the operation and keeps its own;
* `Scenario.Traced.settings_step` — a session has the settings of the last initialisation.
-/

open Host

namespace Scenario

/-- The settings of the last initialisation among `ops`. -/
def settings? (ops : List Operation) : Option Config :=
  (ops.filterMap fun | .request (.init c) => some c | _ => none).getLast?

variable {x : Scenario} {op : Operation} {r : Scenario × Reply} {h h' : Host} {s' : Session}

/-- `Scenario.perform` of any operation but an initialisation leaves no session where there
    was none. -/
theorem perform_session_of_none (gone : x.session? = none) (stays : op.staysOpen = true)
    (run : (x.perform op : HostM Empty (Scenario × Reply)) h = .ok r h') : r.1.session? = none := by
  -- Most steps answer with the interface as it was.
  have same {α : Type} {action : HostM Empty α} {reply : α → Reply}
      (run : (do let a ← action; return (x, reply a) : HostM Empty (Scenario × Reply)) h = .ok r h') :
      r.1.session? = none := by
    obtain ⟨a, h₁, -, done⟩ := of_bind_ok run
    obtain ⟨rfl, -⟩ := EStateM.Result.ok.inj done
    exact gone
  cases op with
  | incident what =>
    cases what with
    | deliver items => exact same run
    | override fd value => exact same run
    | script faults => exact same run
    | workerEnds n => exact same run
    | tick =>
      have idle : (x.tick : HostM Empty (Scenario × Bool)) h = .ok (x, false) h := by
        obtain ⟨_ | ⟨_, _, _, _, _ | s⟩, event⟩ := x
        · rfl
        · rfl
        · cases gone
      obtain ⟨_, _, ticked, done⟩ := of_bind_ok run
      obtain ⟨rfl, rfl⟩ := EStateM.Result.ok.inj (idle.symm.trans ticked)
      obtain ⟨rfl, -⟩ := EStateM.Result.ok.inj done
      exact gone
  | request q =>
    obtain ⟨i?, event⟩ := x
    cases i? with
    | none   =>
      obtain ⟨rfl, -⟩ := EStateM.Result.ok.inj run
      rfl
    | some i =>
      by_cases needs : q.needsSession = true
      · obtain ⟨rfl, -⟩ := EStateM.Result.ok.inj
          ((perform_of_none (i := i) rfl gone needs h).symm.trans run)
        exact gone
      · -- The requests that are left do not touch the session.
        have kept : r.1.session? = i.session? := by
          cases q with
          | transmit f? =>
            cases f? with
            | none   =>
              obtain ⟨rfl, -⟩ := EStateM.Result.ok.inj run
              rfl
            | some f => exact absurd rfl needs
          | setInterval d =>
            obtain ⟨rfl, -⟩ := EStateM.Result.ok.inj run
            rfl
          | state =>
            obtain ⟨rfl, -⟩ := EStateM.Result.ok.inj run
            rfl
          | init | free | drop => cases stays
          | _ => exact absurd rfl needs
        exact kept.trans gone

/-- The session that `.init c` leaves has the settings `c`. -/
theorem perform_init_config {c : Config} (coherent : x.Coherent)
    (holds : h.Holds (x.estate h.kernel.detached))
    (run : (x.perform (.request (.init c)) : HostM Empty (Scenario × Reply)) h = .ok r h')
    (there : r.1.session? = some s') : s'.config = c := by
  obtain ⟨_ | i, event⟩ := x
  · obtain ⟨rfl, -⟩ := EStateM.Result.ok.inj run
    cases there
  · obtain ⟨kept, h₁, made, i', result, h₂, done, -, initialised⟩ :=
      Interface.init_initialised c coherent holds
    obtain ⟨rfl, -⟩ := EStateM.Result.ok.inj ((perform_init rfl done).symm.trans run)
    cases result with
    | error f =>
      exact nomatch (initialised.undone f rfl).gone.symm.trans there
    | ok _ =>
      obtain ⟨r, running⟩ := initialised.running rfl
      obtain rfl := Option.some.inj (running.session.symm.trans there)
      rfl

/-- `.free` and `.drop` leave no session. -/
theorem perform_ends {q : Request} (ends : q = .free ∨ q = .drop)
    (run : (x.perform (.request q) : HostM Empty (Scenario × Reply)) h = .ok r h') :
    r.1.session? = none := by
  obtain ⟨_ | i, event⟩ := x
  · obtain ⟨rfl, -⟩ := EStateM.Result.ok.inj run
    rfl
  · obtain rfl | rfl := ends
    · obtain ⟨_, _, -, done⟩ := of_bind_ok run
      obtain ⟨rfl, -⟩ := EStateM.Result.ok.inj done
      rfl
    · obtain ⟨_, _, -, done⟩ := of_bind_ok run
      obtain ⟨rfl, -⟩ := EStateM.Result.ok.inj done
      rfl

/-- The session that `Scenario.perform` leaves has the settings of the initialisation that it
    performs, or those of the session before. -/
theorem perform_config (coherent : x.Coherent) (holds : h.Holds (x.estate h.kernel.detached))
    {ts' : List Thread} (goes : x.Goes h.kernel.detached op r ts')
    (run : (x.perform op : HostM Empty (Scenario × Reply)) h = .ok r h')
    (there : r.1.session? = some s') :
    op = .request (.init s'.config) ∨
      op.staysOpen = true ∧ ∃ s, x.session? = some s ∧ s'.config = s.config := by
  cases stays : op.staysOpen with
  | true =>
    cases before : x.session? with
    | none   => exact nomatch (perform_session_of_none before stays run).symm.trans there
    | some s =>
      -- The session goes on in place, and with it its settings.
      obtain ⟨s₁, found, next, -⟩ := goes.kept stays s before
      obtain rfl := Option.some.inj (found.symm.trans there)
      exact .inr ⟨rfl, s, rfl, next.config⟩
  | false =>
    cases op with
    | incident what => cases stays
    | request q =>
      cases q with
      | init c => exact .inl (by rw [perform_init_config coherent holds run there])
      | free   => exact nomatch (perform_ends (.inl rfl) run).symm.trans there
      | drop   => exact nomatch (perform_ends (.inr rfl) run).symm.trans there
      | _      => cases stays

/-- `settings?` does not see an operation that leaves the session to go on. -/
theorem settings?_concat_of_stays {ops : List Operation} (stays : op.staysOpen = true) :
    settings? (ops ++ [op]) = settings? ops := by
  have silent : [op].filterMap (fun | .request (.init c) => some c | _ => none) = ([] : List Config) := by
    cases op with
    | incident what => rfl
    | request q =>
      cases q with
      | init c => cases stays
      | _      => rfl
  rw [settings?, List.filterMap_append, silent, List.append_nil]
  rfl

/-- **A session has the settings `settings? ops`**, and `Scenario.step` keeps it so. -/
theorem Traced.settings_step {name : String} {link : Link} {first : Host} {ops : List Operation}
    (traced : Traced name link first ops x h)
    (known : ∀ s, x.session? = some s → settings? ops = some s.config)
    (run : (x.step op : HostM Empty (Scenario × Reply)) h = .ok r h') (there : r.1.session? = some s') :
    settings? (ops ++ [op]) = some s'.config := by
  obtain ⟨r₁, h₁, performed, -, _, holds₁, ts', goes, rfl⟩ :=
    (perform_spec traced.coherent op).answers traced.holds
  obtain ⟨x₂, h₂, settled, -, _, -, -, alike⟩ := (settle_steady goes.coherent).answers holds₁
  obtain ⟨r₁', h₁', performed', run⟩ := of_bind_ok run
  obtain ⟨rfl, rfl⟩ := EStateM.Result.ok.inj (performed.symm.trans performed')
  obtain ⟨x₂', h₂', settled', done⟩ := of_bind_ok run
  obtain ⟨rfl, rfl⟩ := EStateM.Result.ok.inj (settled.symm.trans settled')
  obtain ⟨rfl, -⟩ := EStateM.Result.ok.inj done
  -- The worker goes on with the same settings.
  obtain ⟨-, ⟨-, gone⟩ | ⟨s₁, s₂, found, found', same⟩⟩ := alike
  · exact nomatch gone.symm.trans there
  · obtain rfl := Option.some.inj (found'.symm.trans there)
    rw [same.config]
    obtain rfl | ⟨stays, s, before, config⟩ :=
      perform_config traced.coherent traced.holds goes performed found
    · rw [settings?, List.filterMap_append]
      exact List.getLast?_concat
    · rw [settings?_concat_of_stays stays, config]
      exact known s before

end Scenario

end CanDriver
