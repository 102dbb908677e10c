import CanDriver.Proofs.Sessions.Emissions

namespace CanDriver

/-!
# What is done to a socket before it is bound

* `Commission` — what a socket is set up for, and the steps that prepare it;
* `Commission.Configured` — what has happened to a socket by the time it is bound;
* `Commission.Prepares` — the effects of preparing a socket, none of which binds it;
* `Setup.Step.perform_ok`, `Setup.run_ok` — steps that succeed have made their calls;
* `Commission.Attempt` — a setup, from the opening of its socket on: the socket is bound as the last
  thing, when it is configured, or it is closed;
* `Setup.openSocket_attempt` — every setup that gets a socket is one.
-/

open Host Effect

/-! ### Commissions -/

/-- What a socket is set up for: the link `name`, a role, settings and filters. -/
structure Commission where
  name    : String
  role    : SocketRole
  config  : Config
  filters : List Filter

namespace Commission

/-- The commission of the transmit socket, which admits no data frames. -/
def transmit (name : String) (c : Config) : Commission := ⟨name, .transmit, c, []⟩

/-- The commission of a receive socket with the filters `fs`. -/
def receive (name : String) (c : Config) (fs : List Filter) : Commission := ⟨name, .receive, c, fs⟩

/-- The steps of the commission before `bind`. -/
def preparation (c : Commission) : List Setup.Step :=
  match c.role with
  | .transmit =>
    [.resolve, .nonblocking] ++ c.config.fdSteps ++ [.filters c.filters] ++
      Config.bufferSteps c.config.txBuffer ++ c.config.errorSteps
  | .receive  =>
    [.nonblocking] ++ c.config.headerSteps ++ c.config.fdSteps ++
      Config.bufferSteps c.config.rxBuffer ++ c.config.errorSteps ++ [.filters c.filters]

/-- `Config.txSteps` are the preparation of `transmit`, and then `bind`. -/
theorem txSteps_eq (name : String) (c : Config) :
    c.txSteps = (transmit name c).preparation ++ [.bind] := rfl

/-- `Config.rxSteps` are the preparation of `receive`, and then `bind`. -/
theorem rxSteps_eq (name : String) (c : Config) (fs : List Filter) :
    c.rxSteps fs = (receive name c fs).preparation ++ [.bind] := by
  have last : ([.filters fs, .bind] : List Setup.Step) = [.filters fs] ++ [.bind] := rfl
  rw [Config.rxSteps, last, ← List.append_assoc]
  rfl

/-- Among `es` are the calls on `fd` that the commission asks for, on a host with these links. None
    of them failed. -/
structure Configured (c : Commission) (links : List NetworkLink) (fd : Fd) (es : List Effect) :
    Prop where
  nonblocking : .call (.nonblocking fd none) ∈ es
  /-- With FD frames, the link was asked for the size of its frames, which is `fdSize`. -/
  fdLink      : c.config.fd = true → .call (.linkMtu fd c.name none) ∈ es ∧
    ∃ link, links.find? (·.name = c.name) = some link ∧ link.mtu = fdSize
  fdFrames    : c.config.fd = true → .call (.setOption fd .fdFrames (.word 1) none) ∈ es
  errors      : c.config.errorMask ≠ 0 →
    .call (.setOption fd .errorFilter (.word c.config.errorMask.toNat) none) ∈ es
  filters     : .call (.setOption fd .rawFilter (.filters c.filters) none) ∈ es
  timestamps  : c.role = .receive → c.config.processHeader = true →
    .call (.setOption fd (Setup.timestampOption c.config.hwTimestamp).1
      (Setup.timestampOption c.config.hwTimestamp).2 none) ∈ es
  dropCounter : c.role = .receive → c.config.processHeader = true →
    .call (.setOption fd .dropCounter (.word 1) none) ∈ es

/-- `value` is that of the commission, where `option` decides which frames are let in. -/
def Allows (c : Commission) (option : SocketOption) (value : OptionValue) : Prop :=
  (option = .rawFilter → value = .filters c.filters) ∧
    (option = .errorFilter → value = .word c.config.errorMask.toNat)

/-- The effects of preparing `fd`. A `bind` among them was refused. -/
inductive Prepares (c : Commission) (fd : Fd) : Effect → Prop
  | record (r : Log.Record) : c.Prepares fd (.record r)
  | index (name : String) (e? : Option Errno) : c.Prepares fd (.call (.interfaceIndex name e?))
  | nonblocking (e? : Option Errno) : c.Prepares fd (.call (.nonblocking fd e?))
  | mtu (name : String) (e? : Option Errno) : c.Prepares fd (.call (.linkMtu fd name e?))
  | option {option : SocketOption} {value : OptionValue} (allowed : c.Allows option value)
      (e? : Option Errno) : c.Prepares fd (.call (.setOption fd option value e?))
  | size (option : SocketOption) (e? : Option Errno) : c.Prepares fd (.call (.getOption fd option e?))
  | refused (index : Int32) (e : Errno) : c.Prepares fd (.call (.bind fd index (some e)))

end Commission

namespace Setup

/-! ### Steps that succeed -/

section Success

variable {α : Type} {h h' : Host}

theorem refuse_ne_ok {name what : String} {level : Log.Level} {code : ErrorCode} (e : Errno)
    (h₁ : Host) (a : α) (h₂ : Host) : refuse name level what code e h₁ ≠ .ok a h₂ := nofun

/-- A call that answers was recorded without a failure. -/
theorem of_call_ok {p : Point} {c : Option Errno → KernelCall} {rest : HostM Errno α} {a : α}
    (run : (do let e? ← fault p; record (c e?); failWith e?; rest : HostM Errno α) h = .ok a h') :
    ∃ h₁, Leads [.call (c none)] h h₁ ∧ rest h₁ = .ok a h' := by
  obtain ⟨e?, h₁, taken, run⟩ := of_bind_ok run
  obtain ⟨_, h₂, recorded, run⟩ := of_bind_ok run
  obtain ⟨-, rfl⟩ := EStateM.Result.ok.inj taken
  obtain ⟨-, rfl⟩ := EStateM.Result.ok.inj recorded
  obtain ⟨_, h₃, passed, run⟩ := of_bind_ok run
  -- A failure would have been thrown here.
  cases e? with
  | some e => exact nomatch passed
  | none   =>
    obtain ⟨-, rfl⟩ := EStateM.Result.ok.inj passed
    refine ⟨_, ?_, run⟩
    exact ⟨Array.toList_push, rfl⟩

theorem setNonblocking_ok {fd : Fd} (run : setNonblocking fd h = .ok () h') :
    Leads [.call (.nonblocking fd none)] h h' := by
  have ends : setNonblocking fd = (do
      let e? ← fault .nonblocking
      record (.nonblocking fd e?)
      failWith e?
      pure ()) := by
    simp only [setNonblocking, bind_pure_unit]
  rw [ends] at run
  obtain ⟨h₁, way, done⟩ := of_call_ok run
  obtain ⟨-, rfl⟩ := EStateM.Result.ok.inj done
  exact way

theorem setOption_ok {fd : Fd} {option : SocketOption} {value : OptionValue}
    (run : setOption fd option value h = .ok () h') :
    Leads [.call (.setOption fd option value none)] h h' := by
  obtain ⟨h₁, way, done⟩ := of_call_ok run
  obtain ⟨-, rfl⟩ := EStateM.Result.ok.inj done
  exact ⟨way.journal, way.links⟩

theorem bindSocket_ok {fd : Fd} {index : UInt32} (run : bindSocket fd index h = .ok () h') :
    Leads [.call (.bind fd index.toInt32 none)] h h' := by
  obtain ⟨h₁, way, done⟩ := of_call_ok run
  obtain ⟨-, rfl⟩ := EStateM.Result.ok.inj done
  exact ⟨way.journal, Kernel.links_bindSocket.trans way.links⟩

/-- `Host.linkMtu` answers the `mtu` of the link. -/
theorem linkMtu_ok {fd : Fd} {name : String} {mtu : Int} (run : linkMtu fd name h = .ok mtu h') :
    Leads [.call (.linkMtu fd name none)] h h' ∧
      ∃ link, h.kernel.links.find? (·.name = name) = some link ∧ link.mtu = mtu := by
  obtain ⟨h₁, way, run⟩ := of_call_ok run
  obtain ⟨link?, h₂, asked, run⟩ := of_bind_ok run
  obtain ⟨rfl, rfl⟩ := EStateM.Result.ok.inj asked
  dsimp only at run
  cases found : h₁.kernel.link? name with
  | none =>
    rw [found] at run
    exact nomatch run
  | some link =>
    rw [found] at run
    obtain ⟨rfl, rfl⟩ := EStateM.Result.ok.inj run
    exact ⟨way, link, way.links ▸ found, rfl⟩

/-- `Setup.requireFdLink` succeeds for a link whose `mtu` is `fdSize`. -/
theorem requireFdLink_ok {s : Subject} (run : requireFdLink s h = .ok () h') :
    Leads [.call (.linkMtu s.fd s.name none)] h h' ∧
      ∃ link, h.kernel.links.find? (·.name = s.name) = some link ∧ link.mtu = fdSize := by
  obtain ⟨mtu, h₁, read, run⟩ := of_bind_ok run
  obtain ⟨way, link, found, same⟩ := linkMtu_ok (of_orElse_ok refuse_ne_ok read)
  split at run
  · exact nomatch run
  · next fits =>
    obtain ⟨-, rfl⟩ := EStateM.Result.ok.inj run
    exact ⟨way, link, found, same.trans (Decidable.not_not.mp fits)⟩

end Success

/-- What `es` have of a step that succeeded. The size of the buffer, and where the socket is bound,
    do not count here. -/
def Step.Met (s : Subject) (links : List NetworkLink) (es : List Effect) : Step → Prop
  | .resolve  => True
  | .buffer _ => True
  | .bind     => True
  | .fdLink   => .call (.linkMtu s.fd s.name none) ∈ es ∧
    ∃ link, links.find? (·.name = s.name) = some link ∧ link.mtu = fdSize
  | step      => ∀ call ∈ step.calls s 0, .call (call none) ∈ es

/-- `Step.Met` for more effects. -/
theorem Step.Met.mono {s : Subject} {links : List NetworkLink} {es fs : List Effect} {step : Step}
    (met : step.Met s links es) (more : es ⊆ fs) : step.Met s links fs := by
  cases step with
  | resolve | buffer | bind => trivial
  | fdLink => exact ⟨more met.1, met.2⟩
  | _      => exact fun call member => more (met call member)

section Steps

variable {s : Subject} {p p' : Progress} {h h' : Host}

/-- **A step that succeeds is `Step.Met` by its effects.** -/
theorem Step.perform_ok {step : Step} (run : step.perform s p h = .ok p' h') :
    ∃ es, Leads es h h' ∧ step.Met s h.kernel.links es := by
  -- A call with what is answered after it, where the failure of the call is the failure of the step.
  have single {ε : Type} {call : HostM ε Unit} {handle : ε → HostM Failure Unit}
      (fails : ∀ e h₁ b h₂, handle e h₁ ≠ .ok b h₂)
      (run : (do orElse call handle; return p : HostM Failure Progress) h = .ok p' h') :
      call h = .ok () h' := by
    obtain ⟨_, h₁, called, done⟩ := of_bind_ok run
    obtain ⟨-, rfl⟩ := EStateM.Result.ok.inj done
    exact of_orElse_ok fails called
  -- An option that was set is the one call of its step.
  have sets {option : SocketOption} {value : OptionValue} {handle : Errno → HostM Failure Unit}
      (fails : ∀ e h₁ b h₂, handle e h₁ ≠ .ok b h₂)
      (run : (do orElse (setOption s.fd option value) handle; return p : HostM Failure Progress) h =
        .ok p' h') : ∃ es, Leads es h h' ∧
        ∀ call ∈ [KernelCall.setOption s.fd option value], .call (call none) ∈ es :=
    ⟨_, setOption_ok (single fails run), fun call member =>
      List.mem_singleton.mp member ▸ List.mem_singleton_self _⟩
  -- Of some steps nothing but the way is of interest.
  have anything : ∃ es, Leads es h h' := by
    obtain ⟨es, way, -⟩ := Step.emits (Q := fun _ => True) (fun _ => trivial) p step
      (fun _ _ _ => trivial) h
    rw [run] at way
    exact ⟨es, way⟩
  cases step with
  | resolve => exact anything.imp fun es way => ⟨way, trivial⟩
  | buffer size => exact anything.imp fun es way => ⟨way, trivial⟩
  | bind => exact anything.imp fun es way => ⟨way, trivial⟩
  | nonblocking =>
    have fails (e : Errno) (h₁ : Host) (b : Unit) (h₂ : Host) :
        (throw (.os .setNonblocking e) : HostM Failure Unit) h₁ ≠ .ok b h₂ := nofun
    exact ⟨_, setNonblocking_ok (single fails run), fun call member =>
      List.mem_singleton.mp member ▸ List.mem_singleton_self _⟩
  | fdLink =>
    obtain ⟨_, h₁, required, done⟩ := of_bind_ok run
    obtain ⟨-, rfl⟩ := EStateM.Result.ok.inj done
    obtain ⟨way, link⟩ := requireFdLink_ok required
    exact ⟨_, way, List.mem_singleton_self _, link⟩
  | fdFrames            => exact sets refuse_ne_ok run
  | timestamps hardware => exact sets refuse_ne_ok run
  | dropCounter         => exact sets refuse_ne_ok run
  | errorMask mask      => exact sets refuse_ne_ok run
  | filters fs          => exact sets refuse_ne_ok run

/-- **Steps that succeed in a row are all `Step.Met`** by their effects. By induction on the steps,
    with `Step.perform_ok`. -/
theorem run_ok {steps : List Step} (done : Setup.run s steps p h = .ok p' h') :
    ∃ es, Leads es h h' ∧ ∀ step ∈ steps, step.Met s h.kernel.links es := by
  induction steps generalizing p h with
  | nil =>
    obtain ⟨-, rfl⟩ := EStateM.Result.ok.inj done
    exact ⟨[], .of_same rfl rfl, fun _ there => absurd there List.not_mem_nil⟩
  | cons step steps ih =>
    obtain ⟨p₁, h₁, first, rest⟩ := of_bind_ok done
    obtain ⟨es, way, met⟩ := Step.perform_ok first
    obtain ⟨fs, way', mets⟩ := ih rest
    -- What the first step did stays done, and the others find the same links.
    refine ⟨es ++ fs, way.trans way', List.forall_mem_cons.mpr ⟨met.mono ?_, fun step' member => ?_⟩⟩
    · exact List.subset_append_left es fs
    · exact (way.links ▸ mets step' member).mono (List.subset_append_right es fs)

/-- `Setup.run` of `steps ++ more` is that of `steps`, and then of `more`. -/
theorem run_append (steps more : List Step) :
    Setup.run s (steps ++ more) p = Setup.run s steps p >>= Setup.run s more := by
  induction steps generalizing p with
  | nil => exact (pure_bind ..).symm
  | cons step steps ih =>
    simp only [List.cons_append, Setup.run, bind_assoc]
    exact bind_congr fun p => ih

end Steps

end Setup

/-! ### Setups -/

namespace Commission

variable {c : Commission} {links : List NetworkLink} {fd : Fd} {es : List Effect}

/-- Where every step of the preparation is `Step.Met`, the socket is `Configured`. -/
theorem configured_of_met (met : ∀ step ∈ c.preparation, step.Met ⟨c.name, c.role, fd⟩ links es) :
    c.Configured links fd es := by
  obtain ⟨name, role, config, fs⟩ := c
  have done {step : Setup.Step} (member : step ∈ preparation ⟨name, role, config, fs⟩) := met step member
  -- For each part of `Configured`, the step that it is from is among the preparation.
  refine ⟨?_, ?_, ?_, ?_, ?_, ?_, ?_⟩
  · have member : .nonblocking ∈ preparation ⟨name, role, config, fs⟩ := by
      cases role <;> simp [preparation]
    exact done member _ (List.mem_singleton_self _)
  · intro wanted
    have member : .fdLink ∈ preparation ⟨name, role, config, fs⟩ := by
      cases role <;> simp [preparation, Config.fdSteps, show config.fd = true from wanted]
    exact done member
  · intro wanted
    have member : .fdFrames ∈ preparation ⟨name, role, config, fs⟩ := by
      cases role <;> simp [preparation, Config.fdSteps, show config.fd = true from wanted]
    exact done member _ (List.mem_singleton_self _)
  · intro wanted
    have member : .errorMask config.errorMask ∈ preparation ⟨name, role, config, fs⟩ := by
      cases role <;> simp [preparation, Config.errorSteps, show config.errorMask ≠ 0 from wanted]
    exact done member _ (List.mem_singleton_self _)
  · have member : .filters fs ∈ preparation ⟨name, role, config, fs⟩ := by
      cases role <;> simp [preparation]
    exact done member _ (List.mem_singleton_self _)
  · rintro rfl wanted
    have member : .timestamps config.hwTimestamp ∈ preparation ⟨name, .receive, config, fs⟩ := by
      simp [preparation, Config.headerSteps, show config.processHeader = true from wanted]
    exact done member _ (List.mem_singleton_self _)
  · rintro rfl wanted
    have member : .dropCounter ∈ preparation ⟨name, .receive, config, fs⟩ := by
      simp [preparation, Config.headerSteps, show config.processHeader = true from wanted]
    exact done member _ (List.mem_singleton_self _)

/-- The steps that a preparation can have. -/
theorem step_cases {step : Setup.Step} (member : step ∈ c.preparation) :
    step ∈ [.resolve, .nonblocking, .fdLink, .fdFrames, .dropCounter] ∨
      (∃ hardware, step = .timestamps hardware) ∨ (∃ size, step = .buffer size) ∨
      step = .errorMask c.config.errorMask ∨ step = .filters c.filters := by
  unfold preparation Config.fdSteps Config.bufferSteps Config.errorSteps Config.headerSteps at member
  split at member <;>
    simp only [List.mem_append, List.mem_cons, List.not_mem_nil, or_false, List.mem_ite_nil_left,
      List.mem_ite_nil_right] at member ⊢ <;>
    grind

/-- The calls of a step of the preparation are `Prepares`. -/
theorem prepares_of_mem {step : Setup.Step} (member : step ∈ c.preparation) (index : UInt32) :
    ∀ call ∈ step.calls ⟨c.name, c.role, fd⟩ index, ∀ e?, c.Prepares fd (.call (call e?)) := by
  -- Two options decide what is let in.  All others may have any value.
  have other {option : SocketOption} {value : OptionValue}
      (apart : option ≠ .rawFilter ∧ option ≠ .errorFilter) (e? : Option Errno) :
      c.Prepares fd (.call (.setOption fd option value e?)) :=
    .option ⟨fun same => absurd same apart.1, fun same => absurd same apart.2⟩ e?
  obtain plain | ⟨hardware, rfl⟩ | ⟨size, rfl⟩ | rfl | rfl := step_cases member
  · simp only [List.mem_cons, List.not_mem_nil, or_false] at plain
    obtain rfl | rfl | rfl | rfl | rfl := plain
    · exact List.forall_mem_singleton.mpr fun e? => .index _ e?
    · exact List.forall_mem_singleton.mpr fun e? => .nonblocking e?
    · exact List.forall_mem_singleton.mpr fun e? => .mtu _ e?
    · exact List.forall_mem_singleton.mpr fun e? => other (by decide) e?
    · exact List.forall_mem_singleton.mpr fun e? => other (by decide) e?
  · have apart : (Setup.timestampOption hardware).1 ≠ .rawFilter ∧
        (Setup.timestampOption hardware).1 ≠ .errorFilter := by cases hardware <;> decide
    exact List.forall_mem_singleton.mpr fun e? => other apart e?
  · have apart : (c.role.forcedBufferOption ≠ .rawFilter ∧ c.role.forcedBufferOption ≠ .errorFilter) ∧
        c.role.bufferOption ≠ .rawFilter ∧ c.role.bufferOption ≠ .errorFilter := by
      cases c.role <;> decide
    exact List.forall_mem_cons.mpr ⟨fun e? => other apart.1 e?, List.forall_mem_cons.mpr
      ⟨fun e? => other apart.2 e?, List.forall_mem_singleton.mpr fun e? => .size _ e?⟩⟩
  · have mask : c.Allows .errorFilter (.word c.config.errorMask.toNat) := ⟨nofun, fun _ => rfl⟩
    exact List.forall_mem_singleton.mpr fun e? => .option mask e?
  · have filters : c.Allows .rawFilter (.filters c.filters) := ⟨fun _ => rfl, nofun⟩
    exact List.forall_mem_singleton.mpr fun e? => .option filters e?

/-- The effects of a setup from its `socket` call on: the socket is configured and then bound, or it
    is closed. -/
inductive Attempt (c : Commission) (links : List NetworkLink) (fd : Fd) : List Effect → Prop
  | bound {es : List Effect} {index : Int32} (only : ∀ e ∈ es, c.Prepares fd e)
      (ready : c.Configured links fd es) :
    c.Attempt links fd (.call (.socket (.ok fd)) :: (es ++ [.call (.bind fd index none)]))
  | closed {es : List Effect} (only : ∀ e ∈ es, c.Prepares fd e) :
    c.Attempt links fd (.call (.socket (.ok fd)) :: (es ++ [.call (.close fd)]))

end Commission

namespace Setup

open Commission

/-- `Host.bindSocket` that fails has recorded the failure. -/
theorem bindSocket_error {fd : Fd} {index : UInt32} {e : Errno} {h h' : Host}
    (run : bindSocket fd index h = .error e h') : Leads [.call (.bind fd index.toInt32 (some e))] h h' := by
  unfold bindSocket at run
  rw [bind_ok (fault_apply ..)] at run
  cases failure : (h.kernel.faults.take .bind).1.filter (· ≠ 0) with
  | none   =>
    rw [failure] at run
    exact nomatch run
  | some _ =>
    rw [failure] at run
    obtain ⟨rfl, rfl⟩ := EStateM.Result.error.inj run
    exact ⟨Array.toList_push, rfl⟩

/-- `Setup.refuse` adds log records and fails. -/
theorem refuse_adds {α : Type} {Q : Effect → Prop} (lines : ∀ r, Q (.record r)) (name : String)
    (level : Log.Level) (what : String) (code : ErrorCode) (e : Errno) (h : Host) :
    ∃ f h', (refuse name level what code e : HostM Failure α) h = .error f h' ∧ Adds Q h h' :=
  have told : Emits Q (refuse name level what code e : HostM Failure α) := refuse_emits lines
  ⟨_, _, rfl, told h⟩

/-- The steps of the preparation emit `Prepares`. -/
theorem preparation_emits (c : Commission) (fd : Fd) (p : Progress) :
    Emits (c.Prepares fd) (Setup.run ⟨c.name, c.role, fd⟩ c.preparation p) :=
  run_emits .record fun _ member index => prepares_of_mem member index

/-- **The preparation and `bind`**: where they succeed, the socket was `Configured` and then bound;
    otherwise their effects are `Prepares`. -/
theorem run_attempt (c : Commission) (fd : Fd) (p : Progress) (h : Host) :
    match Setup.run ⟨c.name, c.role, fd⟩ (c.preparation ++ [.bind]) p h with
    | .ok _ h'    => ∃ es index, Leads (es ++ [.call (.bind fd index none)]) h h' ∧
      (∀ e ∈ es, c.Prepares fd e) ∧ c.Configured h.kernel.links fd es
    | .error _ h' => Adds (c.Prepares fd) h h' := by
  have prepares := preparation_emits c fd p h
  rw [run_append]
  cases prepared : Setup.run ⟨c.name, c.role, fd⟩ c.preparation p h with
  | error f h₁ =>
    rw [prepared] at prepares
    rw [bind_error prepared]
    exact prepares
  | ok p₁ h₁ =>
    rw [prepared] at prepares
    obtain ⟨es, way, only⟩ := prepares
    obtain ⟨es', way', met⟩ := run_ok prepared
    -- What the steps may do and what they have done is said of the same effects.
    obtain rfl := way.unique way'
    rw [bind_ok prepared]
    have last : Setup.run ⟨c.name, c.role, fd⟩ [.bind] p₁ = (do
        orElse (bindSocket fd p₁.index)
          (refuse c.name .error (c.role.word ++ " socket bind failed") c.role.bindCode)
        return p₁) := bind_pure _
    rw [last]
    cases binding : bindSocket fd p₁.index h₁ with
    | ok _ h₂ =>
      rw [bind_ok (orElse_ok binding)]
      exact ⟨es, _, way.trans (bindSocket_ok binding), only, configured_of_met met⟩
    | error e h₂ =>
      -- A refused bind and the line about it belong to the preparation.
      obtain ⟨f, h₃, refused, told⟩ := refuse_adds (Q := c.Prepares fd) .record c.name .error
        (c.role.word ++ " socket bind failed") c.role.bindCode e h₂
      rw [bind_error ((orElse_error binding).trans refused)]
      have unbound : Adds (c.Prepares fd) h₁ h₂ :=
        ⟨_, bindSocket_error binding, List.forall_mem_singleton.mpr (.refused _ e)⟩
      exact trans_of _ (trans_of _ ⟨es, way, only⟩ unbound) told

/-- `Host.openSocket` records the socket, or a failure that is `Inert`. -/
theorem socket_cases (h : Host) :
    match Host.openSocket h with
    | .ok fd h'   => Leads [.call (.socket (.ok fd))] h h'
    | .error _ h' => Adds Inert h h' := by
  unfold Host.openSocket
  rw [bind_ok (fault_apply ..)]
  cases (h.kernel.faults.take .socket).1.filter (· ≠ 0) with
  | none   => exact ⟨Array.toList_push, rfl⟩
  | some e => exact ⟨[.call (.socket (.error e))], ⟨Array.toList_push, rfl⟩,
      List.forall_mem_singleton.mpr ⟨rfl, rfl⟩⟩

/-- **`Setup.openSocket` that gets a socket is an `Attempt`**: `run_attempt` tells whether it is
    bound, and where it is not it is closed. -/
theorem openSocket_attempt (c : Commission) (index : UInt32) (h : Host) {h' : Host}
    (leaves : left (Setup.openSocket c.name c.role (c.preparation ++ [.bind]) index h) = h') :
    Adds Inert h h' ∨ ∃ fd es, Leads es h h' ∧ c.Attempt h.kernel.links fd es := by
  have opens := socket_cases h
  unfold Setup.openSocket at leaves
  cases opened : Host.openSocket h with
  | error e h₁ =>
    left
    rw [opened] at opens
    obtain ⟨f, h₂, refused, told⟩ := refuse_adds (α := Fd) (Q := Inert) (fun _ => ⟨rfl, rfl⟩) c.name
      .error ("unable to create " ++ c.role.word ++ " socket") c.role.createCode e h₁
    rw [bind_error ((orElse_error opened).trans refused)] at leaves
    have recorded : Adds Inert h h₁ := opens
    subst leaves
    exact trans_of _ recorded told
  | ok fd h₁ =>
    right
    rw [opened] at opens
    rw [bind_ok (orElse_ok opened)] at leaves
    have course := run_attempt c fd ⟨index, 0⟩ h₁
    -- The socket is open: `bound` where all steps succeed, `closed` where one fails.
    cases steps : Setup.run ⟨c.name, c.role, fd⟩ (c.preparation ++ [.bind]) ⟨index, 0⟩ h₁ with
    | ok p h₂ =>
      rw [steps] at course
      obtain ⟨es, index, way, only, ready⟩ := course
      rw [bind_ok (orElse_ok steps)] at leaves
      subst leaves
      exact ⟨fd, _, opens.trans way, .bound only (opens.links ▸ ready)⟩
    | error f h₂ =>
      rw [steps] at course
      obtain ⟨es, way, only⟩ := course
      -- The socket is closed, and the failure goes on.
      let h₃ : Host := ⟨h₂.kernel.closeSocket fd, h₂.journal.push (.call (.close fd))⟩
      have closes : (do closeSocket fd; throw f : HostM Failure Progress) h₂ = .error f h₃ := rfl
      rw [bind_error ((orElse_error steps).trans closes)] at leaves
      subst leaves
      have closed : Leads [.call (.close fd)] h₂ h₃ := ⟨Array.toList_push, rfl⟩
      exact ⟨fd, _, opens.trans (way.trans closed), .closed only⟩

end Setup

end CanDriver
