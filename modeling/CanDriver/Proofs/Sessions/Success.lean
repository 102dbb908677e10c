import CanDriver.Proofs.Sessions.Containment

namespace CanDriver

/-!
# Initialisations that nothing refuses

* `Kernel.Grants` — the kernel has nothing against a transmit socket: no failure is scripted, and there
  is a link that carries the frames;
* `Thrives` — a computation answers, and leaves the kernel like that, with one rule for each way to put
  computations together;
* `Setup.openTx_thrives`, `Interface.release_thrives` — the setup of the transmit socket, and the end
  of a session whose worker does not wait;
* `Interface.Stages.succeeds`, `Interface.init_succeeds` — a start that nothing refuses ends with a
  session, and so does an initialisation.
-/

open Host

/-- Nothing stands against a transmit socket on the link `name` with the settings `c`. -/
structure Kernel.Grants (name : String) (c : Config) (k : Kernel) : Prop where
  /-- No failure is scripted. -/
  calm  : ∀ p, k.faults.queue p = []
  /-- The name has no zero character, so that it can be handed to the kernel. -/
  named : name.toList.contains '\x00' = false
  link  : ∃ link, k.link? name = some link ∧ (c.fd = true → link.mtu = fdSize)

namespace Kernel.Grants

variable {ε : Type} {name : String} {c : Config} {k k' : Kernel} {h : Host}

/-- `Grants` depends on the links and the script alone. -/
theorem congr (grants : k.Grants name c) (links : k'.links = k.links) (faults : k'.faults = k.faults) :
    k'.Grants name c where
  calm  := fun p => by rw [faults]; exact grants.calm p
  named := grants.named
  link  := by rw [link?, links]; exact grants.link

theorem take (grants : k.Grants name c) (p : Point) : k.faults.take p = (none, k.faults) := by
  rw [Faults.take, grants.calm p]

/-- `Kernel.nextFault` is `none` at every point. -/
theorem nextFault (grants : k.Grants name c) (p : Point) : k.nextFault p = none := by
  rw [Kernel.nextFault, grants.take]
  rfl

theorem past (grants : h.kernel.Grants name c) (p : Point) : (h.past p).kernel.Grants name c :=
  grants.congr rfl (congrArg Prod.snd (grants.take p))

theorem fault (grants : h.kernel.Grants name c) (p : Point) :
    (Host.fault p : HostM ε (Option Errno)) h = .ok none (h.past p) := by
  rw [← grants.nextFault p]
  exact fault_apply h p

end Kernel.Grants

/-- `m` answers from every host with `Grants`, and leaves one with `Grants`. -/
def Thrives {ε α : Type} (name : String) (c : Config) (m : HostM ε α) : Prop :=
  ∀ h, h.kernel.Grants name c → ∃ a h', m h = .ok a h' ∧ h'.kernel.Grants name c

namespace Thrives

variable {ε ε' α β : Type} {name : String} {c : Config} {m : HostM ε α} {f : α → HostM ε β}

theorem pure {a : α} : Thrives name c (Pure.pure a : HostM ε α) := fun h grants => ⟨a, h, rfl, grants⟩

theorem bind (first : Thrives name c m) (more : ∀ a, Thrives name c (f a)) :
    Thrives name c (m >>= f) := by
  intro h grants
  obtain ⟨a, h₁, run, grants₁⟩ := first h grants
  obtain ⟨b, h', rest, grants'⟩ := more a h₁ grants₁
  exact ⟨b, h', (bind_ok run).trans rest, grants'⟩

/-- `Thrives` for `Host.orElse m handle` from `m` alone, since `m` does not fail. -/
theorem orElse {handle : ε → HostM ε' α} (call : Thrives name c m) :
    Thrives name c (Host.orElse m handle) := fun h grants =>
  let ⟨a, h', run, grants'⟩ := call h grants
  ⟨a, h', orElse_ok run, grants'⟩

theorem attempt (call : Thrives name c m) :
    Thrives name c (Host.attempt m : HostM ε' (Except ε α)) := fun h grants =>
  let ⟨a, h', run, grants'⟩ := call h grants
  ⟨.ok a, h', attempt_ok run, grants'⟩

theorem add {e : Effect} : Thrives name c (Host.add e : HostM ε Unit) := fun _ grants =>
  ⟨(), _, rfl, grants⟩

theorem log {level : Log.Level} {target : Log.Target} {text : String} :
    Thrives name c (Host.log level target text : HostM ε Unit) := add

theorem ask {question : Kernel → α} : Thrives name c (Host.ask question : HostM ε α) := fun h grants =>
  ⟨_, h, rfl, grants⟩

theorem modifyKernel {change : Kernel → Kernel} (links : ∀ k, (change k).links = k.links)
    (faults : ∀ k, (change k).faults = k.faults) :
    Thrives name c (Host.modifyKernel change : HostM ε Unit) := fun _ grants =>
  ⟨(), _, rfl, grants.congr (links _) (faults _)⟩

/-- `Thrives` for a computation that asks `Host.fault`, from what it does with `none`. -/
theorem fault {p : Point} {rest : Option Errno → HostM ε α} (more : Thrives name c (rest none)) :
    Thrives name c (Host.fault p >>= rest) := by
  intro h grants
  obtain ⟨a, h', run, grants'⟩ := more (h.past p) (grants.past p)
  exact ⟨a, h', (bind_ok (grants.fault p)).trans run, grants'⟩

/-- `Thrives` for a call that is recorded, from what follows one that did not fail. -/
theorem call {p : Point} {call : Option Errno → KernelCall} {rest : Option Errno → HostM ε α}
    (more : Thrives name c (rest none)) :
    Thrives name c (do let e? ← Host.fault p; record (call e?); rest e?) :=
  fault (add.bind fun _ => more)

/-- `Thrives` for a computation that asks for the link `name`, from what it does where
    there is one. -/
theorem askLink {f : Option NetworkLink → HostM ε α}
    (more : ∀ link, Thrives name c (f (some link))) :
    Thrives name c (Host.ask (·.link? name) >>= f) := by
  intro h grants
  obtain ⟨link, found, -⟩ := grants.link
  have asked : (Host.ask (·.link? name) : HostM ε _) h = .ok (some link) h :=
    congrArg (EStateM.Result.ok · h) found
  obtain ⟨a, h', run, grants'⟩ := more link h grants
  exact ⟨a, h', (bind_ok asked).trans run, grants'⟩

theorem closeSocket {fd : Fd} : Thrives name c (Host.closeSocket fd : HostM ε Unit) :=
  bind (modifyKernel (fun _ => by rfl) fun _ => by rfl) fun _ => add

theorem closeAll (fds : List Fd) : Thrives name c (fds.forM Host.closeSocket : HostM ε Unit) := by
  induction fds with
  | nil            => exact .pure
  | cons fd fds ih => exact closeSocket.bind fun _ => ih

end Thrives

/-! ### The transmit socket -/

/-- `Kernel.bindSocket` leaves the script. -/
theorem Kernel.faults_bindSocket {fd : Fd} {k : Kernel} : (k.bindSocket fd).faults = k.faults := by
  unfold bindSocket
  split <;> rfl

namespace Setup

variable {name : String} {c : Config} {s : Subject} {p : Progress} {fd : Fd}

theorem setNonblocking_thrives : Thrives name c (setNonblocking fd) := .call .pure

theorem setOption_thrives {option : SocketOption} {value : OptionValue} :
    Thrives name c (setOption fd option value) :=
  .call (.bind .pure fun _ => .modifyKernel (fun _ => by rfl) fun _ => by rfl)

theorem getBuffer_thrives {role : SocketRole} : Thrives name c (getBuffer fd role) :=
  .call (.bind .pure fun _ => .ask)

theorem bindSocket_thrives {index : UInt32} : Thrives name c (bindSocket fd index) :=
  .call (.bind .pure fun _ =>
    .modifyKernel (fun _ => Kernel.links_bindSocket) fun _ => Kernel.faults_bindSocket)

/-- `Host.interfaceIndex` finds the link `name`. -/
theorem interfaceIndex_thrives : Thrives name c (interfaceIndex name) := by
  intro h grants
  rw [interfaceIndex, grants.named, if_neg Bool.false_ne_true]
  refine Thrives.call ?_ h grants
  exact .bind .pure fun _ => .askLink fun link => .pure

/-- `Host.linkMtu` answers `fdSize`, where the settings ask for FD frames. -/
theorem linkMtu_ok_of_grants (fd : Fd) (frames : c.fd = true) {h : Host}
    (grants : h.kernel.Grants name c) :
    ∃ h', linkMtu fd name h = .ok fdSize h' ∧ h'.kernel.Grants name c := by
  obtain ⟨link, found, mtu⟩ := grants.link
  let called : Host :=
    { h.past .linkMtu with journal := h.journal.push (.call (.linkMtu fd name none)) }
  have asked : (Host.ask (·.link? name) : HostM Errno _) called = .ok (some link) called :=
    congrArg (EStateM.Result.ok · called) found
  have recorded : (record (.linkMtu fd name none) : HostM Errno Unit) (h.past .linkMtu) =
      .ok () called := rfl
  have passed : failWith none called = .ok () called := rfl
  refine ⟨called, ?_, grants.past .linkMtu⟩
  rw [← mtu frames, linkMtu, bind_ok (grants.fault _), bind_ok recorded, bind_ok passed,
    bind_ok asked]
  rfl

theorem negotiate_thrives {size : Nat} : Thrives name c (negotiate s size) := by
  -- What is granted is asked for and logged in the same way, whether the size could be forced or
  -- not.
  have answer (forced : Bool) : Thrives name c (do
      let granted ← orElse (getBuffer s.fd s.role) fun e =>
        refuse s.name .error s.role.getBufferCode.message s.role.getBufferCode e
      let subject := s.name ++ ": " ++ s.role.bufferWord
      let size := Numeral.text granted
      if forced then log .debug .setup (subject ++ " buffer size " ++ size)
      else log .warn .setup (subject ++ " buffer force request refused, best-effort size " ++ size)
      return granted) := by
    refine getBuffer_thrives.orElse.bind fun granted => ?_
    cases forced <;> exact Thrives.log.bind fun _ => .pure
  refine setOption_thrives.attempt.bind fun forced => ?_
  dsimp only
  split
  · exact setOption_thrives.orElse.bind fun _ => answer _
  · exact answer _

theorem requireFdLink_thrives (own : s.name = name) (frames : c.fd = true) :
    Thrives name c (requireFdLink s) := by
  intro h grants
  obtain ⟨h', run, grants'⟩ := linkMtu_ok_of_grants s.fd frames (own ▸ grants)
  refine ⟨(), h', ?_, own ▸ grants'⟩
  unfold requireFdLink
  rw [bind_ok (orElse_ok run)]
  rfl

/-- **No step fails**: `Step.perform` is `Thrives`, where `.fdLink` is only a step of settings with
    FD frames. -/
theorem Step.thrives (own : s.name = name) (step : Step) (asked : step = .fdLink → c.fd = true) :
    Thrives name c (step.perform s p) := by
  subst own
  cases step with
  | resolve             => exact interfaceIndex_thrives.orElse.bind fun _ => .pure
  | nonblocking         => exact setNonblocking_thrives.orElse.bind fun _ => .pure
  | fdLink              => exact (requireFdLink_thrives rfl (asked rfl)).bind fun _ => .pure
  | timestamps hardware => exact setOption_thrives.orElse.bind fun _ => .pure
  | buffer size         => exact negotiate_thrives.bind fun _ => .pure
  | bind                => exact bindSocket_thrives.orElse.bind fun _ => .pure
  | _                   => exact setOption_thrives.orElse.bind fun _ => .pure

theorem run_thrives (own : s.name = name) {steps : List Step}
    (asked : .fdLink ∈ steps → c.fd = true) : Thrives name c (run s steps p) := by
  induction steps generalizing p with
  | nil => exact .pure
  | cons step steps ih =>
    refine (step.thrives own fun is => asked (is ▸ .head _)).bind fun _ => ?_
    exact ih fun member => asked (.tail _ member)

/-- **`Setup.openTx` is `Thrives`**: its socket is opened, and by `Step.thrives` none of its
    steps fails. -/
theorem openTx_thrives (name : String) (c : Config) : Thrives name c (openTx name c) := by
  have opens : Thrives name c Host.openSocket := by
    refine .fault (.bind .ask fun _ => .bind ?_ fun _ => .bind .add fun _ => .pure)
    exact .modifyKernel (fun _ => by rfl) fun _ => by rfl
  -- Only settings for FD frames ask for a link that carries them.
  have asked : .fdLink ∈ c.txSteps → c.fd = true := by
    simp only [Config.txSteps, Config.fdSteps, Config.bufferSteps, Config.errorSteps]
    split
    · exact fun _ => ‹_›
    · split <;> split <;> simp
  refine .bind ?_ fun _ => .bind .log fun _ => .pure
  refine opens.orElse.bind fun fd => .bind ?_ fun _ => .pure
  exact (run_thrives (s := ⟨name, .transmit, fd⟩) rfl asked).orElse

end Setup

/-! ### Starts -/

namespace Interface

variable {i i' : Interface} {c : Config} {h h' : Host} {made : List LinkRequest}
  {result : Except Failure Unit}

/-- **`Interface.Stages` end with `.ok ()`**, where neither kernel nor link refuses anything. -/
theorem Stages.succeeds (stages : i.Stages c h made i' result h')
    (grants : h.kernel.Grants i.name c) (granted : ∀ r ∈ c.requests, i.link.verdict r = none) :
    result = .ok () := by
  -- Where all requests are granted, the socket is set up on the same kernel.
  have passed {h₁ : Host} (asked : i.link.Asked i.name c.requests h made (.ok () h₁)) :
      ∃ r h₂, Setup.openTx i.name c h₁ = .ok r h₂ ∧ h₂.kernel.Grants i.name c := by
    have same : h₁.kernel = h.kernel := asked.heard.kernel
    exact Setup.openTx_thrives i.name c h₁ (same ▸ grants)
  have opened {r : Setup.Ready} {h₂ : Host} (opens : i.Opens c h made r h₂) :
      h₂.kernel.Grants i.name c := by
    obtain ⟨h₁, asked, socket⟩ := opens
    obtain ⟨r', h₂', run, grants'⟩ := passed asked
    obtain ⟨-, rfl⟩ := EStateM.Result.ok.inj (run.symm.trans socket)
    exact grants'
  cases stages with
  | link refused =>
    cases refused with
    | @refused before r later code h' order _ refuses heard =>
      have member : r ∈ c.requests := order ▸ List.mem_append_right _ (.head _)
      exact nomatch (granted r member).symm.trans refuses
  | socket asked fails =>
    obtain ⟨r, h₂, run, -⟩ := passed asked
    exact nomatch run.symm.trans fails
  | pipe opens works fails         => exact nomatch ((opened opens).nextFault _).symm.trans fails
  | thread opens works piped fails =>
    exact nomatch (((opened opens).past _).nextFault _).symm.trans fails
  | polled opens polls             => rfl
  | worked opens works piped spawned => rfl

end Interface

/-! ### The end of a session -/

namespace Session

variable {ε : Type} {name : String} {c : Config} {s : Session}

theorem sayWorker_thrives {level : Log.Level} {text : String} :
    Thrives name c (s.sayWorker level text : HostM ε Unit) := .log

theorem stopWorker_thrives (rests : s.Rests) :
    Thrives name c (s.stopWorker : HostM ε (Session × Bool)) := by
  unfold stopWorker
  rw [wake_of_rests rests, pure_bind]
  -- There is no worker, or the policy decides whether its end is waited for.
  split
  · exact .pure
  · dsimp only
    split
    · refine sayWorker_thrives.bind fun _ => ?_
      split
      · exact .pure
      · exact .fault (sayWorker_thrives.bind fun _ => .pure)
    · split
      · refine sayWorker_thrives.bind fun _ => ?_
        split
        · exact sayWorker_thrives.bind fun _ => .pure
        · exact .pure
      · split
        · exact sayWorker_thrives.bind fun _ => .pure
        · exact .pure

theorem clear_thrives : Thrives name c (s.clear : HostM ε Session) := by
  intro h grants
  unfold clear
  cases locked : s.poisoned with
  | true =>
    rw [bind_ok (attempt_error (lock_of_poisoned locked h))]
    exact (Thrives.log.bind fun _ => .pure) _ grants
  | false =>
    rw [bind_ok (attempt_ok (lock_of_sound locked h))]
    exact ((Thrives.closeAll _).bind fun _ => .pure) h grants

/-- `Session.release` is `Thrives`, where the worker rests. -/
theorem release_thrives (rests : s.Rests) : Thrives name c (s.release : HostM ε Unit) := by
  refine (stopWorker_thrives rests).bind ?_
  rintro ⟨s₁, goesOn⟩
  refine clear_thrives.bind fun s₂ => ?_
  cases goesOn with
  | true  => exact .modifyKernel (fun _ => by rfl) fun _ => by rfl
  | false => exact .closeAll _

end Session

/-! ### Initialisations -/

namespace Interface

variable {i : Interface} {c : Config} {h : Host}

/-- **`Interface.init` ends with `.ok ()`**, where neither kernel nor link refuses anything and the
    worker of the old session rests. -/
theorem init_succeeds (rests : ∀ s, i.session? = some s → s.Rests)
    (grants : h.kernel.Grants i.name c) (granted : ∀ r ∈ c.requests, i.link.verdict r = none) :
    ∃ i' h', (i.init c : HostM Empty (Interface × Except Failure Unit)) h = .ok (i', .ok ()) h' := by
  have ends : Thrives i.name c (i.release : HostM Empty (Interface × Bool)) := by
    unfold release
    cases there : i.session? with
    | none   => exact .pure
    | some s => exact (Session.release_thrives (rests s there)).bind fun _ => .pure
  obtain ⟨r, h₁, run, grants₁⟩ := ends h grants
  obtain rfl := release_answer run
  unfold init
  rw [bind_ok run]
  -- Where there was a session, the log tells that it has ended.
  have starts (h₂ : Host) (grants₂ : h₂.kernel.Grants i.name c) : ∃ i' h',
      (({ i with session? := none } : Interface).start c :
        HostM Empty (Interface × Except Failure Unit)) h₂ = .ok (i', .ok ()) h' := by
    obtain ⟨made, i', result, h', run, stages⟩ :=
      ({ i with session? := none } : Interface).start_stages c h₂
    obtain rfl := stages.succeeds grants₂ granted
    exact ⟨i', h', run⟩
  cases i.session?.isSome with
  | false => exact starts h₁ grants₁
  | true  => exact starts (h₁.logged .warn .interface _) grants₁

end Interface

end CanDriver
