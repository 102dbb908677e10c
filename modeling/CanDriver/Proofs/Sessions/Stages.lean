import CanDriver.Proofs.Sessions.Emissions
import CanDriver.Proofs.Sockets.Lifecycle

namespace CanDriver

/-!
# The stages of a start

A start asks the link, sets up the transmit socket, and takes what a worker needs: a pipe to wake it
with, and a thread.

* `Link.Asked` — all requests are granted, or one is refused and those behind it are not made;
* `Interface.Stages` — how far a start gets: the stage that fails is the last one;
* `Interface.start_stages` — every start is one of these;
* `Interface.Stages.requests`, `Stages.of_refusal` — the link is asked first and for nothing else, and
  the kernel is called only if it refuses nothing.
-/

open Host

/-- The host with one more log record. -/
def Host.logged (level : Log.Level) (target : Log.Target) (text : String) (h : Host) : Host :=
  { h with journal := h.journal.push (.record ⟨level, target, text⟩) }

theorem Host.log_apply {ε : Type} (level : Log.Level) (target : Log.Target) (text : String) (h : Host) :
    (log level target text : HostM ε Unit) h = .ok () (h.logged level target text) := rfl

/-! ### The link -/

/-- The requests that `Interface.start` puts to the link: those of the settings, and `.start`. -/
def Config.requests (c : Config) : List LinkRequest := c.linkRequests ++ [.start]

/-- `Config.requests` is `[.start]` for settings that need no link. -/
theorem Config.requests_of_unneeded {c : Config} (unneeded : c.needsLink = false) :
    c.requests = [.start] := by
  simp only [needsLink, Bool.or_eq_false_iff, Option.isSome_eq_false_iff,
    Option.isNone_iff_eq_none] at unneeded
  obtain ⟨⟨⟨bitrate, dataBitrate⟩, restartMs⟩, ctrlMode⟩ := unneeded
  rw [requests, linkRequests, bitrate, dataBitrate, restartMs, ctrlMode]
  rfl

namespace Link

variable {link : Link} {name : String}

/-- The code that the link refuses a request with; `none` where it grants it. -/
def verdict : Link → LinkRequest → Option ErrorCode
  | .recorder refusals, r     => refusals.of r
  | .external, .bitrate _     => some .linkBitrate
  | .external, .dataBitrate _ => some .linkDataBitrate
  | .external, .restartMs _   => some .linkSetRestartMs
  | .external, .ctrlMode _    => some .linkSetCtrlMode
  | .external, .start         => none
  | .external, .stop          => none

/-- The requests `made` as the journal has them: an `.external` link is not recorded. -/
def recorded (link : Link) (name : String) (made : List LinkRequest) : List (LinkRequest × String) :=
  match link with
  | .recorder _ => made.map (·, name)
  | .external   => []

theorem recorded_append (made more : List LinkRequest) :
    link.recorded name (made ++ more) = link.recorded name made ++ link.recorded name more := by
  cases link with
  | recorder _ => exact List.map_append
  | external   => rfl

/-- Between `h` and `h'` the requests `made` were put to the link, and no call of the kernel
    was made. -/
structure Heard (link : Link) (name : String) (made : List LinkRequest) (h h' : Host) : Prop where
  kernel   : h'.kernel = h.kernel
  calls    : h'.journal.calls = h.journal.calls
  requests : h'.journal.requests = h.journal.requests ++ link.recorded name made

theorem Heard.trans {made more : List LinkRequest} {h h₁ h' : Host} (first : link.Heard name made h h₁)
    (then_ : link.Heard name more h₁ h') : link.Heard name (made ++ more) h h' where
  kernel   := then_.kernel.trans first.kernel
  calls    := then_.calls.trans first.calls
  requests := by rw [then_.requests, first.requests, recorded_append, List.append_assoc]

/-- `Heard` without a request, for a log record. -/
theorem Heard.logged (h : Host) (line : Log.Record) :
    link.Heard name [] h ⟨h.kernel, h.journal.push (.record line)⟩ where
  kernel   := rfl
  calls    := Journal.calls_push_silent rfl _
  requests := by
    have none_ : link.recorded name [] = [] := by cases link <;> rfl
    rw [none_, List.append_nil]
    exact Journal.requests_push_silent rfl _

/-- `Link.ask` ends as `Link.verdict` tells, and is `Heard`. -/
theorem ask_cases (link : Link) (name : String) (r : LinkRequest) (h : Host) :
    ∃ h', link.Heard name [r] h h' ∧
      link.ask name r h = match link.verdict r with
        | some code => .error (.ofCode code) h'
        | none      => .ok () h' := by
  cases link with
  | recorder refusals =>
    refine ⟨⟨h.kernel, h.journal.push (.callback (.link r name))⟩,
      ⟨rfl, Journal.calls_push_silent rfl _, by simp [Journal.requests, recorded, Effect.request?]⟩, ?_⟩
    unfold ask verdict
    dsimp only
    rw [bind_ok (add_apply ..)]
    cases refusals.of r <;> rfl
  | external =>
    -- There is no record of what is asked here, only a line in the log.
    have unheard (line : Log.Record) : Link.external.Heard name [r] h
        ⟨h.kernel, h.journal.push (.record line)⟩ := by
      have logged : Link.external.Heard name [] h _ := .logged h line
      exact ⟨logged.kernel, logged.calls, logged.requests⟩
    cases r with
    | stop => exact ⟨h, ⟨rfl, rfl, (List.append_nil _).symm⟩, rfl⟩
    | _    => exact ⟨_, unheard _, rfl⟩

/-- How `Link.askAll` of `rs` ends, and the requests that it has made: all are granted, or one is
    refused and those behind it are not made. -/
inductive Asked (link : Link) (name : String) (rs : List LinkRequest) (h : Host) :
    List LinkRequest → EStateM.Result Failure Host Unit → Prop
  | granted {h'} (all : ∀ r ∈ rs, link.verdict r = none) (heard : link.Heard name rs h h') :
    Asked link name rs h rs (.ok () h')
  | refused {before r later code h'} (order : rs = before ++ r :: later)
      (granted : ∀ q ∈ before, link.verdict q = none) (refuses : link.verdict r = some code)
      (heard : link.Heard name (before ++ [r]) h h') :
    Asked link name rs h (before ++ [r]) (.error (.ofCode code) h')

/-- `Asked` is `Heard` for the requests that were made, however it ends. -/
theorem Asked.heard {rs made : List LinkRequest} {h : Host}
    {result : EStateM.Result Failure Host Unit} (asked : link.Asked name rs h made result) :
    link.Heard name made h (left result) := by
  cases asked with
  | granted all heard                   => exact heard
  | refused order granted refuses heard => exact heard

/-- `Asked` from `h₁` is `Asked` from `h`, where no request is made between `h` and `h₁`. -/
theorem Asked.of_heard {rs made : List LinkRequest} {h h₁ : Host}
    {result : EStateM.Result Failure Host Unit} (first : link.Heard name [] h h₁)
    (asked : link.Asked name rs h₁ made result) : link.Asked name rs h made result := by
  cases asked with
  | granted all heard                   => exact .granted all (first.trans heard)
  | refused order granted refuses heard => exact .refused order granted refuses (first.trans heard)

theorem askAll_asked (link : Link) (name : String) (rs : List LinkRequest) (h : Host) :
    ∃ made, link.Asked name rs h made (link.askAll name rs h) := by
  induction rs generalizing h with
  | nil =>
    have nothing : link.Heard name [] h h := ⟨rfl, rfl, by cases link <;> exact (List.append_nil _).symm⟩
    exact ⟨[], .granted (fun _ there => absurd there List.not_mem_nil) nothing⟩
  | cons r rs ih =>
    obtain ⟨h₁, heard, answer⟩ := link.ask_cases name r h
    -- The first request is granted or not; where it is, the others end as the induction says.
    cases verdict : link.verdict r with
    | some code =>
      rw [verdict] at answer
      rw [askAll, bind_error answer]
      refine ⟨[] ++ [r], .refused rfl ?_ verdict heard⟩
      exact fun _ there => absurd there List.not_mem_nil
    | none =>
      rw [verdict] at answer
      rw [askAll, bind_ok answer]
      obtain ⟨made, asked⟩ := ih h₁
      generalize link.askAll name rs h₁ = result at asked
      cases asked with
      | granted all more => exact ⟨_, .granted (List.forall_mem_cons.mpr ⟨verdict, all⟩) (heard.trans more)⟩
      | @refused before q later code h' order granted refuses more =>
        have order' : r :: rs = (r :: before) ++ q :: later := congrArg (r :: ·) order
        exact ⟨_, .refused order' (List.forall_mem_cons.mpr ⟨verdict, granted⟩) refuses
          (heard.trans more)⟩

theorem askAll_singleton (r : LinkRequest) : link.askAll name [r] = link.ask name r := bind_pure_unit

/-- `Link.askAll` of `rs ++ [r]` is that of `rs`, and then `Link.ask` of `r`. -/
theorem askAll_concat (rs : List LinkRequest) (r : LinkRequest) :
    link.askAll name (rs ++ [r]) = link.askAll name rs >>= fun _ => link.ask name r := by
  induction rs with
  | nil => exact askAll_singleton r
  | cons q rs ih =>
    rw [List.cons_append, askAll, ih, askAll, bind_assoc]

end Link

/-! ### The stages of a start -/

/-- The host behind a call at the point `p`, which takes the first of what is scripted for `p`. -/
def Host.past (p : Point) (h : Host) : Host :=
  { h with kernel := { h.kernel with faults := (h.kernel.faults.take p).2 } }

/-- The host behind `Interface.giveUp`: the failure is logged, and the transmit socket closed. -/
def Host.gaveUp (tx : Fd) (target : Log.Target) (text : String) (e : Errno) (h : Host) : Host where
  kernel  := h.kernel.closeSocket tx
  journal := (h.journal.push (.record ⟨.error, target, text ++ ": " ++ e.message⟩)).push
    (.call (.close tx))

namespace Interface

/-- The link grants all requests, and the transmit socket `r` is set up. -/
structure Opens (i : Interface) (c : Config) (h : Host) (made : List LinkRequest) (r : Setup.Ready)
    (h₂ : Host) : Prop where
  course : ∃ h₁, i.link.Asked i.name c.requests h made (.ok () h₁) ∧
    Setup.openTx i.name c h₁ = .ok r h₂

/-- The interface with the settings `c` and their interval. -/
def adopting (c : Config) (i : Interface) : Interface :=
  ({ i with config := c } : Interface).withInterval c.pollTimeout

/-- How `Interface.start c` ends from `h`: the requests to the link, the interface, the result and
    the host. One constructor for each stage that can fail, and two for a start that succeeds. -/
inductive Stages (i : Interface) (c : Config) (h : Host) :
    List LinkRequest → Interface → Except Failure Unit → Host → Prop
  /-- The link refuses a request. -/
  | link {made f h'} (refused : i.link.Asked i.name c.requests h made (.error f h')) :
    Stages i c h made { i with config := c } (.error f) h'
  /-- The transmit socket can not be set up. -/
  | socket {made h₁ f h'} (granted : i.link.Asked i.name c.requests h made (.ok () h₁))
      (fails : Setup.openTx i.name c h₁ = .error f h') :
    Stages i c h made { i with config := c } (.error f) h'
  /-- There is no wake-up pipe for the worker. -/
  | pipe {made r h₂ e} (opens : i.Opens c h made r h₂) (works : c.polled = false)
      (fails : h₂.kernel.nextFault .wakePipe = some e) :
    Stages i c h made { i with config := c } (.error (.os .threadAlloc e))
      ((h₂.past .wakePipe).gaveUp r.fd .interface (i.name ++ ": unable to allocate thread resources") e)
  /-- There is no thread for the worker. -/
  | thread {made r h₂ e} (opens : i.Opens c h made r h₂) (works : c.polled = false)
      (piped : h₂.kernel.nextFault .wakePipe = none)
      (fails : (h₂.past .wakePipe).kernel.nextFault .thread = some e) :
    Stages i c h made (i.adopting c) (.error (.os .threadCreate e))
      (((h₂.past .wakePipe).past .thread).gaveUp r.fd .worker (i.name ++ ": unable to create thread") e)
  /-- The caller polls, without a worker. -/
  | polled {made r h₂} (opens : i.Opens c h made r h₂) (polls : c.polled = true) :
    Stages i c h made { i.adopting c with session? := some (i.firstSession c r) } (.ok ())
      (h₂.logged .info .interface ("CAN interface " ++ i.name ++ " ready"))
  /-- A worker polls. -/
  | worked {made r h₂} (opens : i.Opens c h made r h₂) (works : c.polled = false)
      (piped : h₂.kernel.nextFault .wakePipe = none)
      (spawned : (h₂.past .wakePipe).kernel.nextFault .thread = none) :
    Stages i c h made { i.adopting c with session? := some (i.firstSession c r) } (.ok ())
      ((((h₂.past .wakePipe).past .thread).logged .debug .worker (i.name ++ ": " ++ "worker started")).logged
        .info .interface ("CAN interface " ++ i.name ++ " ready"))

section Start

variable {i : Interface} {c : Config}

/-- `Opens` from `h₁` is `Opens` from `h`, where no request is made between `h` and `h₁`. -/
theorem Opens.of_heard {h h₁ h₂ : Host} {made : List LinkRequest} {r : Setup.Ready}
    (first : i.link.Heard i.name [] h h₁) (opens : i.Opens c h₁ made r h₂) :
    i.Opens c h made r h₂ := by
  obtain ⟨h', asked, socket⟩ := opens
  exact ⟨h', asked.of_heard first, socket⟩

/-- `Stages` from `h₁` is `Stages` from `h`, where no request is made between `h` and `h₁`. -/
theorem Stages.of_heard {h h₁ h' : Host} {made : List LinkRequest} {i' : Interface}
    {result : Except Failure Unit} (first : i.link.Heard i.name [] h h₁)
    (stages : i.Stages c h₁ made i' result h') : i.Stages c h made i' result h' := by
  cases stages with
  | link refused                     => exact .link (refused.of_heard first)
  | socket granted fails             => exact .socket (granted.of_heard first) fails
  | pipe opens works fails           => exact .pipe (opens.of_heard first) works fails
  | thread opens works piped fails   => exact .thread (opens.of_heard first) works piped fails
  | polled opens polls               => exact .polled (opens.of_heard first) polls
  | worked opens works piped spawned => exact .worked (opens.of_heard first) works piped spawned

/-- `Interface.startLink` is `Asked` for `Config.requests`. -/
theorem startLink_asked (h : Host) :
    ∃ made, i.link.Asked i.name c.requests h made (i.startLink c h) := by
  unfold startLink
  split
  · -- The request to start is the last of those that are made in order.
    obtain ⟨made, asked⟩ := i.link.askAll_asked i.name c.requests
      (h.logged .debug .interface (i.name ++ ": applying link settings"))
    rw [Config.requests, Link.askAll_concat] at asked
    exact ⟨made, asked.of_heard (.logged h _)⟩
  · next unneeded =>
    rw [Config.requests_of_unneeded (by simpa using unneeded)]
    rw [← Link.askAll_singleton]
    exact i.link.askAll_asked i.name [.start] h

/-- A call at the point `p` and its `Interface.giveUp`, from what is scripted for `p`. -/
theorem orElse_giveUp_apply (p : Point) (tx : Fd) (target : Log.Target) (text : String)
    (code : ErrorCode) (h : Host) :
    orElse (do failWith (← fault p)) (giveUp tx target text code) h =
      match h.kernel.nextFault p with
      | some e => .error (.os code e) ((h.past p).gaveUp tx target text e)
      | none   => .ok () (h.past p) := by
  have taken : (do failWith (← fault p) : HostM Errno Unit) h = match h.kernel.nextFault p with
      | some e => .error e (h.past p)
      | none   => .ok () (h.past p) := by
    rw [bind_ok (fault_apply ..), Kernel.nextFault]
    cases (h.kernel.faults.take p).1.filter (· ≠ 0) <;> rfl
  cases fails : h.kernel.nextFault p with
  | some e =>
    rw [fails] at taken
    exact orElse_error taken
  | none =>
    rw [fails] at taken
    exact orElse_ok taken

/-- `Interface.allocateWorker` for a worker, from what is scripted for `.wakePipe`. -/
theorem allocateWorker_apply (works : c.polled = false) (tx : Fd) (h : Host) :
    i.allocateWorker c tx h = match h.kernel.nextFault .wakePipe with
      | some e => .error (.os .threadAlloc e) ((h.past .wakePipe).gaveUp tx .interface
          (i.name ++ ": unable to allocate thread resources") e)
      | none   => .ok () (h.past .wakePipe) := by
  rw [allocateWorker, works]
  exact orElse_giveUp_apply ..

/-- `Interface.startWorker` for a worker, from what is scripted for `.thread`. -/
theorem startWorker_apply (works : c.polled = false) (r : Setup.Ready) (h : Host) :
    i.startWorker c (i.newSession c r) h = match h.kernel.nextFault .thread with
      | some e => .error (.os .threadCreate e) ((h.past .thread).gaveUp r.fd .worker
          (i.name ++ ": unable to create thread") e)
      | none   => .ok (i.firstSession c r)
          ((h.past .thread).logged .debug .worker (i.name ++ ": " ++ "worker started")) := by
  have threaded := orElse_giveUp_apply .thread r.fd .worker (i.name ++ ": unable to create thread")
    .threadCreate h
  rw [startWorker, firstSession, works]
  cases fails : h.kernel.nextFault .thread with
  | some e =>
    rw [fails] at threaded
    exact bind_error threaded
  | none =>
    rw [fails] at threaded
    exact (bind_ok threaded).trans rfl

/-- The stages of `Interface.start` before there is a session. -/
def openSession (i : Interface) (c : Config) : HostM Failure Setup.Ready := do
  i.startLink c
  let r ← Setup.openTx i.name c
  i.allocateWorker c r.fd
  return r

/-- `Interface.openSession` fails in one of the first three `Stages`, or `Opens`, with a pipe where
    a worker is wanted. -/
theorem openSession_cases (i : Interface) (c : Config) (h : Host) :
    (∃ made f h', i.openSession c h = .error f h' ∧
      i.Stages c h made { i with config := c } (.error f) h') ∨
    ∃ made r h₂ h₃, i.openSession c h = .ok r h₃ ∧ i.Opens c h made r h₂ ∧
      (c.polled = true ∧ h₃ = h₂ ∨
        c.polled = false ∧ h₂.kernel.nextFault .wakePipe = none ∧ h₃ = h₂.past .wakePipe) := by
  obtain ⟨made, asked⟩ := startLink_asked (i := i) (c := c) h
  unfold openSession
  -- Stage by stage: what fails is the stage's own constructor.
  cases link : i.startLink c h with
  | error f h₁ =>
    rw [link] at asked
    exact .inl ⟨made, f, h₁, bind_error link, .link asked⟩
  | ok _ h₁ =>
    rw [link] at asked
    rw [bind_ok link]
    cases socket : Setup.openTx i.name c h₁ with
    | error f h₂ => exact .inl ⟨made, f, h₂, bind_error socket, .socket asked socket⟩
    | ok r h₂ =>
      have opens : i.Opens c h made r h₂ := ⟨h₁, asked, socket⟩
      rw [bind_ok socket]
      -- Only a worker needs a pipe.
      cases mode : c.polled with
      | true =>
        have none_ : i.allocateWorker c r.fd h₂ = .ok () h₂ := by
          rw [allocateWorker, mode]
          rfl
        exact .inr ⟨made, r, h₂, h₂, bind_ok none_, opens, .inl ⟨rfl, rfl⟩⟩
      | false =>
        have piped := allocateWorker_apply (i := i) mode r.fd h₂
        cases fails : h₂.kernel.nextFault .wakePipe with
        | some e =>
          rw [fails] at piped
          exact .inl ⟨made, _, _, bind_error piped, .pipe opens mode fails⟩
        | none =>
          rw [fails] at piped
          exact .inr ⟨made, r, h₂, _, bind_ok piped, opens, .inr ⟨rfl, fails, rfl⟩⟩

/-- `Interface.start` is `openSession`, and then `startWorker` with the new session. -/
theorem start_eq (i : Interface) (c : Config) :
    (i.start c : HostM Empty (Interface × Except Failure Unit)) = (do
      log .info .interface ("Initialising CAN interface " ++ i.name)
      match ← attempt (i.openSession c) with
      | .error f => return ({ i with config := c }, .error f)
      | .ok r    =>
        match ← attempt (i.startWorker c (i.newSession c r)) with
        | .error f => return (i.adopting c, .error f)
        | .ok s    =>
          log .info .interface ("CAN interface " ++ i.name ++ " ready")
          return ({ i.adopting c with session? := some s }, .ok ())) := rfl

/-- **`Interface.start` ends in one of the `Stages`**: by `openSession_cases`, or at the thread of
    the worker. -/
theorem start_stages (i : Interface) (c : Config) (h : Host) :
    ∃ made i' result h', (i.start c : HostM Empty (Interface × Except Failure Unit)) h =
      .ok (i', result) h' ∧ i.Stages c h made i' result h' := by
  -- The line that announces the start is the first of those that come with the requests.
  let h₀ := h.logged .info .interface ("Initialising CAN interface " ++ i.name)
  have announced : i.link.Heard i.name [] h h₀ := .logged h _
  rw [start_eq]
  obtain ⟨made, f, h', run, stages⟩ | ⟨made, r, h₂, h₃, run, opens₀, mode⟩ :=
    openSession_cases i c h₀
  · refine ⟨made, _, .error f, h', ?_, stages.of_heard announced⟩
    rw [bind_ok (log_apply ..), bind_ok (attempt_error run)]
    rfl
  · have opens : i.Opens c h made r h₂ := opens₀.of_heard announced
    rw [bind_ok (log_apply ..), bind_ok (attempt_ok run)]
    dsimp only
    -- Only a worker needs a thread.
    obtain ⟨polls, rfl⟩ | ⟨works, piped, rfl⟩ := mode
    · have none_ : i.startWorker c (i.newSession c r) h₃ =
          .ok (i.firstSession c r) h₃ := by
        rw [startWorker, firstSession, polls]
        rfl
      refine ⟨made, _, _, _, ?_, .polled opens polls⟩
      rw [bind_ok (attempt_ok none_)]
      rfl
    · have threaded := startWorker_apply (i := i) works r (h₂.past .wakePipe)
      cases fails : (h₂.past .wakePipe).kernel.nextFault .thread with
      | some e =>
        rw [fails] at threaded
        refine ⟨made, _, _, _, ?_, .thread opens works piped fails⟩
        rw [bind_ok (attempt_error threaded)]
        rfl
      | none =>
        rw [fails] at threaded
        refine ⟨made, _, _, _, ?_, .worked opens works piped fails⟩
        rw [bind_ok (attempt_ok threaded)]
        rfl

end Start

/-! ### What the stages come to -/

section Stages

variable {i i' : Interface} {c : Config} {h h' : Host} {made : List LinkRequest}
  {result : Except Failure Unit}

/-- `Stages` leave the settings `c`, whichever stage fails. -/
theorem Stages.config (stages : i.Stages c h made i' result h') : i'.config = c := by
  cases stages <;> rfl

/-- `Stages` with a failure keep `session?`. -/
theorem Stages.of_error {f : Failure} (stages : i.Stages c h made i' (.error f) h') :
    i'.session? = i.session? := by
  cases stages <;> rfl

/-- `Stages` with `.ok ()` leave `i.adopting c` with `firstSession`. -/
theorem Stages.of_ok (stages : i.Stages c h made i' (.ok ()) h') :
    ∃ r, i' = { i.adopting c with session? := some (i.firstSession c r) } := by
  cases stages with
  | polled => exact ⟨_, rfl⟩
  | worked => exact ⟨_, rfl⟩

/-- `Host.gaveUp` leaves `Journal.requests`. -/
theorem requests_gaveUp (tx : Fd) (target : Log.Target) (text : String) (e : Errno) (h : Host) :
    (h.gaveUp tx target text e).journal.requests = h.journal.requests :=
  (Journal.requests_push_silent rfl _).trans (Journal.requests_push_silent rfl _)

theorem Opens.requests {r : Setup.Ready} {h₂ : Host} (opens : i.Opens c h made r h₂) :
    h₂.journal.requests = h.journal.requests ++ i.link.recorded i.name made := by
  obtain ⟨h₁, asked, socket⟩ := opens
  have silent := (Setup.openTx_asksNoLink i.name c h₁).requests
  rw [socket] at silent
  exact silent.trans asked.heard.requests

/-- **The requests of a start are those that its link stage made**: no later stage makes one. -/
theorem Stages.requests (stages : i.Stages c h made i' result h') :
    h'.journal.requests = h.journal.requests ++ i.link.recorded i.name made := by
  cases stages with
  | link refused => exact refused.heard.requests
  | @socket h₁ f h' granted fails =>
    have silent := (Setup.openTx_asksNoLink i.name c h₁).requests
    rw [fails] at silent
    exact silent.trans granted.heard.requests
  | pipe opens works fails         => exact (requests_gaveUp ..).trans opens.requests
  | thread opens works piped fails => exact (requests_gaveUp ..).trans opens.requests
  | polled opens polls             => exact (Journal.requests_push_silent rfl _).trans opens.requests
  | worked opens works piped spawned =>
    exact (Journal.requests_push_silent rfl _).trans
      ((Journal.requests_push_silent rfl _).trans opens.requests)

/-- `Stages` with a request that is refused leave the kernel, and make no call of it. -/
theorem Stages.of_refusal (stages : i.Stages c h made i' result h') {r : LinkRequest}
    (asked : r ∈ c.requests) (refuses : i.link.verdict r ≠ none) :
    h'.kernel = h.kernel ∧ h'.journal.calls = h.journal.calls := by
  -- No later stage is reached unless all requests are granted.
  have never {h₁ : Host} (granted : i.link.Asked i.name c.requests h made (.ok () h₁)) : False := by
    cases granted with
    | granted all heard => exact refuses (all r asked)
  cases stages with
  | link refused         => exact ⟨refused.heard.kernel, refused.heard.calls⟩
  | socket granted fails => exact (never granted).elim
  | pipe opens | thread opens | polled opens | worked opens =>
    obtain ⟨_, granted, -⟩ := opens
    exact (never granted).elim

end Stages

end Interface

end CanDriver
