import CanDriver.Proofs.Sockets.Requirements

namespace CanDriver

/-!
# The first failure of a setup

* `Setup.Comes` — a computation puts queries, up to the first failure;
* `Setup.Step.queries`, `Step.comes` — the queries of a step, and that it puts them;
* `Commission.required_eq` — those of all steps are what is required;
* `Commission.Outcome` — what a setup comes to, and the calls that it makes;
* `setups_report_first_failure` — the setups of both roles end with `Commission.Outcome`.
-/

open Host

namespace Setup

section Course

variable {s : Subject} {p p' : Progress} {q : Query} {qs qs' : List Query} {h h₁ : Host}

/-! ### What computations come to -/

/-- The results from `h` on of a computation that puts the queries `qs` as `Follows` has it, up to
    the first failure. -/
inductive Comes (s : Subject) (qs : List Query) (p : Progress) (h : Host) :
    EStateM.Result Failure Host Progress → Prop
  | ok {made : List Asked} {p' : Progress} {h' : Host} (put : Put s made p h.kernel p' h'.kernel)
      (follows : Follows s.role qs made none)
      (calls : h'.journal.calls = h.journal.calls ++ made.flatMap (·.calls)) : Comes s qs p h (.ok p' h')
  | error {made : List Asked} {p' : Progress} {f : Failure} {h' : Host}
      (put : Put s made p h.kernel p' h'.kernel) (follows : Follows s.role qs made (some f))
      (calls : h'.journal.calls = h.journal.calls ++ made.flatMap (·.calls)) : Comes s qs p h (.error f h')

/-- Kernel and calls are the same: all that is added are log records. -/
structure OnlyLogs (h h' : Host) : Prop where
  kernel : h'.kernel = h.kernel
  calls  : h'.journal.calls = h.journal.calls

/-- `OnlyLogs` for one log record. -/
theorem logs_push (h : Host) (r : Log.Record) :
    OnlyLogs h { h with journal := h.journal.push (.record r) } :=
  ⟨rfl, Journal.calls_push_silent rfl _⟩

/-- `Comes` for `qs`, and then for `qs'`, is `Comes` for `qs ++ qs'`. -/
theorem Comes.bind {m : HostM Failure Progress} {f : Progress → HostM Failure Progress}
    (first : Comes s qs p h (m h)) (more : ∀ p' h', Comes s qs' p' h' (f p' h')) :
    Comes s (qs ++ qs') p h ((m >>= f) h) := by
  -- A failure of `m` is that of both; behind an answer the failure is that of `f`, if any.
  cases run : m h with
  | error f h' =>
    rw [bind_error run]
    rw [run] at first
    cases first with
    | error put follows calls => exact .error put follows.append_error calls
  | ok p₁ h₁ =>
    rw [bind_ok run]
    rw [run] at first
    cases first with
    | ok put follows calls =>
      have rest := more p₁ h₁
      cases run' : f p₁ h₁ with
      | ok p' h' =>
        rw [run'] at rest
        cases rest with
        | ok put' follows' calls' =>
          refine .ok (put.append put') (follows.append follows') ?_
          rw [calls', calls, List.flatMap_append, List.append_assoc]
      | error f h' =>
        rw [run'] at rest
        cases rest with
        | error put' follows' calls' =>
          refine .error (put.append put') (follows.append follows') ?_
          rw [calls', calls, List.flatMap_append, List.append_assoc]

/-- `Comes` for a query `a` that was put already, and then for what follows it. -/
theorem Comes.after {a : Asked} {r : EStateM.Result Failure Host Progress}
    (asked : a.query.ask s p h.kernel = (a, h₁.kernel))
    (calls : h₁.journal.calls = h.journal.calls ++ a.calls)
    (leads : ∀ made f?, Follows s.role qs made f? → Follows s.role qs' (a :: made) f?)
    (rest : Comes s qs (a.learn p) h₁ r) : Comes s qs' p h r := by
  have all (made : List Asked) :
      h₁.journal.calls ++ made.flatMap (·.calls) = h.journal.calls ++ (a :: made).flatMap (·.calls) := by
    rw [calls, List.flatMap_cons, List.append_assoc]
  cases rest with
  | ok put follows more    => exact .ok (.cons asked put) (leads _ _ follows) (more.trans (all _))
  | error put follows more => exact .error (.cons asked put) (leads _ _ follows) (more.trans (all _))

/-- **`Comes` for one query**, with the handling of its failure and of its answer. -/
theorem Comes.single {α : Type} (number : α → Int) {call : HostM Errno α} {code : ErrorCode}
    {handle : Errno → HostM Failure α} {rest : α → HostM Failure Progress}
    (puts : q.put s p = do return number (← call)) (coded : q.code? s.role = some code)
    (fails : ∀ e h₁, ∃ h₂, OnlyLogs h₁ h₂ ∧ handle e h₁ = .error (.os code e) h₂)
    (goes : ∀ a h₁, ∃ h₂, OnlyLogs h₁ h₂ ∧ rest a h₁ =
      match q.failure? s.role (.ok (number a)) with
      | none   => .ok (q.learn (number a) p) h₂
      | some f => .error f h₂) :
    Comes s [q] p h ((do let a ← orElse call handle; rest a) h) := by
  obtain ⟨a, h₁, rfl, asked, calls, answered⟩ := q.put_cases s p h
  have one {h₂ : Host} (logs : OnlyLogs h₁ h₂) : Put s [a] p h.kernel (a.learn p) h₂.kernel :=
    logs.kernel ▸ .cons asked .nil
  have made {h₂ : Host} (logs : OnlyLogs h₁ h₂) :
      h₂.journal.calls = h.journal.calls ++ [a].flatMap (·.calls) := by
    rw [logs.calls, calls, List.flatMap_singleton]
  -- The answer to the query is that of the call, so that both fail or neither does.
  cases called : call h with
  | error e g =>
    -- The failure is turned into that of the setup.
    rw [puts, bind_error called] at answered
    cases answer : a.answer with
    | ok n     => rw [answer] at answered; cases answered
    | error e' =>
      rw [answer] at answered
      obtain ⟨rfl, rfl⟩ := EStateM.Result.error.inj answered
      obtain ⟨h₂, logs, failed⟩ := fails e g
      rw [bind_error ((orElse_error called).trans failed)]
      refine .error (one logs) (.failed ?_) (made logs)
      rw [Asked.failure?, answer, Query.failure?, coded]
      rfl
  | ok x g =>
    rw [puts, bind_ok called] at answered
    cases answer : a.answer with
    | error e' => rw [answer] at answered; cases answered
    | ok n     =>
      rw [answer] at answered
      obtain ⟨rfl, rfl⟩ := EStateM.Result.ok.inj answered
      obtain ⟨h₂, logs, gone⟩ := goes x g
      rw [bind_ok (orElse_ok called), gone]
      cases fits : a.query.failure? s.role (.ok (number x)) with
      | some f =>
        refine .error (one logs) (.failed ?_) (made logs)
        rw [Asked.failure?, answer, fits]
      | none   =>
        have learned : a.learn p = a.query.learn (number x) p := by rw [Asked.learn, answer]
        refine .ok (learned ▸ one logs) (.met answer ?_ .done) (made logs)
        rw [Asked.failure?, answer, fits]

/-- `Setup.refuse` logs the failure and answers it with its code. -/
theorem logs_refuse {α : Type} (name : String) (level : Log.Level) (what : String) (code : ErrorCode)
    (e : Errno) (h : Host) :
    ∃ h', OnlyLogs h h' ∧ (refuse name level what code e : HostM Failure α) h = .error (.os code e) h' :=
  ⟨_, logs_push h _, rfl⟩

end Course

/-! ### What steps come to -/

/-- The queries that a step puts. -/
def Step.queries (role : SocketRole) : Step → List Query
  | .resolve             => [.index]
  | .nonblocking         => [.nonblocking]
  | .fdLink              => [.mtu]
  | .fdFrames            => [.set .fdFrames (.word 1)]
  | .timestamps hardware => [.set (timestampOption hardware).1 (timestampOption hardware).2]
  | .dropCounter         => [.set .dropCounter (.word 1)]
  | .buffer size         => [.set role.forcedBufferOption (.word (min size maxRequest)), .size]
  | .errorMask mask      => [.set .errorFilter (.word mask.toNat)]
  | .filters fs          => [.set .rawFilter (.filters fs)]
  | .bind                => [.bind]

section Steps

variable {s : Subject} {p : Progress} {h : Host}

/-- `Comes` for an option that is set, and nothing else. -/
theorem Comes.option {option : SocketOption} {value : OptionValue} {code : ErrorCode}
    {handle : Errno → HostM Failure Unit} (coded : (Query.set option value).code? s.role = some code)
    (fails : ∀ e h₁, ∃ h₂, OnlyLogs h₁ h₂ ∧ handle e h₁ = .error (.os code e) h₂) :
    Comes s [.set option value] p h
      ((do orElse (setOption s.fd option value) handle; return p : HostM Failure Progress) h) :=
  .single (fun _ => 0) rfl coded fails fun _ h₁ => ⟨h₁, ⟨rfl, rfl⟩, rfl⟩

/-- `Comes` for `Step.fdLink`: a link without FD frames is refused though its size was answered. -/
theorem comes_fdLink : Comes s [.mtu] p h (Step.fdLink.perform s p h) := by
  change Comes s [.mtu] p h ((requireFdLink s >>= fun _ => pure p) h)
  rw [requireFdLink, bind_assoc]
  refine .single id (bind_pure _).symm rfl (logs_refuse _ _ _ _) fun mtu h₁ => ?_
  by_cases fits : mtu = fdSize
  · subst fits
    exact ⟨h₁, ⟨rfl, rfl⟩, rfl⟩
  · have reported : Query.mtu.failure? s.role (.ok mtu) = some (.ofCode .fdNotSupported) :=
      if_pos ⟨rfl, fits⟩
    rw [if_pos fits, id, reported]
    exact ⟨_, logs_push h₁ _, rfl⟩

/-- The second half of `Setup.negotiate`, once it is known whether the request beyond the limit
    was granted. -/
def readBack (s : Subject) (forced : Bool) : HostM Failure Nat := do
  let granted ← orElse (getBuffer s.fd s.role) fun e =>
    refuse s.name .error s.role.getBufferCode.message s.role.getBufferCode e
  let subject := s.name ++ ": " ++ s.role.bufferWord
  let size := Numeral.text granted
  if forced then log .debug .setup (subject ++ " buffer size " ++ size)
  else log .warn .setup (subject ++ " buffer force request refused, best-effort size " ++ size)
  return granted

theorem negotiate_eq (s : Subject) (size : Nat) :
    let request := OptionValue.word (min size maxRequest)
    negotiate s size = (do
      match ← attempt (setOption s.fd s.role.forcedBufferOption request) with
      | .ok _    => readBack s true
      | .error _ =>
        orElse (setOption s.fd s.role.bufferOption request) fun e =>
          refuse s.name .error s.role.setBufferCode.message s.role.setBufferCode e
        readBack s false) := by
  refine bind_congr fun forced => ?_
  cases forced <;> rfl

/-- `Comes` for `readBack`, whose query is the size that was granted. -/
theorem comes_readBack (forced : Bool) (p : Progress) (h : Host) :
    Comes s [.size] p h ((readBack s forced >>= fun granted => pure { p with granted }) h) := by
  have code : Query.size.code? s.role = some s.role.getBufferCode := rfl
  rw [readBack, bind_assoc]
  refine .single (fun n : Nat => n) rfl code (logs_refuse _ _ _ _) fun n h₁ => ?_
  cases forced <;> exact ⟨_, logs_push h₁ _, rfl⟩

/-- **`Comes` for `Step.buffer`**: the size is asked for beyond the limit of the system, and within
    it if that is refused. -/
theorem comes_buffer (size : Nat) :
    Comes s ((Step.buffer size).queries s.role) p h ((Step.buffer size).perform s p h) := by
  change Comes s _ p h ((negotiate s size >>= fun granted => pure { p with granted }) h)
  rw [negotiate_eq, bind_assoc]
  generalize request_eq : OptionValue.word (min size maxRequest) = request
  obtain ⟨a, h₁, query, asked, calls, answered⟩ :=
    (Query.set s.role.forcedBufferOption request).put_cases s p h
  have required : (Step.buffer size).queries s.role = [a.query, .size] := by rw [query, ← request_eq]; rfl
  rw [required]
  rw [← query] at asked
  -- Granted beyond the limit, the size is read back; refused, that failure is waived.
  cases set : setOption s.fd s.role.forcedBufferOption request h with
  | ok u g =>
    have put : (Query.set s.role.forcedBufferOption request).put s p h = .ok 0 g := bind_ok set
    rw [put] at answered
    cases answer : a.answer with
    | error e => rw [answer] at answered; cases answered
    | ok n =>
      rw [answer] at answered
      obtain ⟨-, rfl⟩ := EStateM.Result.ok.inj answered
      have fits : a.failure? s.role = none := by rw [Asked.failure?, answer, query]; rfl
      have learned : a.learn p = p := by rw [Asked.learn, answer, query]; rfl
      rw [bind_ok (attempt_ok set)]
      refine .after asked calls (fun _ _ more => .met answer fits more) ?_
      rw [learned]
      exact comes_readBack true p g
  | error e g =>
    have put : (Query.set s.role.forcedBufferOption request).put s p h = .error e g := bind_error set
    rw [put] at answered
    cases answer : a.answer with
    | ok n    => rw [answer] at answered; cases answered
    | error e =>
      rw [answer] at answered
      obtain ⟨-, rfl⟩ := EStateM.Result.error.inj answered
      have learned : a.learn p = p := by rw [Asked.learn, answer]
      -- The plain request is put in the place of the one that was refused.
      have plain : Comes s [.set s.role.bufferOption request] p g ((do
          orElse (setOption s.fd s.role.bufferOption request) fun e =>
            refuse s.name .error s.role.setBufferCode.message s.role.setBufferCode e
          return p : HostM Failure Progress) g) := by
        refine .option ?_ (logs_refuse _ _ _ _)
        cases s.role <;> rfl
      rw [bind_ok (attempt_error set)]
      refine .after asked calls (fun _ _ more => .waived query answer more) ?_
      have both := plain.bind (comes_readBack false)
      rw [bind_assoc] at both
      change Comes s [_, .size] (a.learn p) g (((orElse _ _ >>= fun _ => readBack s false) >>= _) g)
      rw [learned, bind_assoc]
      exact both

/-- **`Comes` for every step and its `Step.queries`**: one query by `Comes.single` or
    `Comes.option`, or the two of a buffer. -/
theorem Step.comes (step : Step) : Comes s (step.queries s.role) p h (step.perform s p h) := by
  have stays (h₁ : Host) : OnlyLogs h₁ h₁ := ⟨rfl, rfl⟩
  -- All steps but the two with an answer of their own are one query with one failure.
  cases step with
  | resolve =>
    refine .single (fun i : UInt32 => i.toNat) rfl rfl (logs_refuse _ _ _ _) fun i h₁ => ?_
    refine ⟨h₁, stays h₁, ?_⟩
    have same : UInt32.ofNat ((i.toNat : Int)).toNat = i := UInt32.ofNat_toNat
    simp only [Query.failure?, Query.learn, same]
    rfl
  | nonblocking =>
    exact .single (fun _ => 0) rfl rfl (fun e h₁ => ⟨h₁, stays h₁, rfl⟩) fun _ h₁ =>
      ⟨h₁, stays h₁, rfl⟩
  | fdLink => exact comes_fdLink
  | fdFrames => exact .option rfl (logs_refuse _ _ _ _)
  | timestamps hardware => cases hardware <;> exact .option rfl (logs_refuse _ _ _ _)
  | dropCounter => exact .option rfl (logs_refuse _ _ _ _)
  | buffer size => exact comes_buffer size
  | errorMask mask => exact .option rfl (logs_refuse _ _ _ _)
  | filters fs => exact .option rfl (logs_refuse _ _ _ _)
  | bind =>
    have code : Query.bind.code? s.role = some s.role.bindCode := rfl
    exact .single (fun _ => 0) rfl code (logs_refuse _ _ _ _) fun _ h₁ => ⟨h₁, stays h₁, rfl⟩

/-- **`Comes` for steps in a row** and all their queries. By induction on the steps, with
    `Comes.bind`. -/
theorem run_comes (steps : List Step) (p : Progress) (h : Host) :
    Comes s (steps.flatMap (Step.queries s.role)) p h (Setup.run s steps p h) := by
  induction steps generalizing p h with
  | nil             => exact .ok .nil .done (by simp)
  | cons step _ ih => exact step.comes.bind ih

end Steps

end Setup

/-! ### What setups come to -/

namespace Commission

open Setup

variable {c : Commission} {index : UInt32} {h h' : Host}

/-- `Commission.required` are the queries of the steps, with `bind` last. -/
theorem required_eq (c : Commission) :
    c.required = (c.preparation ++ [Step.bind]).flatMap (Step.queries c.role) := by
  obtain ⟨name, role, config, fs⟩ := c
  cases role <;>
    simp only [required, preparation, size, Config.fdSteps, Config.bufferSteps, Config.errorSteps,
      Config.headerSteps, List.flatMap_append, apply_ite (List.flatMap _), List.flatMap_cons, List.flatMap_nil,
      Step.queries, List.append_nil, maxRequest, maxInt32] <;> rfl

/-- A socket is opened, and all of `c.required` is granted for it. -/
def Granted (c : Commission) (index : UInt32) (h : Host) : Prop :=
  ∃ fd h₁ made p k, Host.openSocket h = .ok fd h₁ ∧
    Put (c.subject fd) made ⟨index, 0⟩ h₁.kernel p k ∧ Follows c.role c.required made none

/-- The results from `h` on of a setup for `c`, with the calls that it makes. -/
inductive Outcome (c : Commission) (index : UInt32) (h : Host) : EStateM.Result Failure Host Ready → Prop
  /-- No socket is opened, and no further call made. -/
  | unopened {e : Errno} {h₁ h' : Host} (refused : Host.openSocket h = .error e h₁)
      (calls : h'.journal.calls = h.journal.calls ++ [.socket (.error e)]) :
    c.Outcome index h (.error (.os c.role.createCode e) h')
  /-- All of `c.required` is granted. -/
  | ready {fd : Fd} {h₁ h' : Host} {made : List Asked} {p : Progress}
      (opened : Host.openSocket h = .ok fd h₁)
      (put : Put (c.subject fd) made ⟨index, 0⟩ h₁.kernel p h'.kernel)
      (follows : Follows c.role c.required made none) (measured : c.Measured made p.granted)
      (calls : h'.journal.calls = h.journal.calls ++ .socket (.ok fd) :: made.flatMap (·.calls)) :
    c.Outcome index h (.ok ⟨fd, p.index, p.granted⟩ h')
  /-- The failure is that of the last query that was put, and the socket is closed. -/
  | failed {fd : Fd} {h₁ h' : Host} {made : List Asked} {f : Failure} {p : Progress} {k : Kernel}
      (opened : Host.openSocket h = .ok fd h₁) (put : Put (c.subject fd) made ⟨index, 0⟩ h₁.kernel p k)
      (follows : Follows c.role c.required made (some f)) (closed : h'.kernel = k.closeSocket fd)
      (calls : h'.journal.calls =
        h.journal.calls ++ .socket (.ok fd) :: (made.flatMap (·.calls) ++ [.close fd])) :
    c.Outcome index h (.error f h')

/-- The setup for `c` from `h` on ends with `result`, which reports the first failure. -/
structure Reports (c : Commission) (index : UInt32) (h : Host)
    (result : EStateM.Result Failure Host Ready) : Prop where
  outcome  : c.Outcome index h result
  /-- The setup succeeds exactly where `c` is `Granted`. -/
  succeeds : (∃ r h', result = .ok r h') ↔ c.Granted index h
  /-- The size that is asked for is the one of the settings, at most `maxRequest`. -/
  bounded  : ∀ made f?, Follows c.role c.required made f? → ∀ a ∈ made, ∀ option value,
    a.query = .set option value → option = c.role.forcedBufferOption ∨ option = c.role.bufferOption →
      value = .word (min c.size maxInt32)

/-- `Outcome` does not see log records that are added at the end. -/
theorem Outcome.of_logs {r : Ready} {h'' : Host} (outcome : c.Outcome index h (.ok r h'))
    (logs : OnlyLogs h' h'') : c.Outcome index h (.ok r h'') := by
  cases outcome with
  | ready opened put follows measured calls =>
    exact .ready opened (logs.kernel ▸ put) follows measured (logs.calls.trans calls)

/-- **A setup succeeds exactly where its commission is `Granted`.** By `Follows.unique`, what was
    granted and what failed can not both be. -/
theorem Outcome.succeeds {result : EStateM.Result Failure Host Ready} (outcome : c.Outcome index h result) :
    (∃ r h', result = .ok r h') ↔ c.Granted index h := by
  constructor
  · rintro ⟨r, h', rfl⟩
    cases outcome with
    | ready opened put follows _ _ => exact ⟨_, _, _, _, _, opened, put, follows⟩
  · rintro ⟨fd, h₁, made, p, k, opened, put, follows⟩
    cases outcome with
    | ready => exact ⟨_, _, rfl⟩
    | unopened refused _ => exact nomatch refused.symm.trans opened
    | failed opened' put' follows' _ _ =>
      obtain ⟨rfl, rfl⟩ := EStateM.Result.ok.inj (opened'.symm.trans opened)
      exact nomatch follows.unique put follows' put'

/-- `Host.openSocket` makes one `socket` call. -/
theorem socket_calls (h : Host) :
    match Host.openSocket h with
    | .ok fd h₁   => h₁.journal.calls = h.journal.calls ++ [.socket (.ok fd)]
    | .error e h₁ => h₁.journal.calls = h.journal.calls ++ [.socket (.error e)] := by
  unfold Host.openSocket
  rw [bind_ok (fault_apply ..)]
  cases (h.kernel.faults.take .socket).1.filter (· ≠ 0) with
  | none   => exact Journal.calls_push_call _ h.journal
  | some e => exact Journal.calls_push_call _ h.journal

/-- `Comes` for the steps of a setup and `Commission.required`. -/
theorem run_comes (c : Commission) (fd : Fd) (p : Progress) (h : Host) :
    Comes (c.subject fd) c.required p h (Setup.run (c.subject fd) (c.preparation ++ [.bind]) p h) := by
  rw [required_eq]
  exact Setup.run_comes (c.preparation ++ [.bind]) p h

/-- **`Setup.openSocket` ends with `Outcome`**: it stops at the first query that fails, and closes
    its socket. -/
theorem openSocket_outcome (c : Commission) (index : UInt32) (h : Host) :
    c.Outcome index h (Setup.openSocket c.name c.role (c.preparation ++ [.bind]) index h) := by
  have opens := socket_calls h
  unfold Setup.openSocket
  -- The three constructors: no socket, all steps passed, one step failed.
  cases opened : Host.openSocket h with
  | error e h₁ =>
    rw [opened] at opens
    obtain ⟨h₂, logs, refused⟩ := logs_refuse (α := Fd) c.name .error
      ("unable to create " ++ c.role.word ++ " socket") c.role.createCode e h₁
    rw [bind_error ((orElse_error opened).trans refused)]
    exact .unopened opened (logs.calls.trans opens)
  | ok fd h₁ =>
    rw [opened] at opens
    rw [bind_ok (orElse_ok opened)]
    have comes := c.run_comes fd ⟨index, 0⟩ h₁
    change c.Outcome index h ((orElse (Setup.run (c.subject fd) _ _) _ >>= _) h₁)
    have calls {made : List Asked} {h₂ : Host}
        (more : h₂.journal.calls = h₁.journal.calls ++ made.flatMap (·.calls)) :
        h₂.journal.calls = h.journal.calls ++ .socket (.ok fd) :: made.flatMap (·.calls) := by
      rw [more, opens, List.append_assoc, List.singleton_append]
    cases steps : Setup.run (c.subject fd) (c.preparation ++ [.bind]) ⟨index, 0⟩ h₁ with
    | ok p h₂ =>
      rw [steps] at comes
      rw [bind_ok (orElse_ok steps)]
      cases comes with
      | ok put follows more => exact .ready opened put follows (measured put follows) (calls more)
    | error f h₂ =>
      rw [steps] at comes
      -- The socket is closed, and the failure goes on.
      have closes : (do closeSocket fd; throw f : HostM Failure Progress) h₂ =
          .error f ⟨h₂.kernel.closeSocket fd, h₂.journal.push (.call (.close fd))⟩ := rfl
      rw [bind_error ((orElse_error steps).trans closes)]
      cases comes with
      | error put follows more =>
        refine .failed opened put follows rfl ?_
        rw [Journal.calls_push_call, calls more, List.append_assoc, List.cons_append]

/-- `Reports` for `Setup.openSocket` with one log record behind it. -/
theorem reports_of_openSocket {m : HostM Failure Ready} (line : Ready → String)
    (opens : m = do
      let r ← Setup.openSocket c.name c.role (c.preparation ++ [.bind]) index
      log .debug .setup (line r)
      return r) : c.Reports index h (m h) := by
  have outcome : c.Outcome index h (m h) := by
    have before := c.openSocket_outcome index h
    rw [opens]
    cases run : Setup.openSocket c.name c.role (c.preparation ++ [.bind]) index h with
    | ok r h₁ =>
      rw [run] at before
      rw [bind_ok run]
      exact before.of_logs (logs_push h₁ _)
    | error f h₁ =>
      rw [run] at before
      rw [bind_error run]
      exact before
  exact ⟨outcome, outcome.succeeds, fun _ _ follows _ there _ _ sets => bounded follows there sets⟩

end Commission

/-- **A setup reports the first failure.** It succeeds just if a socket is opened and the kernel
    grants all that the settings require, where the plain request for a size stands in for one
    beyond the limit that was refused. Otherwise it fails with the code and the number of the first
    call that was not granted, or with that of a link without FD frames, and makes no further call
    but to close the socket. -/
theorem setups_report_first_failure (name : String) (config : Config) (index : UInt32) (fs : List Filter)
    (h : Host) :
    (Commission.transmit name config).Reports 0 h (Setup.openTx name config h) ∧
      (Commission.receive name config fs).Reports index h (Setup.openRx name config index fs h) := by
  constructor
  · refine Commission.reports_of_openSocket
      (fun r => name ++ ": tx socket ready (fd " ++ Numeral.intText r.fd ++ ")") ?_
    rw [← Commission.txSteps_eq]
    rfl
  · refine Commission.reports_of_openSocket
      (fun r => name ++ ": rx socket ready (fd " ++ Numeral.intText r.fd ++ ", " ++
        Numeral.text fs.length ++ " filters)") ?_
    rw [← Commission.rxSteps_eq]
    rfl

end CanDriver
