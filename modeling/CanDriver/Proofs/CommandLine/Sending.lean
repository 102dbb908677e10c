import CanDriver.Cli.Command
import CanDriver.Proofs.CommandLine.Notation
import CanDriver.Proofs.Frames.RoundTrip
import CanDriver.Proofs.Sockets.Answers

namespace CanDriver

/-!
# Frames sent from the command line

* `Transmission.Answer` — what the kernel answers to a send; `Answers` — to sends in a row;
* `Transmission.send_cases` — what becomes of an answer;
* `Tries` — the answers to the tries of one repetition; `sendOnce_cases` — a repetition has such answers;
* `Course` — the answers to all repetitions; `sendAll_cases` — the repetitions have such answers;
* `Tally` — what the answers come to; `Course.tally`;
* `Carried` — a datagram that holds all that a text says; `carried_datagram` — it is what is sent;
* `Idle` — an interface that was initialised for sending; `shutdown_idle` — its end;
* `frame_sent_times` — the command sends a frame as often as it is to be.
-/

open Host

/-! ### Answers -/

namespace Transmission

/-- What the kernel answers to a send: how many bytes it took, or why it took none. -/
abbrev Answer := Except Errno Nat

namespace Answer

/-- All `size` bytes were taken. -/
def complete (size : Nat) : Answer → Bool
  | .ok n    => size ≤ n
  | .error _ => false

/-- The transmit queue was full, by one of the two errors that say so. -/
def full : Answer → Bool
  | .ok _    => false
  | .error e => e = Errno.again || e = Errno.noBuffers

/-- The failure that `Transmission.send` reports for an answer, if any. -/
def failure? (size : Nat) : Answer → Option Failure
  | .ok n    => if size ≤ n then none else some (.ofCode .incompleteFrame)
  | .error e =>
    some (.os (if e = Errno.again ∨ e = Errno.noBuffers then .txRetryLater else .txSocketWrite) e)

/-- The send as the journal has it. The byte count of a success is not recorded. -/
def call (socket : Fd) (bytes : List UInt8) : Answer → KernelCall
  | .ok _    => .send socket bytes none
  | .error e => .send socket bytes (some e)

variable {size : Nat} {a : Answer}

theorem failure?_eq_none_iff : a.failure? size = none ↔ a.complete size = true := by
  cases a <;> simp [failure?, complete]

theorem not_complete_of_full (full : a.full = true) : a.complete size = false := by
  cases a with
  | ok n    => exact nomatch full
  | error e => rfl

/-- `retryLater`, the condition of another try, says just that the queue was full. -/
theorem retryLater_eq {f : Failure} (fails : a.failure? size = some f) : f.retryLater = a.full := by
  cases a with
  | ok n    =>
    obtain ⟨-, same⟩ := Option.ite_none_left_eq_some.mp fails
    obtain rfl := Option.some.inj same
    rfl
  | error e =>
    obtain rfl := Option.some.inj fails
    by_cases full : e = Errno.again ∨ e = Errno.noBuffers
    · have counts : Answer.full (.error e) = true := by simpa [Answer.full] using full
      rw [if_pos full, counts]
      rfl
    · have counts : Answer.full (.error e) = false := by simpa [Answer.full] using full
      rw [if_neg full, counts]
      rfl

end Answer

/-- The answers to sends in a row, each on the kernel that the one before has left. -/
inductive Answers (socket : Fd) (bytes : List UInt8) : List Answer → Kernel → Kernel → Prop
  | nil {k : Kernel} : Answers socket bytes [] k k
  | cons {a : Answer} {answers : List Answer} {k k₁ k' : Kernel} {calls : List KernelCall}
      (sent : alone (Host.send socket bytes) k = ⟨a, k₁, calls⟩)
      (more : Answers socket bytes answers k₁ k') :
    Answers socket bytes (a :: answers) k k'

theorem Answers.append {socket : Fd} {bytes : List UInt8} {answers more : List Answer} {k k₁ k' : Kernel}
    (first : Answers socket bytes answers k k₁) (then_ : Answers socket bytes more k₁ k') :
    Answers socket bytes (answers ++ more) k k' := by
  induction first with
  | nil            => exact then_
  | cons sent _ ih => exact .cons sent (ih then_)

variable {socket : Fd} {name : String} {fd : Bool} {f : Frame}

/-- `Host.send` makes exactly one call, which `Answer.call` describes. -/
theorem alone_send (socket : Fd) (bytes : List UInt8) (k : Kernel) :
    ∃ (a : Answer) (k' : Kernel), alone (Host.send socket bytes) k = ⟨a, k', [a.call socket bytes]⟩ := by
  unfold alone
  cases fails : k.nextFault .send with
  | some e =>
    have refused : Host.send socket bytes ⟨k, #[]⟩ = .error e _ := send_of_fault fails
    rw [refused]
    simp only [Host.offered, fails]
    exact ⟨.error e, _, rfl⟩
  | none =>
    obtain ⟨taken, h', sent, journal, -⟩ := send_of_calm (h := ⟨k, #[]⟩) socket bytes fails
    rw [sent]
    simp only [journal, Host.offered, fails]
    exact ⟨.ok taken, _, rfl⟩

/-- **`Transmission.send` as a function of the answer of the kernel**: its one call, and
    its failure. -/
theorem send_cases (h : Host) :
    ∃ (a : Answer) (h₁ : Host),
      alone (Host.send socket (f.datagram fd)) h.kernel =
        ⟨a, h₁.kernel, [a.call socket (f.datagram fd)]⟩ ∧
      h₁.journal.calls = h.journal.calls ++ [a.call socket (f.datagram fd)] ∧
      Transmission.send socket name fd f h = match a.failure? (f.datagram fd).length with
        | none   => .ok () h₁
        | some e => .error e h₁ := by
  obtain ⟨a, k, answered⟩ := alone_send socket (f.datagram fd) h.kernel
  obtain ⟨g, kernel, calls, course⟩ := (Blind.send socket (f.datagram fd)).cases h
  rw [answered] at kernel calls course
  obtain rfl := kernel
  cases a with
  | error e =>
    change Host.send socket (f.datagram fd) h = .error e g at course
    -- The failure is turned into one of two others.
    by_cases full : e = Errno.again ∨ e = Errno.noBuffers
    · have queue : queueFull e = true := by simpa [queueFull, or_comm] using full
      have run : Transmission.send socket name fd f h = .error (.os .txRetryLater e) g :=
        bind_error ((orElse_error course).trans (by rw [queue]; rfl))
      refine ⟨.error e, g, answered, calls, run.trans ?_⟩
      rw [Answer.failure?, if_pos full]
    · have queue : queueFull e = false := by simpa [queueFull, and_comm] using full
      let told := g.logged .error .transmission (name ++ ": socket write failed: " ++ e.message)
      have run : Transmission.send socket name fd f h = .error (.os .txSocketWrite e) told :=
        bind_error ((orElse_error course).trans (by rw [queue]; rfl))
      refine ⟨.error e, told, answered, (calls_logged ..).trans calls, run.trans ?_⟩
      rw [Answer.failure?, if_neg full]
  | ok n =>
    change Host.send socket (f.datagram fd) h = .ok n g at course
    -- A short count is a failure of its own, although the kernel reports none.
    by_cases whole : (f.datagram fd).length ≤ n
    · have long : ¬ n < Frame.wireSize fd := by simpa using whole
      let told := g.logged .trace .transmission (name ++ ": tx " ++ (f.prepared fd).text)
      have run : Transmission.send socket name fd f h = .ok () told :=
        (bind_ok (orElse_ok course)).trans (by rw [if_neg long]; rfl)
      refine ⟨.ok n, told, answered, (calls_logged ..).trans calls, run.trans ?_⟩
      rw [Answer.failure?, if_pos whole]
    · have short : n < Frame.wireSize fd := by simpa using whole
      let told := g.logged .error .transmission (name ++ ": incomplete frame written (" ++
        Numeral.text n ++ "/" ++ Numeral.text (Frame.wireSize fd) ++ ")")
      have run : Transmission.send socket name fd f h = .error (.ofCode .incompleteFrame) told :=
        (bind_ok (orElse_ok course)).trans (by rw [if_pos short]; rfl)
      refine ⟨.ok n, told, answered, (calls_logged ..).trans calls, run.trans ?_⟩
      rw [Answer.failure?, if_neg whole]

end Transmission

namespace Cli

open Transmission

/-! ### One repetition -/

/-- The answers to the tries of one repetition, of which there are at most `limit` after the
    first: each of them says that the queue was full but for the last one, and that one only where
    no try is left. -/
structure Tries (limit : Nat) (fulls : List Answer) (last : Answer) : Prop where
  within : fulls.length ≤ limit
  full   : ∀ a ∈ fulls, a.full = true
  spent  : last.full = true → fulls.length = limit

/-- A try that met a full queue comes before `Tries` with one try less. -/
theorem Tries.cons {limit : Nat} {a last : Answer} {fulls : List Answer} (full : a.full = true)
    (tries : Tries limit fulls last) : Tries (limit + 1) (a :: fulls) last where
  within := Nat.succ_le_succ tries.within
  full   := List.forall_mem_cons.mpr ⟨full, tries.full⟩
  spent  := fun still => congrArg (· + 1) (tries.spent still)

/-- At most the last of the tries was `complete`. -/
theorem Tries.countP {limit : Nat} {fulls : List Answer} {last : Answer} (tries : Tries limit fulls last)
    (size : Nat) : (fulls ++ [last]).countP (·.complete size) = if last.complete size then 1 else 0 := by
  have none_ : fulls.countP (·.complete size) = 0 := by
    rw [List.countP_eq_zero]
    intro a there whole
    exact nomatch (Answer.not_complete_of_full (tries.full a there)).symm.trans whole
  rw [List.countP_append, none_, Nat.zero_add, List.countP_singleton]

variable {i : Interface} {s : Session} {f : Frame}

/-- `send_cases` for `Interface.transmit`, on the transmit socket of the session. -/
theorem transmit_cases (there : i.session? = some s) (f : Frame) (h : Host) :
    ∃ (a : Answer) (h₁ : Host),
      alone (Host.send s.tx (f.datagram s.config.fd)) h.kernel =
        ⟨a, h₁.kernel, [a.call s.tx (f.datagram s.config.fd)]⟩ ∧
      h₁.journal.calls = h.journal.calls ++ [a.call s.tx (f.datagram s.config.fd)] ∧
      i.transmit f h = match a.failure? (f.datagram s.config.fd).length with
        | none   => .ok () h₁
        | some e => .error e h₁ := by
  have same : i.transmit f = Transmission.send s.tx s.name s.config.fd f := by
    rw [Interface.transmit, Interface.session, there]
    rfl
  rw [same]
  exact send_cases h

/-- **`sendOnce` has answers that are `Tries`, and fails as the last of them says.** By induction on
    the retries that are left. -/
theorem sendOnce_cases (there : i.session? = some s) (f : Frame) (limit : Nat) (h : Host) :
    ∃ fulls last h', Tries limit fulls last ∧
      Answers s.tx (f.datagram s.config.fd) (fulls ++ [last]) h.kernel h'.kernel ∧
      h'.journal.calls = h.journal.calls ++ (fulls ++ [last]).map (·.call s.tx (f.datagram s.config.fd)) ∧
      sendOnce i f limit h = match last.failure? (f.datagram s.config.fd).length with
        | none   => .ok () h'
        | some e => .error e h' := by
  induction limit generalizing h with
  -- Without a try left, a full queue is a failure like any other.
  | zero =>
    obtain ⟨a, h₁, answered, calls, course⟩ := transmit_cases there f h
    exact ⟨[], a, h₁, ⟨Nat.le_refl 0, nofun, fun _ => rfl⟩, .cons answered .nil, calls, course⟩
  | succ limit ih =>
    obtain ⟨a, h₁, answered, calls, course⟩ := transmit_cases there f h
    cases fails : a.failure? (f.datagram s.config.fd).length with
    | none =>
      rw [fails] at course
      have whole : a.full ≠ true := fun full => Bool.false_ne_true
        ((Answer.not_complete_of_full full).symm.trans (Answer.failure?_eq_none_iff.mp fails))
      have tries : Tries (limit + 1) [] a := ⟨Nat.zero_le _, nofun, fun full => absurd full whole⟩
      refine ⟨[], a, h₁, tries, .cons answered .nil, calls, ?_⟩
      rw [sendOnce, bind_ok (attempt_ok course), fails]
      rfl
    | some e =>
      rw [fails] at course
      have retries : e.retryLater = a.full := Answer.retryLater_eq fails
      cases full : a.full with
      | false =>
        have tries : Tries (limit + 1) [] a :=
          ⟨Nat.zero_le _, nofun, fun still => absurd (full.symm.trans still) Bool.false_ne_true⟩
        refine ⟨[], a, h₁, tries, .cons answered .nil, calls, ?_⟩
        rw [sendOnce, bind_ok (attempt_error course), fails]
        simp only [retries, full, Bool.false_eq_true, if_false]
        rfl
      | true =>
        -- The queue was full: one try less is left.
        obtain ⟨fulls, last, h', tries, answers, more, rest⟩ := ih h₁
        refine ⟨a :: fulls, last, h', tries.cons full, .cons answered answers, ?_, ?_⟩
        · rw [more, calls, List.append_assoc]
          rfl
        · rw [sendOnce, bind_ok (attempt_error course)]
          simp only [retries, full, if_true]
          exact rest

/-! ### All repetitions -/

/-- The answers of a repetition whose last try was `complete`. -/
def Delivered (size : Nat) (answers : List Answer) : Prop :=
  ∃ fulls last, Tries 1000 fulls last ∧ last.complete size = true ∧ answers = fulls ++ [last]

/-- The answers to `times` repetitions, of which the given number were begun: all were `Delivered`,
    or the last of those that were begun ended with a failure. -/
inductive Course (size times : Nat) : Nat → List Answer → Option Failure → Prop
  | done (runs : List (List Answer)) (all : runs.length = times)
      (delivered : ∀ r ∈ runs, Delivered size r) :
    Course size times runs.length runs.flatten none
  | aborted (runs : List (List Answer)) {fulls : List Answer} {last : Answer} {f : Failure}
      (more : runs.length < times) (delivered : ∀ r ∈ runs, Delivered size r)
      (tries : Tries 1000 fulls last) (fails : last.failure? size = some f) :
    Course size times (runs.length + 1) (runs.flatten ++ (fulls ++ [last])) (some f)

/-- A repetition that was `Delivered` comes before a `Course` of the others. -/
theorem Course.cons {size left begun : Nat} {r answers : List Answer} {f? : Option Failure}
    (first : Delivered size r) (course : Course size left begun answers f?) :
    Course size (left + 1) (begun + 1) (r ++ answers) f? := by
  cases course with
  | done runs all delivered =>
    exact .done (r :: runs) (congrArg (· + 1) all) (List.forall_mem_cons.mpr ⟨first, delivered⟩)
  | aborted runs more delivered tries fails =>
    have course := Course.aborted (r :: runs) (Nat.succ_lt_succ more)
      (List.forall_mem_cons.mpr ⟨first, delivered⟩) tries fails
    rwa [List.flatten_cons, List.append_assoc] at course

/-- **`sendAll` has answers that are a `Course`, and fails as that does.** By induction on the
    repetitions that are left. -/
theorem sendAll_cases (there : i.session? = some s) (f : Frame) (times left : Nat) (h : Host) :
    ∃ (begun : Nat) (answers : List Answer) (f? : Option Failure) (h' : Host),
      Course (f.datagram s.config.fd).length left begun answers f? ∧
      Answers s.tx (f.datagram s.config.fd) answers h.kernel h'.kernel ∧
      h'.journal.calls = h.journal.calls ++ answers.map (·.call s.tx (f.datagram s.config.fd)) ∧
      sendAll i f times left h = match f? with
        | none   => .ok () h'
        | some e => .error e h' := by
  induction left generalizing h with
  | zero => exact ⟨0, [], none, h, .done [] rfl nofun, .nil, (List.append_nil _).symm, rfl⟩
  | succ left ih =>
    obtain ⟨fulls, last, h₁, tries, answers, calls, course⟩ := sendOnce_cases there f maxRetries h
    cases fails : last.failure? (f.datagram s.config.fd).length with
    | some e =>
      rw [fails] at course
      exact ⟨1, fulls ++ [last], some e, h₁, .aborted [] (Nat.succ_pos left) nofun tries fails,
        answers, calls, bind_error course⟩
    | none =>
      rw [fails] at course
      have first : Delivered (f.datagram s.config.fd).length (fulls ++ [last]) :=
        ⟨fulls, last, tries, Answer.failure?_eq_none_iff.mp fails, rfl⟩
      let told := h₁.logged .debug .commandLine ("Sent " ++ f.text ++ " (" ++
        Numeral.text (times - left) ++ "/" ++ Numeral.text times ++ ")")
      obtain ⟨begun, more, f?, h', rest, answers', calls', course'⟩ := ih told
      refine ⟨begun + 1, fulls ++ [last] ++ more, f?, h', rest.cons first, answers.append answers', ?_, ?_⟩
      · rw [calls', calls_logged, calls, List.append_assoc, ← List.map_append]
      · rw [sendAll, bind_ok course]
        exact course'

/-! ### What the answers come to -/

/-- A `Delivered` repetition has exactly one `complete` answer, and at most 1001 tries. -/
theorem Delivered.countP {size : Nat} {answers : List Answer} (delivered : Delivered size answers) :
    answers.countP (·.complete size) = 1 ∧ answers.length ≤ 1001 := by
  obtain ⟨fulls, last, tries, whole, rfl⟩ := delivered
  refine ⟨?_, ?_⟩
  · rw [tries.countP, if_pos whole]
  · rw [List.length_append]
    exact Nat.succ_le_succ tries.within

/-- Repetitions that are all `Delivered` have one `complete` answer each, and at most 1001 answers. -/
theorem countP_flatten {size : Nat} {runs : List (List Answer)}
    (delivered : ∀ r ∈ runs, Delivered size r) :
    runs.flatten.countP (·.complete size) = runs.length ∧ runs.flatten.length ≤ 1001 * runs.length := by
  induction runs with
  | nil => exact ⟨rfl, Nat.zero_le _⟩
  | cons r runs ih =>
    obtain ⟨first, others⟩ := List.forall_mem_cons.mp delivered
    obtain ⟨one, short⟩ := first.countP
    obtain ⟨count, length⟩ := ih others
    rw [List.flatten_cons, List.countP_append, List.length_append, one, count, List.length_cons]
    omega

/-- **How often a frame went out.** Where nothing failed, it was taken as often as it was to be
    sent, and otherwise less often, with the failure in the last answer. -/
structure Tally (size times begun : Nat) (answers : List Answer) (f? : Option Failure) : Prop where
  tries    : answers.length ≤ 1001 * begun
  finished : f? = none → answers.countP (·.complete size) = times
  failed   : ∀ f, f? = some f → answers.countP (·.complete size) < times ∧
    ∃ before last, answers = before ++ [last] ∧ last.failure? size = some f

theorem Course.tally {size times begun : Nat} {answers : List Answer} {f? : Option Failure}
    (course : Course size times begun answers f?) : Tally size times begun answers f? := by
  cases course with
  | done runs all delivered =>
    obtain ⟨count, length⟩ := countP_flatten delivered
    exact ⟨length, fun _ => count.trans all, nofun⟩
  | @aborted runs fulls last f more delivered tries fails =>
    obtain ⟨count, length⟩ := countP_flatten delivered
    refine ⟨?_, nofun, fun f' same => ⟨?_, runs.flatten ++ fulls, last, (List.append_assoc ..).symm, ?_⟩⟩
    · have within := tries.within
      simp only [List.length_append, List.length_singleton]
      omega
    · have short : last.complete size ≠ true := fun whole =>
        nomatch fails.symm.trans (Answer.failure?_eq_none_iff.mpr whole)
      rwa [List.countP_append, count, tries.countP, if_neg short]
    · exact Option.some.inj same ▸ fails

/-! ### Before and after -/

/-- A polled interface on an external link with the session `s`, which has no receive sockets. -/
structure Idle (i : Interface) (s : Session) (c : Config) : Prop where
  link     : i.link = .external
  session  : i.session? = some s
  config   : s.config = c
  worker   : s.worker = none
  sound    : s.poisoned = false
  sockets  : s.waitSet.rx = []

/-- A successful start for a caller that polls leaves `newSession`, without a worker. -/
theorem start_polled {ε : Type} {i i' : Interface} {c : Config} {h h' : Host} (polls : c.polled = true)
    (run : (i.start c : HostM ε (Interface × Except Failure Unit)) h = .ok (i', .ok ()) h') :
    ∃ r, i' = { i.adopting c with session? := some (i.newSession c r) } := by
  unfold Interface.start at run
  obtain ⟨_, h₁, -, run⟩ := of_bind_ok run
  obtain ⟨answer, h₂, -, run⟩ := of_bind_ok run
  cases answer with
  | error f => exact nomatch run
  | ok r =>
    have works (i : Interface) : i.startWorker c (i.newSession c r) h₂ = .ok (i.newSession c r) h₂ := by
      rw [Interface.startWorker, polls]
      rfl
    dsimp only at run
    rw [bind_ok (attempt_ok (works _))] at run
    obtain ⟨same, -⟩ := EStateM.Result.ok.inj run
    exact ⟨r, (Prod.mk.inj same).1.symm⟩

/-- **`initialised` with `polled` leaves an `Idle` interface.** -/
theorem idle_of_initialised {name : String} {c : Config} {i : Interface} {h h' : Host}
    (polls : c.polled = true) (ready : initialised name c h = .ok i h') : ∃ s, Idle i s c := by
  obtain ⟨i₀, h₀, named, run⟩ := of_bind_ok ready
  obtain ⟨rfl, rfl⟩ := EStateM.Result.ok.inj named
  obtain ⟨⟨i', result⟩, h₁, started, run⟩ := of_bind_ok run
  cases result with
  | error f => exact nomatch run
  | ok _ =>
    obtain ⟨rfl, -⟩ := EStateM.Result.ok.inj run
    obtain ⟨r, rfl⟩ := start_polled polls started
    exact ⟨_, rfl, rfl, rfl, rfl, rfl, rfl⟩

/-- **The shutdown of an `Idle` interface closes the transmit socket**, and does nothing else. -/
theorem shutdown_idle {ε : Type} {i : Interface} {s : Session} {c : Config} (idle : Idle i s c)
    (h : Host) :
    (i.shutdown : HostM ε (Interface × Except Failure Unit)) h =
      .ok ({ i with session? := none }, .ok ())
        ⟨h.kernel.closeSocket s.tx, h.journal.push (.call (.close s.tx))⟩ := by
  obtain ⟨_, _, _, _, _⟩ := i
  obtain ⟨_, _, _, _, _, _, _, ⟨_, _, _⟩, _, _, _⟩ := s
  obtain ⟨rfl, rfl, -, rfl, rfl, rfl⟩ := idle
  rfl

/-! ### The datagram -/

/-- The frame that a text is read as is `filled` with bytes that a datagram of its format has
    room for. -/
theorem exists_filled {text : String} {spec : FrameSpec} (parsed : FrameSpec.parse text = .ok spec) :
    ∃ id flags data, data.length ≤ Dlc.maxLength ∧ (spec.fd = true ∨ data.length ≤ 8) ∧
      spec.frame = Frame.filled id flags data data.length := by
  obtain ⟨said, written, carries, format⟩ := (parse_eq_ok_iff text spec).mp parsed
  have fits : said.payload.length ≤ Dlc.maxLength := carries.length_le
  -- The notation of classic frames allows eight bytes at most.
  have room : spec.fd = true ∨ said.payload.length ≤ 8 := by
    rw [format]
    generalize text.toList = cs at written
    cases written with
    | classic _ _ short => exact .inr short
    | remote _ _        => exact .inr (Nat.zero_le _)
    | fd _ _ _ _        => exact .inl rfl
  let word := identifierWord said.identifier said.extended said.remote
  obtain ⟨f, made⟩ : ∃ f, Frame.make? word said.payload = some f := ⟨_, if_pos fits⟩
  have filled := (Frame.withFlags_of_make? made (UInt8.ofNat said.flags)).2
  have same : spec.frame = f.withFlags (UInt8.ofNat said.flags) :=
    carries.unique ((Frame.make?_eq_some_iff.mp made).2.withFlags _)
  exact ⟨_, _, said.payload, fits, room, same.trans filled⟩

/-- The datagram holds all that the text says: identifier word, flags and payload, with zeros behind
    it where the length of an FD frame is rounded up. -/
structure Carried (spec : FrameSpec) (fd : Bool) (bytes : List UInt8) : Prop where
  length  : bytes.length = if fd then 72 else 16
  id      : (Frame.ofWire bytes).id = spec.frame.id
  flags   : (Frame.ofWire bytes).flags = spec.frame.flags
  payload : ∃ n, (Frame.ofWire bytes).payload = spec.frame.payload ++ List.replicate n 0 ∧
    (fd = false → n = 0)

/-- **The datagram of the frame that a text is read as satisfies `Carried`**, on an interface with
    FD or, for a classic frame, without. -/
theorem carried_datagram {text : String} {spec : FrameSpec} (parsed : FrameSpec.parse text = .ok spec)
    (fd : Bool) :
    Carried spec (spec.fd || fd) (spec.frame.datagram (spec.fd || fd)) := by
  obtain ⟨id, flags, data, fits, room, filled⟩ := exists_filled parsed
  have room : (spec.fd || fd) = true ∨ data.length ≤ 8 :=
    room.imp_left fun format => by rw [format, Bool.true_or]
  have read : Frame.ofWire (spec.frame.datagram (spec.fd || fd)) =
      Frame.filled id flags data (Frame.sentLength (spec.fd || fd) data.length) := by
    rw [filled, Frame.ofWire_datagram room, Frame.prepared_filled fits]
  have data_eq : spec.frame.payload = data := by
    rw [filled, Frame.payload_filled (Nat.le_refl _) fits, Nat.sub_self]
    exact List.append_nil data
  refine ⟨?_, ?_, ?_, ?_⟩
  · rw [Frame.length_datagram, Frame.wireSize]
  · rw [read, filled]
    rfl
  · rw [read, filled]
    rfl
  · refine ⟨Frame.sentLength (spec.fd || fd) data.length - data.length, ?_, fun classic => ?_⟩
    · rw [read, Frame.payload_filled (Frame.le_sentLength fits) (Frame.sentLength_le fits), data_eq]
    · rw [classic]
      exact Nat.sub_self _

/-! ### The command -/

/-- How the command ends after the failure of a repetition, or without one. -/
def endingOf (text : String) : Option Failure → Ending
  | none   => .finished
  | some f => .failed ((Report.ofFailure f).within ("Failed to send " ++ text))

/-- The host after `shutdown_idle`. -/
def closed (s : Session) (h : Host) : Host :=
  ⟨h.kernel.closeSocket s.tx, h.journal.push (.call (.close s.tx))⟩

theorem printed_ok {ε : Type} {action : HostM Report (String × Bool)} {output : String} {h h' : Host}
    (run : action h = .ok (output, true) h') :
    (printed action : HostM ε Printed) h = .ok ⟨output, .finished⟩ h' :=
  bind_ok (attempt_ok run)

theorem printed_error {ε : Type} {action : HostM Report (String × Bool)} {r : Report} {h h' : Host}
    (run : action h = .error r h') : (printed action : HostM ε Printed) h = .ok (.ofReport r) h' :=
  bind_ok (attempt_error run)

/-- `Cli.send` from the run of its repetitions; the transmit socket is closed on both ways out. -/
theorem send_ending {name text : String} {app : Application} {times : Nat} {spec : FrameSpec} {s : Session}
    {c : Config} {h h₁ h₂ : Host} {f? : Option Failure} (parsed : FrameSpec.parse text = .ok spec)
    (ready : initialised name { app.settings with polled := true, fd := spec.fd || app.settings.fd } h =
      .ok i h₁) (idle : Idle i s c)
    (sent : sendAll i spec.frame times times h₁ = match f? with
      | none   => .ok () h₂
      | some e => .error e h₂) :
    (send name app text times : HostM Empty Printed) h = .ok ⟨"", endingOf text f?⟩ (closed s h₂) := by
  have released := shutdown_idle (ε := Report) idle h₂
  unfold send
  rw [parsed]
  -- On success `free` closes the socket, on a failure `orRelease`.
  cases f? with
  | none =>
    have run : within ("Failed to send " ++ text) (sendAll i spec.frame times times) h₁ = .ok () h₂ :=
      orElse_ok sent
    have kept : orRelease i (within ("Failed to send " ++ text) (sendAll i spec.frame times times)) h₁ =
        .ok () h₂ :=
      orElse_ok run
    have freed : free i h₂ = .ok () (closed s h₂) := bind_ok released
    refine printed_ok ((bind_ok ready).trans ?_)
    exact (bind_ok kept).trans (bind_ok freed)
  | some e =>
    let r := (Report.ofFailure e).within ("Failed to send " ++ text)
    have run : within ("Failed to send " ++ text) (sendAll i spec.frame times times) h₁ = .error r h₂ :=
      orElse_error sent
    have lost : orRelease i (within ("Failed to send " ++ text) (sendAll i spec.frame times times)) h₁ =
        .error r (closed s h₂) :=
      (orElse_error run).trans (bind_ok released)
    refine printed_error ((bind_ok ready).trans ?_)
    exact bind_error lost

/-- **A frame is sent as often as it is to be.** Once the interface is initialised, every send
    offers the same datagram, which holds all that the text says. Each repetition tries again while
    the queue is full, at most 1000 times. The command finishes where the kernel took the datagram
    as often as it was to be sent, and fails with the answer of the last send where it did so less
    often. Then the transmit socket is closed. -/
theorem frame_sent_times {name text : String} (app : Application) (times : Nat) {spec : FrameSpec}
    {i : Interface} {h h₁ : Host} (parsed : FrameSpec.parse text = .ok spec)
    (ready : initialised name { app.settings with polled := true, fd := spec.fd || app.settings.fd } h =
      .ok i h₁) :
    ∃ s bytes begun answers f? k h', i.session? = some s ∧
      Carried spec (spec.fd || app.settings.fd) bytes ∧
      (Cli.send name app text times : HostM Empty Printed) h = .ok ⟨"", endingOf text f?⟩ h' ∧
      Answers s.tx bytes answers h₁.kernel k ∧
      Course bytes.length times begun answers f? ∧ Tally bytes.length times begun answers f? ∧
      h'.journal.calls = h₁.journal.calls ++ (answers.map (·.call s.tx bytes) ++ [.close s.tx]) ∧
      h'.kernel = k.closeSocket s.tx := by
  obtain ⟨s, idle⟩ := idle_of_initialised rfl ready
  obtain ⟨begun, answers, f?, h₂, course, answered, calls, sent⟩ :=
    sendAll_cases idle.session spec.frame times times h₁
  rw [idle.config] at course answered calls
  refine ⟨s, _, begun, answers, f?, h₂.kernel, closed s h₂, idle.session,
    carried_datagram parsed app.settings.fd, send_ending parsed ready idle sent, answered, course, course.tally, ?_, rfl⟩
  rw [closed, Journal.calls_push_call, calls, List.append_assoc]

/-- A host where the transmit queue is full at the first try and at the third. -/
def congested : Host where
  kernel  := .start [⟨"vcan0", 1, 16⟩] ⟨[(.send, [Errno.again, 0, Errno.noBuffers])]⟩ []
  journal := #[]

/-- On `congested` two frames go out all the same, each at its second try. -/
theorem frame_sent_twice :
    ∃ (spec : FrameSpec) (i : Interface) (h₁ : Host) (s : Session) (bytes : List UInt8)
      (answers : List Answer) (h' : Host),
      FrameSpec.parse "123#11" = .ok spec ∧
      initialised "vcan0" { Config.default with polled := true } congested = .ok i h₁ ∧
      i.session? = some s ∧ Carried spec false bytes ∧
      (Cli.send "vcan0" .default "123#11" 2 : HostM Empty Printed) congested = .ok ⟨"", .finished⟩ h' ∧
      answers.countP (·.complete bytes.length) = 2 ∧
      h'.journal.calls = h₁.journal.calls ++ (answers.map (·.call s.tx bytes) ++ [.close s.tx]) := by
  have ending : (match (Cli.send "vcan0" .default "123#11" 2 : HostM Empty Printed) congested with
      | .ok p _ => p.ending) = .finished := by decide +kernel
  obtain ⟨spec, parsed, classic⟩ : ∃ spec, FrameSpec.parse "123#11" = .ok spec ∧ spec.fd = false :=
    ⟨_, rfl, rfl⟩
  obtain ⟨i, h₁, ready⟩ :
      ∃ i h₁, initialised "vcan0" { Config.default with polled := true } congested = .ok i h₁ :=
    ⟨_, _, rfl⟩
  obtain ⟨s, bytes, _, answers, f?, _, h', session, carried, run, -, -, tally, calls, -⟩ :=
    frame_sent_times .default 2 parsed (by rw [classic]; exact ready)
  rw [run] at ending
  cases f? with
  | some f => exact nomatch ending
  | none   =>
    rw [classic] at carried
    exact ⟨spec, i, h₁, s, bytes, answers, h', parsed, ready, session, carried, run,
      tally.finished rfl, calls⟩

end Cli

end CanDriver
