import CanDriver.Interface.Lifecycle
import CanDriver.Proofs.Sockets.Handlers

namespace CanDriver

/-!
# The sockets from initialisation to release

* `Session.remains` — the sockets that a worker keeps that nobody waits for: the transmit socket,
  and the receive sockets where the lock is poisoned;
* `Session.release_spec` — a release closes all sockets, except those that such a worker keeps;
* `Session.endDetached_spec` — that worker closes them when it ends;
* `Interface.init_spec`, `Interface.shutdown_spec` — the life of an interface.
-/

open Host

/-- `Steady` for a computation that cannot fail is `Spec`, whatever `bad` is. -/
theorem Steady.sure {α : Type} {e : Estate} {m : HostM Empty α} {P : α → Prop}
    (course : Steady e m P) {bad : Empty → Estate → Prop} :
    Spec e m (fun a e' => e' = e ∧ P a) bad :=
  Spec.mono course (fun _ _ left => left) fun never => never.elim

/-- `Kernel.letGo` moves the held sockets to the detached worker `t`. -/
theorem Spec.letGo {ε : Type} {t : Thread} {fds : List Fd} {ts : List Thread}
    (own : t.sockets = fds) {bad : ε → Estate → Prop} :
    Spec ⟨fds, ts⟩ (Host.modifyKernel (·.letGo t) : HostM ε Unit)
      (fun _ e => e = ⟨[], ts ++ [t]⟩) bad := by
  subst own
  intro h holds
  refine ⟨⟨[], by simp, .of_books rfl⟩, ⟨[], ts ++ [t]⟩, ⟨holds.sound.of_books rfl, ?_, ?_⟩, rfl⟩
  · exact congrArg (· ++ [t]) holds.threads
  · have moved : (⟨[], ts ++ [t]⟩ : Estate).sockets = ts.flatMap Thread.sockets ++ t.sockets := by
      simp [Estate.sockets]
    exact moved ▸ holds.live.trans List.perm_append_comm

/-- `Kernel.forget n` moves the sockets of the detached worker `n` to those held. -/
theorem Spec.forget {ε : Type} {fds : List Fd} {ts : List Thread} {n : Nat} {t : Thread}
    (there : ts[n]? = some t) {bad : ε → Estate → Prop} :
    Spec ⟨fds, ts⟩ (Host.modifyKernel (·.forget n) : HostM ε Unit)
      (fun _ e => e = ⟨t.sockets ++ fds, ts.eraseIdx n⟩) bad := by
  intro h holds
  refine ⟨⟨[], by simp, .of_books rfl⟩, ⟨t.sockets ++ fds, ts.eraseIdx n⟩,
    ⟨holds.sound.of_books rfl, ?_, ?_⟩, rfl⟩
  · exact congrArg (·.eraseIdx n) holds.threads
  · obtain ⟨short, rfl⟩ := List.getElem?_eq_some_iff.mp there
    have apart : (ts.flatMap Thread.sockets).Perm
        (ts[n].sockets ++ (ts.eraseIdx n).flatMap Thread.sockets) := by
      rw [← List.flatMap_cons]
      exact (List.getElem_cons_eraseIdx_perm short).symm.flatMap_right _
    refine holds.live.trans ((apart.append_left fds).trans ?_)
    rw [Estate.sockets, ← List.append_assoc]
    exact List.perm_append_comm.append_right _

namespace Session

section Release

variable {s : Session} {ts : List Thread}

/-- The sockets that a detached worker keeps: the transmit socket and, where the lock is poisoned,
    the receive sockets. -/
def remains (s : Session) : List Fd := s.tx :: if s.poisoned then s.waitSet.rx else []

/-- There is a worker, and the policy is not to wait for it. -/
def Detaches (s : Session) : Prop := s.config.polled = false ∧ s.config.shutdown = .detach

/-- `Session.stopWorker` leaves the estate. The worker goes on only where it `Detaches` and the lock
    is not poisoned by its last poll. -/
theorem stopWorker_steady {e : Estate} (held : s.HeldBy e) :
    Steady e (s.stopWorker : HostM Empty (Session × Bool)) fun r =>
      s.Alike r.1 ∧ (r.2 = true → r.1.poisoned = s.poisoned ∧ s.worker.isSome ∧
        s.config.shutdown = .detach) := by
  -- The worker is woken first, which may poison the lock; the policy decides the rest.
  refine .bind (wake_steady held) fun s₁ one => ?_
  split
  · exact .pure ⟨one.alike, nofun⟩
  · next w runs =>
    simp only
    split
    · next policy =>
      refine .bind .log fun _ _ => ?_
      split
      · exact .pure ⟨one.alike, nofun⟩
      · next goes =>
        refine .bind .fault fun lingers _ => ?_
        have asks : w = .asking := by simpa using goes
        -- Had a handler panicked, the worker would have ended.
        have kept : s₁.poisoned = s.poisoned := by
          refine one.poisoned.resolve_right fun panicked => ?_
          rw [runs, asks] at panicked
          cases panicked
        have employed : s.worker.isSome := by
          rw [← one.alike.worker, runs]
          rfl
        split
        · exact .pure ⟨one.alike, fun _ => ⟨kept, employed, one.alike.config ▸ policy⟩⟩
        · exact .bind .log fun _ _ => .pure ⟨one.alike, nofun⟩
    · have ends : Steady e (do
          if w = .panicked then s₁.sayWorker .error "worker panicked"
          return (s₁, false) : HostM Empty (Session × Bool)) fun r =>
            s.Alike r.1 ∧ (r.2 = true → r.1.poisoned = s.poisoned ∧ s.worker.isSome ∧
              s.config.shutdown = .detach) := by
        split
        · exact .bind .log fun _ _ => .pure ⟨one.alike, nofun⟩
        · exact .pure ⟨one.alike, nofun⟩
      split
      · exact .bind .log fun _ _ => ends
      · exact ends

/-- `Session.clear` closes the receive sockets, unless the lock is poisoned; what it leaves is
    `remains`. -/
theorem clear_spec :
    Spec (s.estate ts) (s.clear : HostM Empty Session)
      (fun s' e => s'.name = s.name ∧ s'.sockets = s.remains ∧ e = ⟨s.remains, ts⟩)
      fun _ _ => False := by
  have taken : Spec (s.estate ts) (attempt s.lock : HostM Empty (Except Failure Unit))
      (fun r e => e = s.estate ts ∧ s.poisoned = !r.isOk) fun _ _ => False :=
    lock_spec.attempt (fun _ _ left => ⟨left.1, left.2⟩) fun _ _ left => ⟨left.1, left.2⟩
  refine taken.bind ?_
  rintro (failure | _) _ ⟨rfl, locked⟩
  · -- The lock is poisoned, and all sockets stay with who holds the session last.
    have all : s.remains = s.sockets := by
      rw [remains, locked]
      rfl
    exact Spec.after .log fun _ _ => .pure ⟨rfl, all.symm, all ▸ rfl⟩
  · -- The receive sockets are closed, and the transmit socket stays.
    have one : s.remains = [s.tx] := by
      rw [remains, locked]
      rfl
    have apart : s.sockets.Perm (s.waitSet.rx ++ [s.tx]) := (List.perm_append_singleton ..).symm
    refine Spec.perm apart (Spec.closeAll.bind ?_)
    rintro _ _ rfl
    exact .pure ⟨rfl, one.symm, one ▸ rfl⟩

variable (coherent : s.Coherent)

include coherent

/-- The wait-set of a coherent session is held by its estate. -/
theorem Coherent.heldBy : s.HeldBy (s.estate ts) := fun _ member =>
  coherent.mem_descriptors.mp member

/-- **`Session.release` closes all sockets**, but for those that a detached worker keeps: its
    `remains`, which are closed by `Session.endDetached`. -/
theorem release_spec :
    Spec (s.estate ts) (s.release : HostM Empty Unit)
      (fun _ e => e = ⟨[], ts⟩ ∨ s.Detaches ∧ e = ⟨[], ts ++ [⟨s.name, s.remains⟩]⟩)
      fun _ _ => False := by
  refine Spec.after (stopWorker_steady coherent.heldBy).sure ?_
  rintro ⟨s₁, goesOn⟩ ⟨alike, lingers⟩
  rw [show s.estate ts = s₁.estate ts by rw [estate, estate, alike.sockets]]
  refine clear_spec.bind ?_
  rintro s₂ _ ⟨name, sockets, rfl⟩
  -- A worker that goes on takes `remains` with it; otherwise that is closed, too.
  split
  · next on =>
    obtain ⟨kept, employed, policy⟩ := lingers on
    have detaches : s.Detaches := by
      have unless_polled := coherent.worker
      rw [employed] at unless_polled
      exact ⟨by simpa using unless_polled.symm, policy⟩
    have same : s₁.remains = s.remains := by
      rw [remains, remains, kept, alike.tx, alike.waitSet]
    refine (Spec.letGo sockets).mono ?_ fun _ _ never => never
    rintro _ _ rfl
    exact .inr ⟨detaches, by rw [name, alike.name, sockets, same]⟩
  · rw [sockets]
    exact Spec.closeEvery.mono (fun _ _ left => .inl left) fun _ _ never => never

end Release

/-- `Session.endDetached n` closes what the detached worker `n` kept, and leaves the
    held sockets. -/
theorem endDetached_spec {fds : List Fd} {ts : List Thread} {n : Nat} :
    Spec ⟨fds, ts⟩ (endDetached n : HostM Empty Bool)
      (fun _ e => ∃ ts', ts'.Sublist ts ∧ e = ⟨fds, ts'⟩) fun _ _ => False := by
  refine Spec.after .ask ?_
  rintro _ ⟨k, rfl, threads⟩
  rw [threads]
  cases there : ts[n]? with
  | none => exact .pure ⟨ts, .refl _, rfl⟩
  | some t =>
    refine (Spec.forget there).bind ?_
    rintro _ _ rfl
    refine Spec.after .log fun _ _ => Spec.closeAll.bind ?_
    rintro _ _ rfl
    exact .pure ⟨ts.eraseIdx n, List.eraseIdx_sublist .., rfl⟩

end Session

/-! ### Interfaces -/

namespace Interface

variable {i i' : Interface} {ts : List Thread}

/-- The sockets of the session; none without one. -/
def sockets (i : Interface) : List Fd := (i.session?.map Session.sockets).getD []

/-- The session, if there is one, is coherent. -/
def Coherent (i : Interface) : Prop := ∀ s, i.session? = some s → s.Coherent

/-- The estate of an interface: its sockets, and the detached workers `ts`. -/
def estate (i : Interface) (ts : List Thread) : Estate := ⟨i.sockets, ts⟩

/-- The detached workers `ts'` behind the session: those from before, and perhaps its own worker
    with `remains`. -/
def Leaves (i : Interface) (ts ts' : List Thread) : Prop :=
  ts' = ts ∨ ∃ s, i.session? = some s ∧ s.Detaches ∧ ts' = ts ++ [⟨s.name, s.remains⟩]

/-- `result` is `.ok ()` exactly where there is a session, which is coherent and has no
    receive socket. -/
structure Started (i : Interface) (result : Except Failure Unit) : Prop where
  coherent : i.Coherent
  fresh    : ∀ s, i.session? = some s → s.waitSet.rx = []
  answer   : result = .ok () ↔ i.session?.isSome

theorem estate_of_session {s : Session} (h : i.session? = some s) : i.estate ts = s.estate ts := by
  rw [estate, sockets, h]
  rfl

theorem estate_of_none (h : i.session? = none) : i.estate ts = ⟨[], ts⟩ := by
  rw [estate, sockets, h]
  rfl

/-- `Interface.named` has no session, and holds nothing. -/
theorem named_spec (name : String) (link : Link) :
    Spec ⟨[], ts⟩ (named name link : HostM Empty Interface)
      (fun i e => i.session? = none ∧ e = ⟨[], ts⟩) fun _ _ => False :=
  Spec.after .log fun _ _ => .pure ⟨rfl, rfl⟩

/-- `Interface.release` holds nothing, and its workers are `Leaves`. -/
theorem release_spec (coherent : i.Coherent) :
    Spec (i.estate ts) (i.release : HostM Empty (Interface × Bool))
      (fun r e => r.1.session? = none ∧ ∃ ts', i.Leaves ts ts' ∧ e = ⟨[], ts'⟩)
      fun _ _ => False := by
  unfold release
  cases h : i.session? with
  | none =>
    rw [estate_of_none h]
    exact .pure ⟨h, ts, .inl rfl, rfl⟩
  | some s =>
    rw [estate_of_session h]
    refine (Session.release_spec (coherent s h)).bind ?_
    -- The worker has ended, or it goes on with what remains.
    rintro _ _ (rfl | ⟨policy, rfl⟩)
    · exact .pure ⟨rfl, ts, .inl rfl, rfl⟩
    · exact .pure ⟨rfl, _, .inr ⟨s, h, policy, rfl⟩, rfl⟩

/-! ### Starting -/

/-- `Link.ask` leaves the estate. -/
theorem ask_steady {e : Estate} (link : Link) (name : String) (r : LinkRequest) :
    Steady e (link.ask name r) fun _ => True := by
  have refused {what : String} {code : ErrorCode} :
      Steady e (Link.refuse name what code) fun _ => True := .bind .log fun _ _ => .throw
  cases link with
  | recorder refusals =>
    refine .bind (.add (.callback _)) fun _ _ => ?_
    split
    · exact .throw
    · exact .pure trivial
  | external =>
    cases r with
    | start => exact .log
    | stop  => exact .pure trivial
    | _     => exact refused

theorem askAll_steady {e : Estate} (link : Link) (name : String) (rs : List LinkRequest) :
    Steady e (link.askAll name rs) fun _ => True := by
  induction rs with
  | nil => exact .pure trivial
  | cons r rs ih => exact .bind (ask_steady link name r) fun _ _ => ih

theorem startLink_steady {e : Estate} {c : Config} : Steady e (i.startLink c) fun _ => True := by
  unfold startLink
  split
  · exact .bind .log fun _ _ => .bind (askAll_steady _ _ _) fun _ _ => ask_steady _ _ _
  · exact ask_steady _ _ _

/-- `Interface.giveUp` closes the transmit socket and fails. -/
theorem giveUp_spec {α : Type} {tx : Fd} {target : Log.Target} {text : String} {code : ErrorCode}
    {errno : Errno} {ok : α → Estate → Prop} :
    Spec ⟨[tx], ts⟩ (giveUp tx target text code errno) ok fun _ e => e = ⟨[], ts⟩ := by
  refine Spec.after .log fun _ _ => Spec.closeSocket.bind ?_
  rintro _ _ rfl
  exact .throw rfl

theorem allocateWorker_spec {c : Config} {tx : Fd} :
    Spec ⟨[tx], ts⟩ (i.allocateWorker c tx) (fun _ e => e = ⟨[tx], ts⟩)
      fun _ e => e = ⟨[], ts⟩ := by
  unfold allocateWorker
  split
  · have allocates : Steady ⟨[tx], ts⟩ wakePipe fun _ => True :=
      .bind .fault fun _ _ => Steady.failWith
    exact Spec.stepOrElse allocates (fun _ _ => rfl) fun _ => giveUp_spec
  · exact .pure rfl

/-- The session of an interface that has started, with its worker where the settings ask for one. -/
def firstSession (i : Interface) (c : Config) (r : Setup.Ready) : Session :=
  { i.newSession c r with worker := if c.polled then none else some .asking }

/-- `firstSession` is coherent: its registry is empty, and its wait-set has the transmit
    socket alone. -/
theorem firstSession_coherent (c : Config) (r : Setup.Ready) : (i.firstSession c r).Coherent where
  distinct := ⟨.nil, .nil, List.nodup_singleton _⟩
  bound    := fun _ member => absurd member List.not_mem_nil
  tx       := rfl
  worker   := by cases polled : c.polled <;> simp [firstSession, newSession, polled]

/-- `Interface.startWorker` answers `firstSession`, or closes the transmit socket and fails. -/
theorem startWorker_spec {c : Config} {r : Setup.Ready} :
    Spec ⟨[r.fd], ts⟩ (i.startWorker c (i.newSession c r))
      (fun s e => s = i.firstSession c r ∧ e = ⟨[r.fd], ts⟩) fun _ e => e = ⟨[], ts⟩ := by
  unfold startWorker
  split
  · next polled => exact .pure ⟨by rw [firstSession, if_pos polled]; rfl, rfl⟩
  · next polled =>
    have spawns : Steady ⟨[r.fd], ts⟩ spawn fun _ => True :=
      .bind .fault fun _ _ => Steady.failWith
    have course : Spec ⟨[r.fd], ts⟩ (orElse spawn (giveUp r.fd .worker
        (i.name ++ ": unable to create thread") .threadCreate)) (fun _ e => e = ⟨[r.fd], ts⟩)
        fun _ e => e = ⟨[], ts⟩ :=
      Spec.stepOrElse spawns (fun _ _ => rfl) fun _ => giveUp_spec
    refine course.bind ?_
    rintro _ _ rfl
    exact Spec.after .log fun _ _ => .pure ⟨by rw [firstSession, if_neg polled], rfl⟩

/-- The stages before there is a session hold the transmit socket, or fail and hold nothing. -/
theorem openSession_spec {c : Config} :
    Spec ⟨[], ts⟩ (do
      i.startLink c
      let r ← Setup.openTx i.name c
      i.allocateWorker c r.fd
      return r) (fun r e => e = ⟨[r.fd], ts⟩) fun _ e => e = ⟨[], ts⟩ := by
  refine Spec.after startLink_steady fun _ _ => Setup.openTx_spec.bind ?_
  rintro r _ rfl
  refine allocateWorker_spec.bind ?_
  rintro _ _ rfl
  exact .pure rfl

/-- `Started` for a failure that leaves no session. -/
theorem Started.of_error {f : Failure} (gone : i.session? = none) : i.Started (.error f) := by
  have nobody : ∀ s, i.session? ≠ some s := by
    intro s there
    rw [gone] at there
    cases there
  refine ⟨fun s there => absurd there (nobody s), fun s there => absurd there (nobody s), ?_⟩
  rw [gone]
  exact ⟨nofun, nofun⟩

/-- `Started` for `firstSession`. -/
theorem Started.of_first {c : Config} {r : Setup.Ready}
    (there : i'.session? = some (i.firstSession c r)) : i'.Started (.ok ()) := by
  refine ⟨?_, ?_, ?_⟩
  · intro s found
    rw [there] at found
    exact Option.some.inj found ▸ firstSession_coherent c r
  · intro s found
    rw [there] at found
    rw [← Option.some.inj found]
    rfl
  · rw [there]
    exact ⟨fun _ => rfl, fun _ => rfl⟩

/-- `Interface.start` without a session ends with `Started`, and holds the transmit socket of the
    new session, if any. -/
theorem start_spec {c : Config} (gone : i.session? = none) :
    Spec ⟨[], ts⟩ (i.start c : HostM Empty (Interface × Except Failure Unit))
      (fun r e => r.1.Started r.2 ∧ e = r.1.estate ts) fun _ _ => False := by
  refine Spec.after .log fun _ _ => openSession_spec.tried.bind ?_
  rintro _ _ (⟨r, rfl, rfl⟩ | ⟨f, rfl, rfl⟩)
  · refine startWorker_spec.tried.bind ?_
    rintro _ _ (⟨_, rfl, rfl, rfl⟩ | ⟨f, rfl, rfl⟩)
    · exact Spec.after .log fun _ _ => .pure ⟨.of_first rfl, rfl⟩
    · exact .pure ⟨.of_error gone, (estate_of_none gone).symm⟩
  · exact .pure ⟨.of_error gone, (estate_of_none gone).symm⟩

/-- `Interface.init` ends with `Started`; the workers of the old session are `Leaves`. -/
theorem init_spec {c : Config} (coherent : i.Coherent) :
    Spec (i.estate ts) (i.init c : HostM Empty (Interface × Except Failure Unit))
      (fun r e => r.1.Started r.2 ∧ ∃ ts', i.Leaves ts ts' ∧ e = r.1.estate ts')
      fun _ _ => False := by
  refine (release_spec coherent).bind ?_
  rintro ⟨i', wasThere⟩ _ ⟨gone, ts', leaves, rfl⟩
  have starts : Spec ⟨[], ts'⟩ (i'.start c : HostM Empty (Interface × Except Failure Unit))
      (fun r e => r.1.Started r.2 ∧ ∃ ts', i.Leaves ts ts' ∧ e = r.1.estate ts')
      fun _ _ => False :=
    (start_spec gone).mono (fun _ _ left => ⟨left.1, ts', leaves, left.2⟩) fun _ _ never => never
  simp only
  split
  · exact Spec.after .log fun _ _ => starts
  · exact starts

/-- `Interface.shutdown` holds nothing, and the workers of the session are `Leaves`. -/
theorem shutdown_spec (coherent : i.Coherent) :
    Spec (i.estate ts) (i.shutdown : HostM Empty (Interface × Except Failure Unit))
      (fun _ e => ∃ ts', i.Leaves ts ts' ∧ e = ⟨[], ts'⟩) fun _ _ => False := by
  refine (release_spec coherent).bind ?_
  rintro ⟨i', wasThere⟩ _ ⟨-, ts', leaves, rfl⟩
  simp only
  split
  · exact .pure ⟨ts', leaves, rfl⟩
  · refine Spec.after (ask_steady _ _ _).attempt.sure fun result _ => ?_
    cases result with
    | ok _    => exact .pure ⟨ts', leaves, rfl⟩
    | error f => exact Spec.after .log fun _ _ => .pure ⟨ts', leaves, rfl⟩

end Interface

end CanDriver
