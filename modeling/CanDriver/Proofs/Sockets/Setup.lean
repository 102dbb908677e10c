import CanDriver.Proofs.Sockets.Custody
import CanDriver.Setup.Basic

namespace CanDriver

/-!
# Calls and the setup of sockets

* `Spec.openSocket`, `Spec.closeSocket`, `Spec.closeAll` — the estate grows and shrinks;
* calls on a socket that is held leave the estate as it is;
* `Setup.Step.steady` — every step of a setup leaves the estate;
* `Setup.openSocket_spec` — a setup ends with one more socket, or with the estate as it was.
-/

/-- `Kernel.bindSocket` leaves the detached workers. -/
@[simp] theorem Kernel.detached_bindSocket {fd : Fd} {k : Kernel} :
    (k.bindSocket fd).detached = k.detached := by
  unfold bindSocket
  split <;> rfl

open Host

/-! ### Calls that change the estate -/

section Estates

variable {ε α : Type} {fd : Fd} {fds rest : List Fd} {ts : List Thread}

/-- `Spec` for the held sockets in another order. -/
theorem Spec.perm {m : HostM ε α} {ok : α → Estate → Prop} {bad : ε → Estate → Prop}
    (same : fds.Perm rest) (course : Spec ⟨rest, ts⟩ m ok bad) : Spec ⟨fds, ts⟩ m ok bad :=
  fun h holds => course h ⟨holds.sound, holds.threads, holds.live.trans (same.append_right _)⟩

/-- `Host.openSocket` adds one to the held sockets, or fails. -/
theorem Spec.openSocket : Spec ⟨fds, ts⟩ Host.openSocket
    (fun fd e => e = ⟨fd :: fds, ts⟩) fun _ e => e = ⟨fds, ts⟩ := by
  refine Spec.after Spec.fault ?_
  rintro (_ | failure) -
  · intro h holds
    refine ⟨⟨[.call (.socket (.ok h.kernel.nextFd))], by simp, .openSocket holds.sound⟩,
      ⟨h.kernel.nextFd :: fds, ts⟩, ⟨holds.sound.openSocket, holds.threads, ?_⟩, rfl⟩
    have joins : h.kernel.openSocket.openFds = h.kernel.openFds ++ [h.kernel.nextFd] :=
      Kernel.openFds_openSocket
    exact joins ▸ List.perm_append_comm.trans (holds.live.cons _)
  · refine Spec.after (Spec.add ⟨rfl, rfl, fun _ hfd => absurd hfd List.not_mem_nil⟩) fun _ _ => ?_
    exact Spec.throw rfl

/-- `Host.closeSocket` takes one from the held sockets. -/
theorem Spec.closeSocket {bad : ε → Estate → Prop} :
    Spec ⟨fd :: rest, ts⟩ (Host.closeSocket fd : HostM ε Unit) (fun _ e => e = ⟨rest, ts⟩) bad := by
  intro h holds
  have live : fd ∈ h.kernel.openFds := holds.mem_open List.mem_cons_self
  refine ⟨⟨[.call (.close fd)], by simp, .closeSocket live⟩, ⟨rest, ts⟩,
    ⟨holds.sound.closeSocket fd, holds.threads, ?_⟩, rfl⟩
  have left : (h.kernel.closeSocket fd).openFds = h.kernel.openFds.erase fd := by
    rw [Kernel.openFds_closeSocket, filter_ne_eq_erase holds.sound.nodup]
  have balance := holds.live.erase fd
  rw [Estate.sockets, List.cons_append, List.erase_cons_head] at balance
  exact left ▸ balance

/-- Closing `fds` one after the other takes them from the held sockets. -/
theorem Spec.closeAll {bad : ε → Estate → Prop} :
    Spec ⟨fds ++ rest, ts⟩ (fds.forM Host.closeSocket : HostM ε Unit)
      (fun _ e => e = ⟨rest, ts⟩) bad := by
  induction fds with
  | nil => exact Spec.pure rfl
  | cons fd fds ih =>
    change Spec ⟨fd :: (fds ++ rest), ts⟩ (Host.closeSocket fd >>= fun _ => fds.forM _) _ _
    refine Spec.bind Spec.closeSocket ?_
    rintro _ _ rfl
    exact ih

/-- Closing all held sockets leaves none. -/
theorem Spec.closeEvery {bad : ε → Estate → Prop} :
    Spec ⟨fds, ts⟩ (fds.forM Host.closeSocket : HostM ε Unit) (fun _ e => e = ⟨[], ts⟩) bad :=
  Spec.perm (.of_eq (List.append_nil fds).symm) Spec.closeAll

end Estates

/-! ### Calls on a socket that is held -/

namespace Steady

variable {ε : Type} {e : Estate} {fd : Fd}

/-- `Steady` for a call that is recorded and uses held sockets. -/
theorem record {c : KernelCall} (opens : (Effect.call c).opened? = none)
    (closes : (Effect.call c).closed? = none) (used : ∀ fd ∈ c.uses, fd ∈ e.held) :
    Steady e (Host.record c : HostM ε Unit) fun _ => True := Spec.add ⟨opens, closes, used⟩

theorem failWith {e? : Option Errno} : Steady e (Host.failWith e?) fun _ => True := by
  cases e? with
  | none   => exact pure trivial
  | some _ => exact throw

variable (held : fd ∈ e.held)

include held

/-- `Steady` for a call on one held socket, and what follows its record. -/
theorem call {α : Type} {p : Point} {c : Option Errno → KernelCall}
    {rest : Option Errno → HostM Errno α} {P : α → Prop}
    (opens : ∀ e?, (Effect.call (c e?)).opened? = none)
    (closes : ∀ e?, (Effect.call (c e?)).closed? = none) (uses : ∀ e?, (c e?).uses = [fd])
    (course : ∀ e?, Steady e (rest e?) P) :
    Steady e (do let e? ← Host.fault p; Host.record (c e?); rest e?) P := by
  refine bind .fault fun e? _ => bind (record (opens e?) (closes e?) fun fd' hfd' => ?_) fun _ _ =>
    course e?
  rw [uses] at hfd'
  exact List.mem_singleton.mp hfd' ▸ held

theorem setNonblocking : Steady e (Host.setNonblocking fd) fun _ => True :=
  call held (fun _ => rfl) (fun _ => rfl) (fun _ => rfl) fun _ => failWith

theorem linkMtu {name : String} : Steady e (Host.linkMtu fd name) fun _ => True := by
  refine call held (fun _ => rfl) (fun _ => rfl) (fun _ => rfl) fun e? => ?_
  refine bind failWith fun _ _ => bind .ask fun link _ => ?_
  cases link with
  | none   => exact throw
  | some _ => exact pure trivial

theorem setOption {option : SocketOption} {value : OptionValue} :
    Steady e (Host.setOption fd option value) fun _ => True := by
  refine call held (fun _ => rfl) (fun _ => rfl) (fun _ => rfl) fun e? => ?_
  exact bind failWith fun _ _ =>
    Spec.modifyKernel (fun _ => Kernel.books_applyOption) fun _ => rfl

theorem getBuffer {role : SocketRole} : Steady e (Host.getBuffer fd role) fun _ => True := by
  refine call held (fun _ => rfl) (fun _ => rfl) (fun _ => rfl) fun e? => ?_
  exact bind failWith fun _ _ =>
    mono Spec.ask fun _ _ => trivial

theorem bindSocket {index : UInt32} : Steady e (Host.bindSocket fd index) fun _ => True := by
  refine call held (fun _ => rfl) (fun _ => rfl) (fun _ => rfl) fun e? => ?_
  exact bind failWith fun _ _ =>
    Spec.modifyKernel (fun _ => Kernel.books_bindSocket) fun _ => Kernel.detached_bindSocket

theorem send {bytes : List UInt8} : Steady e (Host.send fd bytes) fun _ => True := by
  refine call held (fun _ => rfl) (fun _ => rfl) (fun _ => rfl) fun e? => ?_
  refine bind failWith fun _ _ => bind .scripted fun n? _ => ?_
  cases n? with
  | none   => exact pure trivial
  | some _ => exact pure trivial

omit held

/-- `Host.wait` for held sockets leaves the estate, and reports some of them. -/
theorem wait {fds : List Fd} {timeout : Int} (held : ∀ fd ∈ fds, fd ∈ e.held) :
    Steady e (Host.wait fds timeout) fun ready => ∀ fd ∈ ready, fd ∈ fds := by
  refine bind .fault fun e? _ => bind (record rfl rfl held) fun _ _ => ?_
  refine bind failWith fun _ _ => bind .ask ?_
  rintro _ ⟨k, rfl, -⟩
  refine bind (Spec.modifyKernel (fun _ => Kernel.books_dropOverrides) fun _ => rfl) fun _ _ => ?_
  exact pure fun fd hfd => List.mem_of_mem_filter hfd

theorem interfaceIndex {name : String} :
    Steady e (Host.interfaceIndex name) fun _ => True := by
  unfold Host.interfaceIndex
  split
  · exact throw_bind
  · refine bind .fault fun e? _ => bind (record rfl rfl ?_) fun _ _ => ?_
    · exact fun _ hfd => absurd hfd List.not_mem_nil
    refine bind failWith fun _ _ => bind .ask fun link _ => ?_
    cases link with
    | none   => exact throw
    | some _ => exact pure trivial

end Steady

/-! ### Setting up -/

namespace Setup

variable {e : Estate} {s : Subject}

theorem refuse_steady {α : Type} {name what : String} {level : Log.Level} {code : ErrorCode}
    {failure : Errno} {P : α → Prop} : Steady e (refuse name level what code failure) P :=
  .bind .log fun _ _ => .throw

section Held

variable (held : s.fd ∈ e.held)

include held

theorem negotiate_steady {size : Nat} : Steady e (negotiate s size) fun _ => True := by
  -- What is granted is asked for and logged in the same way, whether the size could be forced or
  -- not.
  have answer (forced : Bool) : Steady e (do
      let granted ← orElse (getBuffer s.fd s.role) fun failure =>
        refuse s.name .error s.role.getBufferCode.message s.role.getBufferCode failure
      let subject := s.name ++ ": " ++ s.role.bufferWord
      let size := Numeral.text granted
      if forced then log .debug .setup (subject ++ " buffer size " ++ size)
      else log .warn .setup (subject ++ " buffer force request refused, best-effort size " ++ size)
      return granted) fun _ => True := by
    refine .bind ((Steady.getBuffer held).orElse fun _ => refuse_steady) fun granted _ => ?_
    cases forced <;> exact .bind .log fun _ _ => .pure trivial
  refine Steady.bind (Steady.setOption held).attempt fun forced _ => ?_
  dsimp only
  split
  · exact .bind ((Steady.setOption held).orElse fun _ => refuse_steady) fun _ _ => answer _
  · exact answer _

theorem requireFdLink_steady : Steady e (requireFdLink s) fun _ => True := by
  refine Steady.bind ((Steady.linkMtu held).orElse fun _ => refuse_steady) fun mtu _ => ?_
  split
  · exact .bind .log fun _ _ => .throw
  · exact .pure trivial

theorem enable_steady {option : SocketOption} {value : OptionValue} {code : ErrorCode} :
    Steady e (enable s option value code) fun _ => True :=
  (Steady.setOption held).orElse fun _ => refuse_steady

/-- `Setup.Step.perform` leaves the estate, where the socket is held. -/
theorem Step.steady (p : Progress) (step : Step) : Steady e (step.perform s p) fun _ => True := by
  -- Every step is a call on the one socket, with a log record where it fails.
  cases step with
  | resolve =>
    exact .bind (Steady.interfaceIndex.orElse fun _ => refuse_steady) fun _ _ => .pure trivial
  | nonblocking =>
    exact .bind ((Steady.setNonblocking held).orElse fun _ => .throw) fun _ _ => .pure trivial
  | fdLink => exact .bind (requireFdLink_steady held) fun _ _ => .pure trivial
  | fdFrames => exact .bind (enable_steady held) fun _ _ => .pure trivial
  | timestamps hardware =>
    exact .bind ((Steady.setOption held).orElse fun _ => refuse_steady) fun _ _ => .pure trivial
  | dropCounter => exact .bind (enable_steady held) fun _ _ => .pure trivial
  | buffer size => exact .bind (negotiate_steady held) fun _ _ => .pure trivial
  | errorMask mask => exact .bind (enable_steady held) fun _ _ => .pure trivial
  | filters fs => exact .bind (enable_steady held) fun _ _ => .pure trivial
  | bind =>
    exact .bind ((Steady.bindSocket held).orElse fun _ => refuse_steady) fun _ _ => .pure trivial

/-- `Setup.run` leaves the estate, where the socket is held. -/
theorem run_steady (steps : List Step) (p : Progress) : Steady e (run s steps p) fun _ => True := by
  induction steps generalizing p with
  | nil => exact .pure trivial
  | cons step steps ih => exact .bind (Step.steady held p step) fun p _ => ih p

end Held

/-- **`Setup.openSocket` adds one to the held sockets, or fails with the estate as it was**: where a
    step fails, the socket is closed again. -/
theorem openSocket_spec {fds : List Fd} {ts : List Thread} {name : String} {role : SocketRole}
    {steps : List Step} {index : UInt32} :
    Spec ⟨fds, ts⟩ (openSocket name role steps index) (fun r e => e = ⟨r.fd :: fds, ts⟩)
      fun _ e => e = ⟨fds, ts⟩ := by
  refine Spec.bind (Spec.openSocket.orElse ?_) ?_
  · -- No socket was opened, so there is none to close.
    rintro failure _ rfl
    exact Spec.mono (refuse_steady (P := fun _ => False)) (fun _ _ never => never.2.elim)
      fun _ _ same => same
  · rintro fd _ rfl
    refine Spec.bind (Spec.orElse (run_steady List.mem_cons_self steps ⟨index, 0⟩) ?_) ?_
    · -- A step failed, with the new socket first among those that are held.
      rintro failure _ rfl
      refine Spec.bind Spec.closeSocket ?_
      rintro _ _ rfl
      exact Spec.throw rfl
    · rintro p _ ⟨rfl, -⟩
      exact Spec.pure rfl

/-- `Setup.openTx` adds one to the held sockets, or fails with the estate as it was. -/
theorem openTx_spec {fds : List Fd} {ts : List Thread} {name : String} {c : Config} :
    Spec ⟨fds, ts⟩ (openTx name c) (fun r e => e = ⟨r.fd :: fds, ts⟩) fun _ e => e = ⟨fds, ts⟩ := by
  refine Spec.bind openSocket_spec ?_
  rintro r _ rfl
  exact Spec.after Spec.log fun _ _ => Spec.pure rfl

/-- `Setup.openRx` adds one to the held sockets, or fails with the estate as it was. -/
theorem openRx_spec {fds : List Fd} {ts : List Thread} {name : String} {c : Config}
    {index : UInt32} {fs : List Filter} :
    Spec ⟨fds, ts⟩ (openRx name c index fs) (fun r e => e = ⟨r.fd :: fds, ts⟩)
      fun _ e => e = ⟨fds, ts⟩ := by
  refine Spec.bind openSocket_spec ?_
  rintro r _ rfl
  exact Spec.after Spec.log fun _ _ => Spec.pure rfl

end Setup

end CanDriver
