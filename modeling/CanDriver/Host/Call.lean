import CanDriver.Host.Basic

namespace CanDriver

/-!
# Calling the kernel

Each call takes the next failure scripted for it, records itself and then fails or takes effect:

* `Host.openSocket`, `closeSocket`, `bindSocket` — the life of a socket;
* `Host.interfaceIndex`, `linkMtu` — questions about links;
* `Host.setNonblocking`, `setOption`, `getBuffer` — settings;
* `Host.send`, `wait` — traffic;
* `Host.wakePipe`, `spawn` — what a worker takes; these leave no record;
* `Host.orElse`, `attempt` — another course where a call fails; the failure as a value.
-/

namespace Host

variable {ε : Type}

/-- Fails with `e?` if there is one; the last step of most calls, after `record`. -/
def failWith (e? : Option Errno) : HostM Errno Unit :=
  match e? with
  | some e => throw e
  | none   => pure ()

/-- `socket(2)`. A success and a failure are both recorded, each with its result. -/
def openSocket : HostM Errno Fd := do
  match ← fault .socket with
  | some e =>
    record (.socket (.error e))
    throw e
  | none =>
    let fd ← ask (·.nextFd)
    modifyKernel Kernel.openSocket
    record (.socket (.ok fd))
    return fd

/-- `close(2)`, which never fails here. -/
def closeSocket (fd : Fd) : HostM ε Unit := do
  modifyKernel (·.closeSocket fd)
  record (.close fd)

/-- `if_nametoindex`. A name with a zero byte never reaches the kernel, and only a known number
    tells why the kernel refused. -/
def interfaceIndex (name : String) : HostM Errno UInt32 := do
  if name.toList.contains '\x00' then throw Errno.invalidArgument
  let e? ← fault .interfaceIndex
  record (.interfaceIndex name e?)
  failWith (e?.map Errno.knownOrNone)
  match ← ask (·.link? name) with
  | some link => return link.index
  | none      => throw Errno.noDevice

/-- `fcntl` with `O_NONBLOCK`, after which no read of the socket blocks. -/
def setNonblocking (fd : Fd) : HostM Errno Unit := do
  let e? ← fault .nonblocking
  record (.nonblocking fd e?)
  failWith e?

/-- `SIOCGIFMTU` for the link `name`; `ENODEV` where there is no such link. -/
def linkMtu (fd : Fd) (name : String) : HostM Errno Int := do
  let e? ← fault .linkMtu
  record (.linkMtu fd name e?)
  failWith e?
  match ← ask (·.link? name) with
  | some link => return link.mtu
  | none      => throw Errno.noDevice

/-- `setsockopt`. The call is recorded either way, and changes the socket only where it succeeds. -/
def setOption (fd : Fd) (option : SocketOption) (value : OptionValue) : HostM Errno Unit := do
  let e? ← fault (.set option)
  record (.setOption fd option value e?)
  failWith e?
  modifyKernel (·.modifySocket fd (Kernel.applyOption option value))

/-- `getsockopt` of the buffer that matters for `role`. -/
def getBuffer (fd : Fd) (role : SocketRole) : HostM Errno Nat := do
  let e? ← fault (.get role.bufferOption)
  record (.getOption fd role.bufferOption e?)
  failWith e?
  ask (·.bufferSize fd role)

/-- `bind(2)` to the link with the given index. -/
def bindSocket (fd : Fd) (index : UInt32) : HostM Errno Unit := do
  let e? ← fault .bind
  record (.bind fd index.toInt32 e?)
  failWith e?
  modifyKernel (·.bindSocket fd)

/-- `write(2)`; answers how many bytes were taken, which a script may set below their number. -/
def send (fd : Fd) (bytes : List UInt8) : HostM Errno Nat := do
  let e? ← fault .send
  record (.send fd bytes e?)
  failWith e?
  match ← scripted .sendCount with
  | some n => return n.toNat
  | none   => return bytes.length

/-- `poll(2)`; answers those of `fds` that have something to read. A timeout is never waited out:
    what is not ready now never becomes so. -/
def wait (fds : List Fd) (timeout : Int) : HostM Errno (List Fd) := do
  let e? ← fault .wait
  record (.wait fds timeout e?)
  failWith e?
  let ready ← ask (·.ready fds)
  modifyKernel (·.dropOverrides fds)
  return ready

/-- The pipe that `shutdown` wakes a worker with. It leaves no record, since no later call of the
    model concerns it. -/
def wakePipe : HostM Errno Unit := do failWith (← fault .wakePipe)

/-- The thread that runs a worker; like `wakePipe` it leaves no record. -/
def spawn : HostM Errno Unit := do failWith (← fault .thread)

/-! ### Failures -/

/-- Runs `handle` on the failure of `call`, from the state that the failed call left. -/
def orElse {ε' α : Type} (call : HostM ε α) (handle : ε → HostM ε' α) : HostM ε' α :=
  fun h =>
  match call h with
  | .ok a h    => .ok a h
  | .error e h => handle e h

/-- The answer or the failure of `call` as a value, so the computation goes on after both. -/
def attempt {ε' α : Type} (call : HostM ε α) : HostM ε' (Except ε α) := fun h =>
  match call h with
  | .ok a h    => .ok (.ok a) h
  | .error e h => .ok (.error e) h

section Runs

variable {ε' α : Type} {call : HostM ε α} {h h' : Host}

theorem orElse_ok {handle : ε → HostM ε' α} {a : α} (run : call h = .ok a h') :
    orElse call handle h = .ok a h' := by rw [orElse, run]

theorem orElse_error {handle : ε → HostM ε' α} {e : ε} (run : call h = .error e h') :
    orElse call handle h = handle e h' := by rw [orElse, run]

/-- If `handle` always fails, an answer of `orElse call handle` is the answer of `call`. Most
    handlers do: they log and fail again. -/
theorem of_orElse_ok {handle : ε → HostM ε' α} {a : α}
    (fails : ∀ e h₁ b h₂, handle e h₁ ≠ .ok b h₂) (run : orElse call handle h = .ok a h') :
    call h = .ok a h' := by
  cases first : call h with
  | ok b h₁    =>
    obtain ⟨rfl, rfl⟩ := EStateM.Result.ok.inj ((orElse_ok first).symm.trans run)
    rfl
  | error e h₁ => exact absurd ((orElse_error first).symm.trans run) (fails e h₁ a h')

theorem attempt_ok {a : α} (run : call h = .ok a h') :
    (attempt call : HostM ε' (Except ε α)) h = .ok (.ok a) h' := by rw [attempt, run]

theorem attempt_error {e : ε} (run : call h = .error e h') :
    (attempt call : HostM ε' (Except ε α)) h = .ok (.error e) h' := by rw [attempt, run]

end Runs

end Host

end CanDriver
