import CanDriver.Setup.Step

namespace CanDriver

/-!
# Setting up sockets

* `Config.txSteps`, `Config.rxSteps filters` — the steps that the settings ask for, in order;
* `Setup.run` — does steps until one fails;
* `Setup.openTx`, `Setup.openRx` — a socket that went through all its steps.  When one fails, the
  socket is closed again.
-/

namespace Config

/-- With `fd`, the link is asked for its MTU before FD frames are enabled. -/
def fdSteps (c : Config) : List Setup.Step := if c.fd then [.fdLink, .fdFrames] else []

/-- No step at all for the size zero. -/
def bufferSteps (size : Nat) : List Setup.Step := if 0 < size then [.buffer size] else []

/-- No step for an empty mask, which is the default of a raw socket. -/
def errorSteps (c : Config) : List Setup.Step :=
  if c.errorMask = 0 then [] else [.errorMask c.errorMask]

/-- With `processHeader`, time stamps of the preferred kind and the drop counter. -/
def headerSteps (c : Config) : List Setup.Step :=
  if c.processHeader then [.timestamps c.hwTimestamp, .dropCounter] else []

/-- The steps of a transmit socket. Its filter list is empty, so it receives no data frames; it is
    bound last. -/
def txSteps (c : Config) : List Setup.Step :=
  [.resolve, .nonblocking] ++ c.fdSteps ++ [.filters []] ++ bufferSteps c.txBuffer ++
    c.errorSteps ++ [.bind]

/-- The steps of a receive socket. Its filters come just before `bind`, so nothing arrives that they
    would not admit. -/
def rxSteps (c : Config) (fs : List Filter) : List Setup.Step :=
  [.nonblocking] ++ c.headerSteps ++ c.fdSteps ++ bufferSteps c.rxBuffer ++ c.errorSteps ++
    [.filters fs, .bind]

end Config

namespace Setup

open Host

/-- A socket that went through all its steps. -/
structure Ready where
  fd      : Fd
  /-- The index of its link. -/
  index   : UInt32
  /-- The size of its buffer as it was read back, zero if none was asked for. -/
  granted : Nat
  deriving DecidableEq, Repr

/-- Performs steps in order and stops at the first that fails; each step sees the `Progress` of
    those before it. -/
def run (s : Subject) : List Step → Progress → HostM Failure Progress
  | [], p => pure p
  | step :: steps, p => do run s steps (← step.perform s p)

/-- A new socket taken through `steps`. When one fails, the socket is closed and its failure
    passed on. -/
def openSocket (name : String) (role : SocketRole) (steps : List Step) (index : UInt32) :
    HostM Failure Ready := do
  let fd ← orElse Host.openSocket
    (refuse name .error ("unable to create " ++ role.word ++ " socket") role.createCode)
  let p ← orElse (run ⟨name, role, fd⟩ steps ⟨index, 0⟩) fun f => do
    closeSocket fd
    throw f
  return ⟨fd, p.index, p.granted⟩

/-- The transmit socket, which finds out the index of the link. -/
def openTx (name : String) (c : Config) : HostM Failure Ready := do
  let r ← openSocket name .transmit c.txSteps 0
  let fd := Numeral.intText r.fd
  log .debug .setup (name ++ ": tx socket ready (fd " ++ fd ++ ")")
  return r

/-- A receive socket on the link `index`, which admits what `fs` admit. -/
def openRx (name : String) (c : Config) (index : UInt32) (fs : List Filter) : HostM Failure Ready := do
  let r ← openSocket name .receive (c.rxSteps fs) index
  let fd := Numeral.intText r.fd
  let count := Numeral.text fs.length
  log .debug .setup (name ++ ": rx socket ready (fd " ++ fd ++ ", " ++ count ++ " filters)")
  return r

end Setup

end CanDriver
