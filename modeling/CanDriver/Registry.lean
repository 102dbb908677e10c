import CanDriver.ErrorCode
import CanDriver.Event

namespace CanDriver

/-!
# Handlers and their registry

* `RxHandler`, `ErrorHandler` — who is called; `Conduct` — which of its calls come back;
* `Registry` — receive handlers by socket and error handlers, both in registration order;
* `socketOf?`, `hasSocket`, `handlersFor` — questions about receive handlers;
* `addRx`, `takeRx`, `removeRx`, `addError`, `removeError` — changes.  A handler and a socket are
  bound at most once each, and an error handler is registered at most once.
-/

/-- Which calls of a handler come back: a handler may return each time, panic each time, or panic at
    some of its calls only. -/
inductive Conduct
  | returns
  | panics
  /-- The calls with these numbers panic, counted from zero, and all others return. -/
  | panicsAt (calls : List Nat)
  deriving DecidableEq, Repr, Inhabited

/-- The call that comes after `call` others of the same handler panics. -/
def Conduct.panicking (call : Nat) : Conduct → Bool
  | .returns        => false
  | .panics         => true
  | .panicsAt calls => calls.contains call

/-- `Conduct.panicsAt` covers every handler: whatever decides which of the first `n` calls panic,
    some `conduct` panics at just those. -/
theorem Conduct.exists_panicking (n : Nat) (f : Nat → Bool) :
    ∃ conduct : Conduct, ∀ call < n, conduct.panicking call = f call := by
  refine ⟨.panicsAt ((List.range n).filter f), fun call below => ?_⟩
  rw [panicking, Bool.eq_iff_iff, List.contains_iff_mem, List.mem_filter, List.mem_range]
  exact and_iff_right below

/-- A handler of the caller for the data frames of one socket; two are the same if `name` and
    `conduct` are. -/
structure RxHandler where
  name    : String
  conduct : Conduct
  deriving DecidableEq, Repr, Inhabited

/-- A handler for the notices of an interface. -/
inductive ErrorHandler
  /-- The logger that `Interface.init` registers. -/
  | standard (label : String)
  /-- A logger that the caller registers, with the same words under a `label` of its own. -/
  | logger (label : String)
  /-- The handler of the command line: it logs `Notice.text` as a warning. -/
  | warner
  /-- A handler of the caller, which leaves nothing in the log. -/
  | observer (name : String) (conduct : Conduct)
  deriving DecidableEq, Repr, Inhabited

/-- The handlers of one interface: `rx` in the order of binding, each with its socket, and `errors`
    in the order of registration. -/
structure Registry where
  rx     : List (Fd × RxHandler)
  errors : List ErrorHandler
  deriving DecidableEq, Repr, Inhabited

namespace Registry

/-- The registry of a new session: no handlers. -/
def empty : Registry := ⟨[], []⟩

/-- The socket that `h` is bound to, by its first entry in `rx`. -/
def socketOf? (h : RxHandler) (r : Registry) : Option Fd :=
  (r.rx.find? fun e => e.2 = h).map (·.1)

/-- Some entry of `rx` binds a handler to `fd`. -/
def hasSocket (fd : Fd) (r : Registry) : Bool :=
  r.rx.any fun e => e.1 = fd

/-- The receive handlers of `fd`, in the order of binding. -/
def handlersFor (fd : Fd) (r : Registry) : List RxHandler :=
  (r.rx.filter fun e => e.1 = fd).map (·.2)

/-- Binds `h` to `fd`; refused with `rxHandlerKnown` if `h` is bound already, or `fd` has
    a handler. -/
def addRx (fd : Fd) (h : RxHandler) (r : Registry) : Except ErrorCode Registry :=
  if (r.socketOf? h).isSome || r.hasSocket fd then .error .rxHandlerKnown
  else .ok { r with rx := r.rx ++ [(fd, h)] }

/-- Hands back the first receive handler of `fd`, and the registry without that entry. -/
def takeRx (fd : Fd) (r : Registry) : Option RxHandler × Registry :=
  ((r.rx.find? fun e => e.1 = fd).map (·.2), { r with rx := r.rx.eraseP fun e => e.1 = fd })

/-- The registry that `takeRx fd` leaves. -/
def removeRx (fd : Fd) (r : Registry) : Registry := (r.takeRx fd).2

/-- Puts `h` behind the error handlers; refused with `errorHandlerKnown` if it is among them. -/
def addError (h : ErrorHandler) (r : Registry) : Except ErrorCode Registry :=
  if r.errors.contains h then .error .errorHandlerKnown
  else .ok { r with errors := r.errors ++ [h] }

/-- Takes `h` out of the error handlers; refused with `errorHandlerUnknown` if it is not
    among them. -/
def removeError (h : ErrorHandler) (r : Registry) : Except ErrorCode Registry :=
  if r.errors.contains h then .ok { r with errors := r.errors.erase h }
  else .error .errorHandlerUnknown

end Registry

end CanDriver
