import CanDriver.Control.Message
import CanDriver.Kernel.Call

namespace CanDriver

/-!
# The kernel

A small deterministic kernel with links, raw sockets, threads and scripted failures.

* `Kernel` — links, failures to come, open sockets and what waits in their queues, and the threads
  that nobody waits for;
* `Point`, `Faults` — the calls that can be made to fail, and the failures scripted for them;
* `Kernel.openSocket`, `closeSocket`, `enqueue`, `applyOption` — what happens to sockets;
* `Kernel.ready fds` — the descriptors that a wait reports, with what it reports of each.
-/

/-- A network interface of the machine: what `if_nametoindex` and `SIOCGIFMTU` answer about it. -/
structure NetworkLink where
  name  : String
  index : UInt32
  mtu   : Int
  deriving DecidableEq, Repr

/-- What one `recvmsg` finds: a datagram with the control messages behind it, or an error. -/
inductive Item
  | datagram (bytes : List UInt8) (controls : List ControlMessage)
  /-- The receive fails with `e` and takes nothing else from the queue. -/
  | failure (e : Errno)
  deriving DecidableEq, Repr

/-- An open raw socket, with its receive queue and the sizes of its two buffers. -/
structure Socket where
  fd            : Fd
  queue         : List Item
  sendBuffer    : Nat
  receiveBuffer : Nat
  /-- What the next wait reports of the socket, where that is not what its queue calls for. -/
  override      : Option Nat
  deriving DecidableEq, Repr

/-! ### Scripted failures -/

/-- The calls whose outcome a script can change. For most of them a number is the `errno` of a
    failure; the constructors with a comment are the exceptions. -/
inductive Point
  | socket
  | interfaceIndex
  | nonblocking
  | linkMtu
  | bind
  | send
  /-- How many bytes a `send` says it took, where it does not fail. -/
  | sendCount
  | wait
  | wakePipe
  | thread
  | workerWait
  /-- Whether the worker is held up before it goes on. -/
  | pause
  /-- Whether a worker that is let go goes on for now. -/
  | lingering
  | set (option : SocketOption)
  | get (option : SocketOption)
  deriving DecidableEq, Repr

/-- For each `Point` the outcomes of its next calls, in order; zero stands for success. -/
structure Faults where
  script : List (Point × List Int)
  deriving DecidableEq, Repr, Inhabited

namespace Faults

/-- Every call succeeds. -/
def none : Faults := ⟨[]⟩

/-- The outcomes scripted for `p`, nearest first; `[]` means that every later call succeeds. -/
def queue (p : Point) (f : Faults) : List Int := (f.script.lookup p).getD []

/-- Replaces the script of `p` by `q`. -/
def set (p : Point) (q : List Int) (f : Faults) : Faults :=
  ⟨(p, q) :: f.script.filter (·.1 ≠ p)⟩

/-- Appends `more` to the script of `p`. -/
def add (p : Point) (more : List Int) (f : Faults) : Faults := f.set p (f.queue p ++ more)

/-- The next outcome of `p`, with the script that is left afterwards. -/
def take (p : Point) (f : Faults) : Option Int × Faults :=
  match f.queue p with
  | []      => (.none, f)
  | e :: es => (some e, f.set p es)

/-- `take` removes the head of the script of `p` and nothing behind it. -/
theorem queue_take {p : Point} {f : Faults} : (f.take p).2.queue p = (f.queue p).tail := by
  unfold take
  cases script : f.queue p with
  | nil       => exact script
  | cons n ns => simp [queue, set]

end Faults

/-! ### The kernel -/

/-- A worker that nobody joins. It owns `sockets` and closes them when it ends. -/
structure Thread where
  name    : String
  sockets : List Fd
  deriving DecidableEq, Repr

/-- The part of the machine that the driver sees. Every answer of the kernel is a function of
    this state. -/
structure Kernel where
  links    : List NetworkLink
  faults   : Faults
  /-- The descriptor that `openSocket` hands out next; it only grows. -/
  nextFd   : Fd
  /-- Open sockets, oldest first. New descriptors are larger than all old ones, so this is also the
      order of the descriptors. -/
  sockets  : List Socket
  /-- Datagrams for the first socket that `bindSocket` binds beside the transmit socket. -/
  traffic  : List Item
  /-- Threads that `letGo` added and `forget` has not yet removed. -/
  detached : List Thread
  deriving DecidableEq, Repr

namespace Kernel

/-- The descriptor that a fresh kernel hands out first. -/
def firstFd : Fd := 100

/-- Both `net.core.rmem_default` and `net.core.rmem_max`: the size of a buffer that nobody asked
    for, and the cap on plain requests. -/
def defaultBuffer : Nat := 212992

/-- No socket is open and no thread detached. -/
def start (links : List NetworkLink) (faults : Faults) (traffic : List Item) : Kernel where
  links    := links
  faults   := faults
  nextFd   := firstFd
  sockets  := []
  traffic  := traffic
  detached := []

/-- The open socket with the descriptor `fd`, or `none` after it was closed. -/
def socket? (fd : Fd) (k : Kernel) : Option Socket := k.sockets.find? (·.fd = fd)

/-- The descriptors of `sockets`, in the same order. -/
def openFds (k : Kernel) : List Fd := k.sockets.map (·.fd)

/-- Applies `change` to the open socket `fd`; without such a socket nothing happens. -/
def modifySocket (fd : Fd) (change : Socket → Socket) (k : Kernel) : Kernel :=
  { k with sockets := k.sockets.map fun s => if s.fd = fd then change s else s }

/-- Appends a socket with the descriptor `nextFd`, an empty queue and default buffers. -/
def openSocket (k : Kernel) : Kernel :=
  { k with
    nextFd  := k.nextFd + 1
    sockets := k.sockets ++
      [{ fd := k.nextFd, queue := [], sendBuffer := defaultBuffer, receiveBuffer := defaultBuffer,
         override := none }] }

/-- Removes the socket `fd` with what is left in its queue. -/
def closeSocket (fd : Fd) (k : Kernel) : Kernel :=
  { k with sockets := k.sockets.filter (·.fd ≠ fd) }

/-- The receive queue of `fd`; a descriptor that is not open has none. -/
def queue (fd : Fd) (k : Kernel) : List Item :=
  match k.socket? fd with
  | some s => s.queue
  | none   => []

/-- Replaces the receive queue of `fd`. -/
def setQueue (fd : Fd) (q : List Item) (k : Kernel) : Kernel :=
  k.modifySocket fd fun s => { s with queue := q }

/-- `modifySocket fd change` is seen through `socket?` at `fd` and nowhere else, as long as `change`
    leaves the descriptor alone. -/
theorem socket?_modifySocket {fd fd' : Fd} {change : Socket → Socket} {k : Kernel}
    (keeps : ∀ s, (change s).fd = s.fd) :
    (k.modifySocket fd change).socket? fd' =
      (k.socket? fd').map fun s => if fd' = fd then change s else s := by
  have same : ∀ s : Socket, (if s.fd = fd then change s else s).fd = s.fd := by
    intro s
    split
    · exact keeps s
    · rfl
  unfold socket? modifySocket
  rw [List.find?_map]
  have found : ((fun s : Socket => decide (s.fd = fd')) ∘ fun s => if s.fd = fd then change s else s) =
      fun s => decide (s.fd = fd') := by
    funext s
    simp only [Function.comp_apply, same]
  rw [found]
  cases hs : k.sockets.find? fun s => decide (s.fd = fd') with
  | none => rfl
  | some s =>
    have hfd : s.fd = fd' := by simpa using List.find?_some hs
    simp only [Option.map_some, hfd]

/-- `setQueue` takes effect only where the socket is open. -/
theorem queue_setQueue {fd fd' : Fd} {q : List Item} {k : Kernel} :
    (k.setQueue fd q).queue fd' =
      if fd' = fd ∧ (k.socket? fd).isSome then q else k.queue fd' := by
  have found : (k.setQueue fd q).socket? fd' =
      (k.socket? fd').map fun s => if fd' = fd then { s with queue := q } else s :=
    socket?_modifySocket fun _ => rfl
  unfold queue
  rw [found]
  by_cases h : fd' = fd
  · subst h
    cases k.socket? fd' <;> simp
  · cases k.socket? fd' <;> simp [h]

/-- Keeping a `part` of a queue needs no case for a closed socket: its queue is `[]`, and of that
    `part` leaves nothing. -/
theorem queue_setQueue_map (part : List Item → List Item) (none_of_none : part [] = []) {fd fd' : Fd}
    {k : Kernel} :
    (k.setQueue fd (part (k.queue fd))).queue fd' =
      if fd' = fd then part (k.queue fd) else k.queue fd' := by
  rw [queue_setQueue]
  by_cases same : fd' = fd
  · subst same
    cases there : k.socket? fd' with
    | none   => simp [queue, there, none_of_none]
    | some _ => simp
  · simp [same]

/-- One more item behind those in the queue of `fd`. -/
def enqueue (fd : Fd) (item : Item) (k : Kernel) : Kernel :=
  k.modifySocket fd fun s => { s with queue := s.queue ++ [item] }

/-- The head of the script of `p`, unless it is the zero that stands for success. -/
def nextFault (p : Point) (k : Kernel) : Option Errno := (k.faults.take p).1.filter (· ≠ 0)

/-- What `SO_SNDBUF` makes of a request: twice the size, and never below 2048 bytes. -/
def granted (requested : Nat) : Nat := Max.max 2048 (2 * min requested 0x3FFFFFFF)

/-- The effect of `setsockopt` on the socket. Plain requests for a buffer are capped at
    `defaultBuffer` and forced ones are not; all other options leave no trace here. -/
def applyOption (option : SocketOption) (value : OptionValue) (s : Socket) : Socket :=
  match option, value with
  | .sendBuffer, .word n          => { s with sendBuffer := granted (min n defaultBuffer) }
  | .forcedSendBuffer, .word n    => { s with sendBuffer := granted n }
  | .receiveBuffer, .word n       => { s with receiveBuffer := granted (min n defaultBuffer) }
  | .forcedReceiveBuffer, .word n => { s with receiveBuffer := granted n }
  | _, _                          => s

/-- What `getsockopt` reads back of the buffer that `role` cares about. -/
def bufferSize (fd : Fd) (role : SocketRole) (k : Kernel) : Nat :=
  match k.socket? fd, role with
  | some s, .transmit => s.sendBuffer
  | some s, .receive  => s.receiveBuffer
  | none, _           => 0

/-- Binding hands the pending `traffic` to the first socket that is not `firstFd`, which is the
    transmit socket. -/
def bindSocket (fd : Fd) (k : Kernel) : Kernel :=
  if fd = firstFd then k
  else
    { k.modifySocket fd fun s => { s with queue := s.queue ++ k.traffic } with traffic := [] }

/-- A detached thread joins the list at its end. -/
def letGo (t : Thread) (k : Kernel) : Kernel := { k with detached := k.detached ++ [t] }

/-- The `n`-th detached thread has ended. -/
def forget (n : Nat) (k : Kernel) : Kernel := { k with detached := k.detached.eraseIdx n }

def link? (name : String) (k : Kernel) : Option NetworkLink := k.links.find? (·.name = name)

/-! ### Readiness -/

/-- `POLLIN`. -/
def pollIn : Nat := 1
/-- `POLLIN | POLLERR | POLLHUP`, any of which makes the driver read. -/
def readable : Nat := 1 ||| 8 ||| 16
/-- `POLLNVAL`, the answer for a descriptor that is not open. -/
def pollInvalid : Nat := 32

/-- The `revents` of `fd`: its `override` if it has one, else `pollIn` where the queue holds
    something. -/
def report (fd : Fd) (k : Kernel) : Nat :=
  match k.socket? fd with
  | none   => pollInvalid
  | some s => s.override.getD (if s.queue.isEmpty then 0 else pollIn)

/-- One wait uses up the overrides of the descriptors it was for. -/
def dropOverrides (fds : List Fd) (k : Kernel) : Kernel :=
  { k with sockets := k.sockets.map fun s =>
      if fds.contains s.fd then { s with override := none } else s }

/-- `dropOverrides` is seen through `socket?` in the field `override` alone. -/
theorem socket?_dropOverrides {fds : List Fd} {fd : Fd} {k : Kernel} :
    (k.dropOverrides fds).socket? fd =
      (k.socket? fd).map fun s => if fds.contains s.fd then { s with override := none } else s := by
  let drop : Socket → Socket := fun s => if fds.contains s.fd then { s with override := none } else s
  have keeps : ∀ s, (drop s).fd = s.fd := by
    intro s
    simp only [drop]
    split <;> rfl
  show (k.dropOverrides fds).socket? fd = (k.socket? fd).map drop
  unfold socket? dropOverrides
  rw [List.find?_map]
  congr 2
  funext s
  simp only [Function.comp_apply]
  rw [show (if fds.contains s.fd then { s with override := none } else s) = drop s from rfl, keeps s]

@[simp] theorem queue_dropOverrides {fds : List Fd} {fd : Fd} {k : Kernel} :
    (k.dropOverrides fds).queue fd = k.queue fd := by
  unfold queue
  rw [socket?_dropOverrides]
  cases k.socket? fd with
  | none   => rfl
  | some s =>
    dsimp only [Option.map_some]
    split <;> rfl

/-- A `poll(2)` for `fds` would return at once. -/
def anyReported (fds : List Fd) (k : Kernel) : Bool := fds.any fun fd => k.report fd ≠ 0

/-- The descriptors among `fds` whose report has a bit of `readable`, in the order of `fds`. -/
def ready (fds : List Fd) (k : Kernel) : List Fd :=
  fds.filter fun fd => k.report fd &&& readable ≠ 0

end Kernel

end CanDriver
