import CanDriver.Config.Basic
import CanDriver.Session.Basic

namespace CanDriver

/-!
# Interfaces

* `Interface` — name, settings, the administrator of its link, the interval of its worker and,
  once initialised, its session;
* `Interface.named`, `Interface.numbered` — a new one;
* `truncatedName` — the part of a name that the kernel takes, up to the `boundaryFrom?` its last byte;
* `Mode` — whether the caller or a worker polls.
-/

/-- `IFNAMSIZ - 1`: in a request about the link a zero has to follow the name. -/
def maxNameBytes : Nat := nameRoom - 1

/-- The last boundary between characters of `text` at or before a byte. The search goes back byte by
    byte; there is none if it does not end by the start of the text. -/
def boundaryFrom? (text : String) : Nat → Option text.Pos
  | 0     => text.pos? 0
  | n + 1 => text.pos? ⟨n + 1⟩ <|> boundaryFrom? text n

/-- `pos?` finds a position exactly where its byte offset is the one asked for. -/
theorem pos?_eq_some_iff {text : String} {byte : String.Pos.Raw} {p : text.Pos} :
    text.pos? byte = some p ↔ p.offset = byte := by
  unfold String.pos? String.Slice.pos?
  split
  · rw [Option.map_some, Option.some_inj, String.Pos.ext_iff]
    exact eq_comm
  · next invalid =>
    refine ⟨nofun, ?_⟩
    rintro rfl
    exact absurd (String.Pos.Raw.isValidForSlice_eq_true_iff.mpr p.toSlice.isValidForSlice) invalid

/-- The start of a text is a boundary, so the search of `boundaryFrom?` ends there at the latest. -/
theorem isSome_boundaryFrom? (text : String) (n : Nat) : (boundaryFrom? text n).isSome := by
  induction n with
  | zero      => exact Option.isSome_iff_exists.mpr ⟨text.startPos, pos?_eq_some_iff.mpr rfl⟩
  | succ n ih =>
    rw [boundaryFrom?]
    cases text.pos? ⟨n + 1⟩ with
    | none   => exact ih
    | some _ => rfl

/-- `name` itself where it has at most `maxNameBytes` bytes, else its part before the last boundary
    within those bytes. -/
def truncatedName (name : String) : String :=
  if name.utf8ByteSize ≤ maxNameBytes then name
  else
    let cut := (boundaryFrom? name maxNameBytes).get (isSome_boundaryFrom? ..)
    (name.sliceTo cut).copy

/-- Who polls the sockets of an initialised interface. -/
inductive Mode
  /-- The caller alone. -/
  | exclusive
  /-- A worker, which gives the lock to callers that want it. -/
  | shared
  deriving DecidableEq, Repr

/-- How a listing of the interface shows the mode. -/
def Mode.word : Mode → String
  | .exclusive => "Exclusive"
  | .shared    => "Shared"

/-- A handle on one link. All but `session?` survives a release. -/
structure Interface where
  name     : String
  /-- The settings of the last `init`, also of one that failed. -/
  config   : Config
  /-- Who answers the requests for settings of the link. -/
  link     : Link
  /-- How long each wait of the worker lasts, as `keptInterval` rounds it. -/
  interval : Duration
  session? : Option Session

namespace Interface

open Host

variable {ε : Type}

/-- The interval as it is shared with the worker: whole microseconds in 64 bits. -/
def keptInterval (d : Duration) : Duration := .ofMicros d.saturatedMicros

/-- A new interface on the link `truncatedName name`, with default settings and no session. -/
def named (name : String) (link : Link) : HostM ε Interface := do
  let name := truncatedName name
  log .debug .interface ("Requesting " ++ name ++ " interface")
  return { name, config := .default, link, interval := keptInterval Config.default.pollTimeout
           session? := none }

/-- `named` for `can0`, `can1` and so on. -/
def numbered (n : Nat) (link : Link) : HostM ε Interface := named ("can" ++ Numeral.text n) link

/-- The session, or the failure `notInitialized`. -/
def session (i : Interface) : HostM Failure Session :=
  match i.session? with
  | some s => pure s
  | none   => throw (.ofCode .notInitialized)

/-- Runs `action` on the session and keeps the session that it answers. A failure leaves the
    interface as it was. -/
def update {α : Type} (action : Session → HostM Failure (Session × α)) (i : Interface) :
    HostM Failure (Interface × α) := do
  let (s, a) ← action (← i.session)
  return ({ i with session? := some s }, a)

/-- The mode of the session, or `none` before `init`. -/
def mode? (i : Interface) : Option Mode :=
  i.session?.map fun s => if s.config.polled then .exclusive else .shared

/-- Changes the interval of the worker from its next wait on; the wait it is in keeps
    its timeout. -/
def withInterval (d : Duration) (i : Interface) : Interface := { i with interval := keptInterval d }

/-- `Session.dropped`, or zero without a session. -/
def dropped (i : Interface) : UInt32 := (i.session?.map (·.dropped)).getD 0

/-- `Session.txBuffer`, or zero without a session. -/
def txBuffer (i : Interface) : Nat := (i.session?.map (·.txBuffer)).getD 0

/-- `Session.rxBuffer`, or zero without a session. -/
def rxBuffer (i : Interface) : Nat := (i.session?.map (·.rxBuffer)).getD 0

/-- The timeout in milliseconds of the wait that the worker is in. -/
def workerTimeout? (i : Interface) : Option Nat :=
  i.session?.bind fun s =>
    match s.worker with
    | some (.waiting timeout) => some timeout
    | _                       => none

end Interface

end CanDriver
