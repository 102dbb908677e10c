import CanDriver.Config.Basic
import CanDriver.ErrorCode

namespace CanDriver

/-!
# Requests to the link

Bit rates, restart delay and controller mode belong to the link and not to the sockets on it, so
whoever administers the link is asked for them:

* `LinkRequest` — what can be asked for; `word` and `arguments` — how a request reads;
* `Config.linkRequests` — what settings ask for, in order;
* `Link` — who is asked: somebody else administers the link, or a recorder that refuses by list.
-/

/-- One constructor for each question that the administrator of a link can be asked. -/
inductive LinkRequest
  | bitrate (n : UInt32)
  | dataBitrate (n : UInt32)
  | restartMs (n : UInt32)
  | ctrlMode (mode : CtrlMode)
  | start
  | stop
  deriving DecidableEq, Repr

namespace LinkRequest

/-- The name under which the journal shows a request. -/
def word : LinkRequest → String
  | .bitrate _     => "bitrate"
  | .dataBitrate _ => "data_bitrate"
  | .restartMs _   => "restart_ms"
  | .ctrlMode _    => "ctrl_mode"
  | .start         => "start"
  | .stop          => "stop"

/-- The numbers that the journal shows beside `word`. -/
def arguments : LinkRequest → List UInt32
  | .bitrate n | .dataBitrate n | .restartMs n => [n]
  | .ctrlMode mode                             => [mode.mask, mode.flags]
  | .start | .stop                             => []

end LinkRequest

/-- The settings of the link that are present, in the order bit rate, data bit rate, restart delay,
    controller mode. -/
def Config.linkRequests (c : Config) : List LinkRequest :=
  (c.bitrate.map .bitrate).toList ++ (c.dataBitrate.map .dataBitrate).toList ++
    (c.restartMs.map .restartMs).toList ++ (c.ctrlMode.map .ctrlMode).toList

/-- For each kind of request, the code that a recorder refuses it with, or `none` to grant it. -/
structure Refusals where
  bitrate     : Option ErrorCode
  dataBitrate : Option ErrorCode
  restartMs   : Option ErrorCode
  ctrlMode    : Option ErrorCode
  start       : Option ErrorCode
  stop        : Option ErrorCode
  deriving DecidableEq, Repr, Inhabited

/-- A recorder that grants everything. -/
def Refusals.none : Refusals := ⟨.none, .none, .none, .none, .none, .none⟩

/-- The field of `r` for the kind of a request. The arguments of the request do not matter. -/
def Refusals.of (r : Refusals) : LinkRequest → Option ErrorCode
  | .bitrate _     => r.bitrate
  | .dataBitrate _ => r.dataBitrate
  | .restartMs _   => r.restartMs
  | .ctrlMode _    => r.ctrlMode
  | .start         => r.start
  | .stop          => r.stop

/-- Who answers `LinkRequest`s. -/
inductive Link
  /-- Somebody else administers the link: it counts as up, and no setting can be changed. -/
  | external
  /-- Every request goes to the journal, and is granted unless `refusals` has a code for it. -/
  | recorder (refusals : Refusals)
  deriving DecidableEq, Repr, Inhabited

end CanDriver
