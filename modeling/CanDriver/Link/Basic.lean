import CanDriver.Host.Basic
import CanDriver.Link.Request

namespace CanDriver.Link

/-!
# Asking the administrator of a link

* `Link.ask link name r` — one request for the link with a name; a refusal has a code;
* `Link.askAll link name rs` — requests in order, up to the first that is refused.
-/

open Host

/-- Logs that the link is managed by somebody else and fails with `code`. -/
def refuse (name what : String) (code : ErrorCode) : HostM Failure Unit := do
  log .error .link (name ++ ": cannot set " ++ what ++ ", link is externally managed")
  throw (.ofCode code)

/-- `0x` and the lower-case digits of a word, as the log shows controller modes. -/
def hexText (w : UInt32) : String :=
  String.ofList ('0' :: 'x' :: Hex.digits .lower w.toNat)

/-- One request. A recorder journals it before it looks into its `Refusals`. For an external link
    every setting is refused, `start` is assumed to be done and `stop` does nothing. -/
def ask (link : Link) (name : String) (r : LinkRequest) : HostM Failure Unit :=
  match link with
  | .recorder refusals => do
    add (.callback (.link r name))
    match refusals.of r with
    | some code => throw (.ofCode code)
    | none      => pure ()
  | .external =>
    match r with
    | .bitrate n     => refuse name ("bitrate " ++ Numeral.text n.toNat) .linkBitrate
    | .dataBitrate n => refuse name ("data bitrate " ++ Numeral.text n.toNat) .linkDataBitrate
    | .restartMs n   => refuse name ("restart-ms " ++ Numeral.text n.toNat) .linkSetRestartMs
    | .ctrlMode m    =>
      refuse name ("ctrl mode " ++ hexText m.mask ++ "/" ++ hexText m.flags) .linkSetCtrlMode
    | .start         => log .debug .link (name ++ ": link assumed up")
    | .stop          => pure ()

/-- `ask` for each request in turn. The first refusal ends it, and the requests behind it are
    never made. -/
def askAll (link : Link) (name : String) : List LinkRequest → HostM Failure Unit
  | []      => pure ()
  | r :: rs => do
    ask link name r
    askAll link name rs

end CanDriver.Link
