import CanDriver.Config.Document
import CanDriver.Frame.Text
import CanDriver.Interface.Basic

namespace CanDriver.Cli

/-!
# What commands print

* `FrameRecord` — a received frame as it is printed; `FrameRecord.of` — the record of a frame;
* `Listing.row`, `Listing.json` — a record as a line of text or as a JSON object; `Listing.line` — as
  the one or the other;
* `Listing.settings` — what an interface was granted, and its settings.
-/

/-- The fields of a received frame that are printed, in the order of the JSON object. -/
structure FrameRecord where
  timestamp  : String
  /-- The identifier without flag bits. -/
  identifier : UInt32
  extended   : Bool
  remote     : Bool
  length     : Nat
  /-- The payload in upper-case digits. -/
  data       : String
  deriving DecidableEq, Repr

/-- The record of the frame `f` that arrived at `time`; `length` is the raw `len` of the frame. -/
def FrameRecord.of (f : Frame) (time : Instant) : FrameRecord where
  timestamp  := time.text
  identifier := f.identifier
  extended   := f.isExtended
  remote     := f.isRemote
  length     := f.len.toNat
  data       := f.payloadText

namespace Listing

def truth (b : Bool) : String := if b then "true" else "false"

/-- The digits of the identifier: eight for an extended frame, else at least three, as in
    `Frame.text`. -/
def identifier (r : FrameRecord) : String :=
  String.ofList (Hex.padded .upper (if r.extended then 8 else 3) r.identifier.toNat)

/-- Time, link, identifier, length and payload. A remote request has no payload of its own. -/
def row (name : String) (r : FrameRecord) : String :=
  let length := Numeral.text r.length
  let body := if r.remote then "remote request" else r.data
  r.timestamp ++ "  " ++ name ++ "  " ++ identifier r ++ "  [" ++ length ++ "]  " ++ body ++ "\n"

/-- The fields of the record as one JSON object. No text among them has a character that needs
    escaping. -/
def json (r : FrameRecord) : String :=
  "\x7b\"timestamp\":\"" ++ r.timestamp ++
    "\",\"id\":" ++ Numeral.text r.identifier.toNat ++
    ",\"extended\":" ++ truth r.extended ++
    ",\"remote\":" ++ truth r.remote ++
    ",\"len\":" ++ Numeral.text r.length ++
    ",\"data\":\"" ++ r.data ++ "\"\x7d\n"

/-- `json` where objects are asked for, else `row`. -/
def line (name : String) (object : Bool) (r : FrameRecord) : String :=
  if object then json r else row name r

/-- The output of `info`: what the interface was granted, then its settings as a document. -/
def settings (tx : Fd) (i : Interface) : String :=
  "Interface:      " ++ i.name ++ "\n" ++
  "TX socket fd:   " ++ Numeral.intText tx ++ "\n" ++
  "TX buffer:      " ++ Numeral.text i.txBuffer ++ "\n" ++
  "RX buffer:      " ++ Numeral.text i.rxBuffer ++ "\n" ++
  "Poll interval:  " ++ i.interval.text ++ "\n" ++
  "\n[interface]\n" ++ i.config.text?.getD ""

end Listing

end CanDriver.Cli
