import CanDriver.Frame.Filter
import CanDriver.Text.Numeral
import CanDriver.Text.Quoted

namespace CanDriver.Cli

/-!
# Frames and filters on the command line

* `FrameSpec.parse` — `ID#DATA`, `ID#R` and `ID##FDATA`, where `ID` has three or eight digits, `F`
  is the digit of the FD flags and `DATA` are bytes of two digits each with dots anywhere;
* `parseFilter` — `ID:MASK`; an identifier above the standard range stands for extended frames
  only;
* `SpecFault` — why a text is refused, with `message` and `cause?`.
-/

/-- Why a text names no frame or no filter, with the part of the text that is to blame. -/
inductive SpecFault
  | noHash (text : String)
  | identifier (text : String) (fault : Numeral.Fault)
  | identifierLength (text : String)
  | noFlags (text : String)
  | foreignPayload (digits : String)
  | oddPayload (digits : String)
  | payloadByte (pair : String) (fault : Numeral.Fault)
  | longFdPayload (length : Nat)
  | longClassicPayload (length : Nat)
  | noColon (text : String)
  | filterIdentifier (text : String) (fault : Numeral.Fault)
  | filterMask (text : String) (fault : Numeral.Fault)
  deriving DecidableEq, Repr

namespace SpecFault

/-- The line that is shown; most of them quote the part that is to blame. -/
def message : SpecFault → String
  | .noHash t             => "Missing '#' in frame: " ++ Quoted.quote t
  | .identifier t _       => "Invalid CAN identifier: " ++ Quoted.quote t
  | .identifierLength t   => "CAN identifier must be 3 or 8 hex digits: " ++ Quoted.quote t
  | .noFlags t            => "Missing FD flags in frame: " ++ Quoted.quote t
  | .foreignPayload t     => "Non-hex characters in payload: " ++ Quoted.quote t
  | .oddPayload t         => "Odd number of hex digits in payload: " ++ Quoted.quote t
  | .payloadByte t _      => "Invalid payload byte: " ++ Quoted.quote t
  | .longFdPayload n      => "FD payload longer than 64 bytes: " ++ Numeral.text n
  | .longClassicPayload n =>
    "Classic payload longer than 8 bytes: " ++ Numeral.text n ++ " (use ## for FD)"
  | .noColon t            => "Filter must be ID:MASK: " ++ Quoted.quote t
  | .filterIdentifier t _ => "Invalid filter identifier: " ++ Quoted.quote t
  | .filterMask t _       => "Invalid filter mask: " ++ Quoted.quote t

/-- `Numeral.Fault.message` of the number inside, where there is one. -/
def cause? : SpecFault → Option String
  | .identifier _ f | .payloadByte _ f | .filterIdentifier _ f | .filterMask _ f => some f.message
  | _ => none

end SpecFault

/-- The text before and after the first `c`; `none` where `c` does not occur. -/
def splitOnce (c : Char) : List Char → Option (List Char × List Char)
  | [] => none
  | x :: xs =>
    if x = c then some ([], xs)
    else (splitOnce c xs).map fun (before, after) => (x :: before, after)

/-! ### Frames -/

/-- A frame, and whether the link has to be used in FD mode to send it. -/
structure FrameSpec where
  frame : Frame
  fd    : Bool
  deriving DecidableEq

/-- The identifier word of three digits up to `7FF` or eight up to `1FFFFFFF`. A numeral is ASCII
    text, so that its characters are its bytes. -/
def parseIdentifier (cs : List Char) : Except SpecFault UInt32 :=
  match Numeral.read 16 bound32 cs with
  | .error fault => .error (.identifier (String.ofList cs) fault)
  | .ok n =>
    let id := UInt32.ofNat n
    if cs.length = 3 ∧ id ≤ standardMask then .ok id
    else if cs.length = 8 ∧ id ≤ extendedMask then .ok (id ||| extendedFlag)
    else .error (.identifierLength (String.ofList cs))

/-- Two characters a byte, each pair read by `Numeral.read` and so with a leading plus sign if
    it likes. -/
def parseBytes : List Char → Except SpecFault (List UInt8)
  | a :: b :: rest =>
    match Numeral.read 16 256 [a, b] with
    | .error fault => .error (.payloadByte (String.ofList [a, b]) fault)
    | .ok n =>
      match parseBytes rest with
      | .error fault => .error fault
      | .ok bs       => .ok (UInt8.ofNat n :: bs)
  | _ => .ok []

/-- Dots do not count; all else is pairs of digits. -/
def parsePayload (cs : List Char) : Except SpecFault (List UInt8) :=
  let digits := cs.filter (· != '.')
  if digits.any (fun c => 128 ≤ c.toNat) then .error (.foreignPayload (String.ofList digits))
  else if digits.length % 2 ≠ 0 then .error (.oddPayload (String.ofList digits))
  else parseBytes digits

namespace FrameSpec

/-- What follows `ID##`: the digit of the FD flags and the payload, of up to 64 bytes. -/
def parseFd (text : String) (id : UInt32) : List Char → Except SpecFault FrameSpec
  | [] => .error (.noFlags text)
  | c :: cs =>
    match Hex.digitValue? c with
    | none => .error (.noFlags text)
    | some flags =>
      match parsePayload cs with
      | .error fault => .error fault
      | .ok data =>
        match Frame.make? id data with
        | none   => .error (.longFdPayload data.length)
        | some f => .ok ⟨f.withFlags (UInt8.ofNat flags), true⟩

/-- What follows `ID#`: the letter of a remote request, or a payload of up to eight bytes. -/
def parseClassic (id : UInt32) (cs : List Char) : Except SpecFault FrameSpec :=
  if cs = ['r'] ∨ cs = ['R'] then .ok ⟨{ Frame.empty with id := id ||| remoteFlag }, false⟩
  else
    match parsePayload cs with
    | .error fault => .error fault
    | .ok data =>
      if 8 < data.length then .error (.longClassicPayload data.length)
      else match Frame.make? id data with
        | none   => .error (.longClassicPayload data.length)
        | some f => .ok ⟨f, false⟩

/-- `ID#DATA`, `ID#R` or `ID##FDATA`. The identifier is checked before what follows it. -/
def parse (text : String) : Except SpecFault FrameSpec :=
  match splitOnce '#' text.toList with
  | none => .error (.noHash text)
  | some (idText, rest) =>
    match parseIdentifier idText with
    | .error fault => .error fault
    | .ok id =>
      match rest with
      | '#' :: fd => parseFd text id fd
      | classic   => parseClassic id classic

end FrameSpec

/-! ### Filters -/

/-- `ID:MASK`. Both words gain `extendedFlag` when the identifier is above `7FF`. -/
def parseFilter (text : String) : Except SpecFault Filter :=
  match splitOnce ':' text.toList with
  | none => .error (.noColon text)
  | some (idText, maskText) =>
    match Numeral.read 16 bound32 idText with
    | .error fault => .error (.filterIdentifier (String.ofList idText) fault)
    | .ok id =>
      match Numeral.read 16 bound32 maskText with
      | .error fault => .error (.filterMask (String.ofList maskText) fault)
      | .ok mask =>
        let id := UInt32.ofNat id
        let mask := UInt32.ofNat mask
        if standardMask < id then .ok ⟨id ||| extendedFlag, mask ||| extendedFlag⟩
        else .ok ⟨id, mask⟩

end CanDriver.Cli
