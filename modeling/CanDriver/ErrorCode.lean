namespace CanDriver

/-!
# Error codes

Every failure that the library reports has one of 52 codes, numbered from one:

* `ErrorCode.number` and `ErrorCode.ofNumber?` — the numbering and its inverse;
* `ErrorCode.label` — the name that callers know a code by;
* `ErrorCode.message` — what it means, in words;
* `ErrorCode.lookup? n` — the words for a number, if it has a code.
-/

/-- What failed: the 52 codes of the library, in the order of their numbers. -/
inductive ErrorCode
  | notInitialized
  | interfaceIndex
  | noMemory
  | linkGetState
  | linkStart
  | linkStop
  | linkStateMismatch
  | linkBitrate
  | linkRestart
  | linkSetRestartMs
  | linkGetRestartMs
  | linkRestartMsMismatch
  | linkSetCtrlMode
  | linkGetCtrlMode
  | linkCtrlModeMismatch
  | linkGetDevStats
  | linkSetBitTiming
  | linkGetBitTiming
  | linkBitTimingMismatch
  | linkGetBitErrCnt
  | linkBitrateMismatch
  | linkDataBitrate
  | txSocketCreate
  | txSocketWrite
  | txSocketBind
  | txRetryLater
  | incompleteFrame
  | setRawFilter
  | setErrorFilter
  | setFdFrames
  | setTimestamp
  | setSendBuffer
  | getSendBuffer
  | setReceiveBuffer
  | getReceiveBuffer
  | setDropCounter
  | setNonblocking
  | droppedFrames
  | networkDown
  | linkMtu
  | fdNotSupported
  | pollWait
  | registerErrorHandler
  | errorHandlerKnown
  | errorHandlerUnknown
  | rxHandlerKnown
  | rxHandlerUnknown
  | rxSocketCreate
  | rxSocketBind
  | threadAlloc
  | threadCreate
  | lockPoisoned
  deriving DecidableEq, Repr, Inhabited

namespace ErrorCode

/-- All codes in the order of `number`. -/
def all : List ErrorCode := [
  .notInitialized,
  .interfaceIndex,
  .noMemory,
  .linkGetState,
  .linkStart,
  .linkStop,
  .linkStateMismatch,
  .linkBitrate,
  .linkRestart,
  .linkSetRestartMs,
  .linkGetRestartMs,
  .linkRestartMsMismatch,
  .linkSetCtrlMode,
  .linkGetCtrlMode,
  .linkCtrlModeMismatch,
  .linkGetDevStats,
  .linkSetBitTiming,
  .linkGetBitTiming,
  .linkBitTimingMismatch,
  .linkGetBitErrCnt,
  .linkBitrateMismatch,
  .linkDataBitrate,
  .txSocketCreate,
  .txSocketWrite,
  .txSocketBind,
  .txRetryLater,
  .incompleteFrame,
  .setRawFilter,
  .setErrorFilter,
  .setFdFrames,
  .setTimestamp,
  .setSendBuffer,
  .getSendBuffer,
  .setReceiveBuffer,
  .getReceiveBuffer,
  .setDropCounter,
  .setNonblocking,
  .droppedFrames,
  .networkDown,
  .linkMtu,
  .fdNotSupported,
  .pollWait,
  .registerErrorHandler,
  .errorHandlerKnown,
  .errorHandlerUnknown,
  .rxHandlerKnown,
  .rxHandlerUnknown,
  .rxSocketCreate,
  .rxSocketBind,
  .threadAlloc,
  .threadCreate,
  .lockPoisoned]

/-- The number of a code; that of `notInitialized` is one. -/
def number (c : ErrorCode) : Nat := c.ctorIdx + 1

/-- The code whose `number` is `n`, from `all`. -/
def ofNumber? (n : Int) : Option ErrorCode :=
  if 1 ≤ n then all[(n - 1).toNat]? else none

/-- The name that callers know a code by. -/
def label : ErrorCode → String
  | .notInitialized        => "NullInterface"
  | .interfaceIndex        => "IfrIdx"
  | .noMemory              => "NoMem"
  | .linkGetState          => "NlGetState"
  | .linkStart             => "NlStart"
  | .linkStop              => "NlStop"
  | .linkStateMismatch     => "NlStateMismatch"
  | .linkBitrate           => "NlBitrate"
  | .linkRestart           => "NlRestart"
  | .linkSetRestartMs      => "NlSetRestartMs"
  | .linkGetRestartMs      => "NlGetRestartMs"
  | .linkRestartMsMismatch => "NlRestartMsMismatch"
  | .linkSetCtrlMode       => "NlSetCtrlMode"
  | .linkGetCtrlMode       => "NlGetCtrlMode"
  | .linkCtrlModeMismatch  => "NlCtrlModeMismatch"
  | .linkGetDevStats       => "NlGetDevStats"
  | .linkSetBitTiming      => "NlSetBitTiming"
  | .linkGetBitTiming      => "NlGetBitTiming"
  | .linkBitTimingMismatch => "NlBitTimingMismatch"
  | .linkGetBitErrCnt      => "NlGetBitErrCnt"
  | .linkBitrateMismatch   => "NlBitrateMismatch"
  | .linkDataBitrate       => "NlDataBitrate"
  | .txSocketCreate        => "TxSktCreate"
  | .txSocketWrite         => "TxSktWr"
  | .txSocketBind          => "TxSktBind"
  | .txRetryLater          => "TxRetryLater"
  | .incompleteFrame       => "IncompFrame"
  | .setRawFilter          => "SetsockoptRawFilter"
  | .setErrorFilter        => "SetsockoptErrFilter"
  | .setFdFrames           => "SetsockoptCanfd"
  | .setTimestamp          => "SetsockoptTimestamp"
  | .setSendBuffer         => "SetsockoptSndbuf"
  | .getSendBuffer         => "GetsockoptSndbuf"
  | .setReceiveBuffer      => "SetsockoptRcvbuf"
  | .getReceiveBuffer      => "GetsockoptRcvbuf"
  | .setDropCounter        => "SetsockoptRxqOvfl"
  | .setNonblocking        => "SetNonblocking"
  | .droppedFrames         => "DroppedFrames"
  | .networkDown           => "NetworkDown"
  | .linkMtu               => "Siocgifmtu"
  | .fdNotSupported        => "NotCanfd"
  | .pollWait              => "PollWait"
  | .registerErrorHandler  => "RegErrHandler"
  | .errorHandlerKnown     => "ErrCbAlreadyRegistered"
  | .errorHandlerUnknown   => "ErrCbNotFound"
  | .rxHandlerKnown        => "RxCbAlreadyRegistered"
  | .rxHandlerUnknown      => "RxCbNotFound"
  | .rxSocketCreate        => "RxSktCreate"
  | .rxSocketBind          => "RxSktBind"
  | .threadAlloc           => "ThreadAlloc"
  | .threadCreate          => "ThreadCreate"
  | .lockPoisoned          => "ThreadMutexLock"

/-- What a code means, in words. -/
def message : ErrorCode → String
  | .notInitialized        => "CAN interface is not initialized"
  | .interfaceIndex        => "Interface index error"
  | .noMemory              => "No memory"
  | .linkGetState          => "Get netlink interface state"
  | .linkStart             => "Start interface"
  | .linkStop              => "Stop interface"
  | .linkStateMismatch     => "Netlink state set does not match value read"
  | .linkBitrate           => "Set interface bitrate"
  | .linkRestart           => "Restart interface error"
  | .linkSetRestartMs      => "Set restart ms error"
  | .linkGetRestartMs      => "Get restart ms error"
  | .linkRestartMsMismatch => "Restart ms value set does not match value read"
  | .linkSetCtrlMode       => "Set ctrl mode error"
  | .linkGetCtrlMode       => "Get ctrl mode error"
  | .linkCtrlModeMismatch  => "Ctrl mode value set does not match value read"
  | .linkGetDevStats       => "Get device statistics error"
  | .linkSetBitTiming      => "Set bit timing error"
  | .linkGetBitTiming      => "Get bit timing error"
  | .linkBitTimingMismatch => "Bit timing value set does not match value read"
  | .linkGetBitErrCnt      => "Get bit error counter error"
  | .linkBitrateMismatch   => "Bitrate value set does not match value read"
  | .linkDataBitrate       => "Set interface data bitrate"
  | .txSocketCreate        => "Socket create error"
  | .txSocketWrite         => "Socket write error"
  | .txSocketBind          => "Socket bind error"
  | .txRetryLater          => "TX retry later"
  | .incompleteFrame       => "Incomplete TX frame"
  | .setRawFilter          => "setsockopt CAN_RAW_FILTER error"
  | .setErrorFilter        => "setsockopt CAN_RAW_ERR_FILTER error"
  | .setFdFrames           => "setsockopt CAN_RAW_FD_FRAMES error"
  | .setTimestamp          => "setsockopt SO_TIMESTAMP error"
  | .setSendBuffer         => "setsockopt SO_SNDBUF error"
  | .getSendBuffer         => "getsockopt SO_SNDBUF error"
  | .setReceiveBuffer      => "setsockopt SO_RCVBUF error"
  | .getReceiveBuffer      => "getsockopt SO_RCVBUF error"
  | .setDropCounter        => "setsockopt SO_RXQ_OVFL error"
  | .setNonblocking        => "Unable to set socket non-blocking"
  | .droppedFrames         => "Dropped frames"
  | .networkDown           => "CAN network is down"
  | .linkMtu               => "ioctl SIOCGIFMTU error"
  | .fdNotSupported        => "CAN FD mtu not supported"
  | .pollWait              => "Poll wait error"
  | .registerErrorHandler  => "Unable to register error handler"
  | .errorHandlerKnown     => "Error callback already registered"
  | .errorHandlerUnknown   => "Error callback not found"
  | .rxHandlerKnown        => "RX callback already registered"
  | .rxHandlerUnknown      => "RX callback not found"
  | .rxSocketCreate        => "RX socket create error"
  | .rxSocketBind          => "RX socket bind error"
  | .threadAlloc           => "Unable to allocate thread resources"
  | .threadCreate          => "Unable to create thread"
  | .lockPoisoned          => "Unable to lock thread mutex"

/-- The `message` of the code with the number `n`, if there is one. -/
def lookup? (n : Int) : Option String :=
  (ofNumber? n).map message

end ErrorCode

end CanDriver
