import CanDriver.ErrorCode
import CanDriver.Errno

namespace CanDriver

/-!
# Failures

What a failed operation returns: a code, and the error of the operating system behind it if there
was one.

* `Failure.os c e`, `Failure.ofCode c` — with and without a system error;
* `Failure.message`, `Failure.cause?` — the words for the code and for the system error;
* `Failure.retryLater` — the transmit queue was full, so a later attempt may succeed.
-/

/-- What failed, as an `ErrorCode`, and the `Errno` behind it if a system call refused. -/
structure Failure where
  code  : ErrorCode
  errno : Option Errno
  deriving DecidableEq, Repr, Inhabited

namespace Failure

def os (code : ErrorCode) (e : Errno) : Failure := ⟨code, some e⟩
def ofCode (code : ErrorCode) : Failure := ⟨code, none⟩

/-- The words for the `code` of a failure, `ErrorCode.message`. -/
def message (f : Failure) : String := f.code.message

/-- The words for its `errno`, `Errno.message`, if it has one. -/
def cause? (f : Failure) : Option String := f.errno.map Errno.message

/-- The negated number of the `code`, as a C caller gets it. -/
def returnValue (f : Failure) : Int := -(f.code.number : Int)

/-- The `code` is `txRetryLater`: the transmit queue was full. -/
def retryLater (f : Failure) : Bool := f.code == .txRetryLater

end Failure

end CanDriver
