import CanDriver.Kernel.Call
import CanDriver.Link.Request
import CanDriver.Log
import CanDriver.Registry

namespace CanDriver

/-!
# What happened

* `Callback` — a call of a handler, or a request recorded by the administrator of a link;
* `Effect` — a kernel call, a callback, a log record or a wait of the worker;
* `Journal` — all effects in order, with the views `calls`, `callbacks` and `records`.
-/

/-- A call out of the library: of an `RxHandler`, of an `ErrorHandler`, or of the recorder of
    a `Link`. -/
inductive Callback
  /-- `handler` gets `frame`, which was read from the socket `origin` at `time`. -/
  | frame (handler : RxHandler) (origin : Fd) (frame : Frame) (time : Instant)
  | notice (handler : ErrorHandler) (notice : Notice)
  | link (request : LinkRequest) (name : String)
  deriving DecidableEq

/-- One thing that an operation does, in the order in which it does it. -/
inductive Effect
  | call (call : KernelCall)
  | callback (callback : Callback)
  | record (record : Log.Record)
  /-- The worker starts to wait for `fds`, for `timeout` milliseconds at most. Its waits are not
      among the recorded calls. -/
  | watch (fds : List Fd) (timeout : Int)

namespace Effect

/-- The `KernelCall` that the effect is, if it is one. -/
def call? : Effect → Option KernelCall
  | .call c => some c
  | _       => none

/-- The `Callback` that the effect is, if it is one. -/
def callback? : Effect → Option Callback
  | .callback c => some c
  | _           => none

/-- The `Log.Record` that the effect is, if it is one. -/
def record? : Effect → Option Log.Record
  | .record r => some r
  | _         => none

/-- Among effects that are log records there is no `Callback`. -/
@[simp] theorem callbacks_records (rs : List Log.Record) :
    (rs.map record).filterMap callback? = [] := by
  rw [List.filterMap_map]
  exact List.filterMap_eq_nil_iff.mpr fun _ _ => rfl

end Effect

/-- All effects since the start of a run, in order. -/
abbrev Journal := Array Effect

namespace Journal

/-- The kernel calls of a journal, by `Effect.call?`. -/
def calls (j : Journal) : List KernelCall := j.toList.filterMap Effect.call?

/-- The callbacks of a journal, by `Effect.callback?`. -/
def callbacks (j : Journal) : List Callback := j.toList.filterMap Effect.callback?

/-- The log records of a journal, by `Effect.record?`. -/
def records (j : Journal) : List Log.Record := j.toList.filterMap Effect.record?

@[simp] theorem calls_append (j : Journal) (es : List Effect) :
    calls (j ++ es) = calls j ++ es.filterMap Effect.call? := by
  simp [calls]

/-- `calls` does not see an effect without `call?`. -/
theorem calls_push_silent {e : Effect} (silent : e.call? = none) (j : Journal) :
    calls (j.push e) = calls j := by
  simp [calls, silent]

/-- `calls` ends with the kernel call that is pushed. -/
theorem calls_push_call (c : KernelCall) (j : Journal) : calls (j.push (.call c)) = calls j ++ [c] := by
  simp [calls, Effect.call?]

@[simp] theorem callbacks_append (j : Journal) (es : List Effect) :
    callbacks (j ++ es) = callbacks j ++ es.filterMap Effect.callback? := by
  simp [callbacks]

@[simp] theorem callbacks_push (j : Journal) (e : Effect) :
    callbacks (j.push e) = callbacks j ++ e.callback?.toList := by
  cases h : e.callback? <;> simp [callbacks, h]

/-- `callbacks` does not see an effect without `callback?`. -/
theorem callbacks_push_silent {e : Effect} (silent : e.callback? = none) (j : Journal) :
    callbacks (j.push e) = callbacks j := by
  rw [callbacks_push, silent]
  exact List.append_nil _

end Journal

end CanDriver
