import CanDriver.Config.Basic
import CanDriver.Datum
import CanDriver.Toml.Printer

namespace CanDriver

/-!
# Settings as documents

Settings are written as entries by name and read from any self-describing value that has such
entries, or from the list of the values in the same order.

* `Config.settings`, `Config.text?` — the entries in their order, and their printed form;
* `Dialect` — in what two points the sources of such values differ;
* `Config.ofDatum? r d` — the settings in a value; an entry that is missing has its default, other
  entries do not count, and a value of the wrong type or out of range is refused.
-/

/-- The two points in which the sources of a `Datum` differ when a record is read from it. -/
structure Dialect where
  /-- A list that stands for a record may not be longer than the record has fields. -/
  exactItems : Bool
  /-- What may stand behind the word in a table like `{ join = … }`, where the only key names
      a policy. -/
  emptyBody  : Datum → Bool

namespace Dialect

/-- Values straight from a document. Excess items of a list are ignored. -/
def direct : Dialect where
  exactItems := false
  emptyBody  := fun d => d.isEmptyTable || d.isEmptyList

/-- Values that were put aside while the rest of their table was read, as in
    `Application.interfaceOf?`. -/
def buffered : Dialect where
  exactItems := true
  emptyBody  := Datum.isEmptyTable

/-- Values of a data exchange format, which has a null. -/
def exchanged : Dialect where
  exactItems := true
  emptyBody  := Datum.isNull

end Dialect

/-! ### Writing -/

namespace CtrlMode

/-- `mask` and `flags` as the entries of a table. -/
def settings (m : CtrlMode) : List (String × Toml.Scalar) :=
  [("mask", .int m.mask.toNat), ("flags", .int m.flags.toNat)]

end CtrlMode

namespace Config

/-- The keys of a `Config` in the order of its fields; a list of values follows the same order. -/
def keys : List String :=
  ["bitrate", "data_bitrate", "restart_ms", "ctrl_mode", "canfd_enabled", "process_header",
   "hw_timestamp", "error_mask", "polled_mode", "tx_buf_len", "rx_buf_len", "poll_timeout",
   "shutdown"]

/-- The entry for an optional word; an absent one has no entry, since documents have no null. -/
def wordSetting (key : String) : Option UInt32 → List (String × Toml.Setting)
  | none   => []
  | some w => [(key, .scalar (.int w.toNat))]

/-- The table `ctrl_mode`, if controller bits are given. -/
def ctrlModeSetting : Option CtrlMode → List (String × Toml.Setting)
  | none   => []
  | some m => [("ctrl_mode", .table m.settings)]

/-- The entries of a `Config` in the order of `keys`, less the options without a value. -/
def settings (c : Config) : List (String × Toml.Setting) :=
  wordSetting "bitrate" c.bitrate ++ wordSetting "data_bitrate" c.dataBitrate ++
  wordSetting "restart_ms" c.restartMs ++ ctrlModeSetting c.ctrlMode ++
  [("canfd_enabled", .scalar (.bool c.fd)),
   ("process_header", .scalar (.bool c.processHeader)),
   ("hw_timestamp", .scalar (.bool c.hwTimestamp)),
   ("error_mask", .scalar (.int c.errorMask.toNat)),
   ("polled_mode", .scalar (.bool c.polled)),
   ("tx_buf_len", .scalar (.int c.txBuffer)),
   ("rx_buf_len", .scalar (.int c.rxBuffer)),
   ("poll_timeout", .scalar (.int c.pollTimeoutMs)),
   ("shutdown", .scalar (.word c.shutdown.word))]

/-- The document that is printed. It is `none` where a buffer size is too large for the integers of
    documents. -/
def text? (c : Config) : Option String := Toml.render c.settings

end Config

/-! ### Reading -/

namespace Dialect

variable (r : Dialect)

/-- How a record is looked up by key: among the entries of a table, or in a list at the place that
    the key has in `keys`. -/
def fields? (keys : List String) (d : Datum) : Option (String → Option Datum) :=
  match d with
  | .list items =>
    if r.exactItems && decide (keys.length < items.length) then none
    else some fun key => items[keys.findIdx (· = key)]?
  | d => d.entries?.map fun es key => es.lookup key

/-- An integer from zero up to, but without, `bound`. -/
def nat? (bound : Nat) : Datum → Option Nat
  | .int n => if 0 ≤ n ∧ n < bound then some n.toNat else none
  | _      => none

def bool? : Datum → Option Bool
  | .bool b => some b
  | _       => none

def text? : Datum → Option String
  | .text s => some s
  | _       => none

/-- `nat?` for the settings of 32 bits. -/
def word? (d : Datum) : Option UInt32 := (nat? bound32 d).map UInt32.ofNat

/-- `nat?` for buffer sizes, which have 64 bits. -/
def size? (d : Datum) : Option Nat := nat? bound64 d

/-- `nat?` for a count of milliseconds. -/
def millis? (d : Datum) : Option Duration := (nat? bound64 d).map Duration.ofMillis

/-- `none` for a null, else the value that `read` finds. -/
def optional? {α : Type} (read : Datum → Option α) : Datum → Option (Option α)
  | .null => some none
  | d     => (read d).map some

/-- A policy as its word, or as a table whose only key is the word, with `emptyBody` behind it. -/
def policy? : Datum → Option ShutdownPolicy
  | .text s              => ShutdownPolicy.ofWord? s
  | .table [(key, body)] => if r.emptyBody body then ShutdownPolicy.ofWord? key else none
  | _                    => none

/-- Both `mask` and `flags` are needed; neither has a default. -/
def ctrlMode? (d : Datum) : Option CtrlMode := do
  let get ← r.fields? ["mask", "flags"] d
  let mask ← word? (← get "mask")
  let flags ← word? (← get "flags")
  return ⟨mask, flags⟩

/-- The value of `key`: `default` where it is missing, and a refusal where it is there but `read`
    gives nothing. -/
def entry {α : Type} (get : String → Option Datum) (key : String) (default : α)
    (read : Datum → Option α) : Option α :=
  match get key with
  | none   => some default
  | some d => read d

end Dialect

namespace Config

/-- Every key has its own default, that of `Config.default`, so any subset of the keys is a
    `Config`. -/
def ofFields? (r : Dialect) (get : String → Option Datum) : Option Config := do
  let bitrate ← Dialect.entry get "bitrate" none (Dialect.optional? Dialect.word?)
  let dataBitrate ← Dialect.entry get "data_bitrate" none (Dialect.optional? Dialect.word?)
  let restartMs ← Dialect.entry get "restart_ms" none (Dialect.optional? Dialect.word?)
  let ctrlMode ← Dialect.entry get "ctrl_mode" none (Dialect.optional? r.ctrlMode?)
  let fd ← Dialect.entry get "canfd_enabled" false Dialect.bool?
  let processHeader ← Dialect.entry get "process_header" true Dialect.bool?
  let hwTimestamp ← Dialect.entry get "hw_timestamp" false Dialect.bool?
  let errorMask ← Dialect.entry get "error_mask" defaultErrorMask Dialect.word?
  let polled ← Dialect.entry get "polled_mode" false Dialect.bool?
  let txBuffer ← Dialect.entry get "tx_buf_len" 0 Dialect.size?
  let rxBuffer ← Dialect.entry get "rx_buf_len" 0 Dialect.size?
  let pollTimeout ← Dialect.entry get "poll_timeout" defaultPollTimeout Dialect.millis?
  let shutdown ← Dialect.entry get "shutdown" ShutdownPolicy.default r.policy?
  return { bitrate, dataBitrate, restartMs, ctrlMode, fd, processHeader, hwTimestamp, errorMask,
           polled, txBuffer, rxBuffer, pollTimeout, shutdown }

/-- `ofFields?` for a table or for a list in the order of `keys`. -/
def ofDatum? (r : Dialect) (d : Datum) : Option Config := do
  ofFields? r (← r.fields? keys d)

end Config

end CanDriver
