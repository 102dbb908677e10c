import CanDriver.Config.Application
import CanDriver.Proofs.Documents.RoundTrip

namespace CanDriver

/-!
# Settings that are left out

The printed settings are read back, and where entries are left out their defaults stand in for them.

* `Config.Fits` — the settings whose numbers a document can hold; `Config.wellFormed` — those can be
  printed;
* `Config.retaining kept c` — the settings `c` under the keys that are kept, else the defaults;
* `Config.read_retaining` — what is read of the entries that are kept.
-/

namespace Config

open Toml

/-- A document can hold the three settings that have more than 32 bits: its integers have 64 bits
    with a sign. -/
structure Fits (c : Config) : Prop where
  txBuffer    : c.txBuffer ≤ maxInt64
  rxBuffer    : c.rxBuffer ≤ maxInt64
  pollTimeout : c.pollTimeout.wholeMillis ≤ maxInt64

/-- The settings of `c` under the keys that are `kept` and the defaults under the others. The poll
    timeout loses what is below a millisecond. -/
def retaining (kept : String → Bool) (c : Config) : Config where
  bitrate       := if kept "bitrate" then c.bitrate else Config.default.bitrate
  dataBitrate   := if kept "data_bitrate" then c.dataBitrate else Config.default.dataBitrate
  restartMs     := if kept "restart_ms" then c.restartMs else Config.default.restartMs
  ctrlMode      := if kept "ctrl_mode" then c.ctrlMode else Config.default.ctrlMode
  fd            := if kept "canfd_enabled" then c.fd else Config.default.fd
  processHeader := if kept "process_header" then c.processHeader else Config.default.processHeader
  hwTimestamp   := if kept "hw_timestamp" then c.hwTimestamp else Config.default.hwTimestamp
  errorMask     := if kept "error_mask" then c.errorMask else Config.default.errorMask
  polled        := if kept "polled_mode" then c.polled else Config.default.polled
  txBuffer      := if kept "tx_buf_len" then c.txBuffer else Config.default.txBuffer
  rxBuffer      := if kept "rx_buf_len" then c.rxBuffer else Config.default.rxBuffer
  pollTimeout   := if kept "poll_timeout" then Duration.ofMillis c.pollTimeout.wholeMillis
    else Config.default.pollTimeout
  shutdown      := if kept "shutdown" then c.shutdown else Config.default.shutdown

example (c : Config) : c.retaining (fun _ => false) = Config.default := rfl

example (c : Config) : c.retaining (fun _ => true) =
    { c with pollTimeout := Duration.ofMillis c.pollTimeout.wholeMillis } := rfl

/-! ### Printing -/

theorem keys_wordSetting (key : String) (o : Option UInt32) :
    ((wordSetting key o).map Prod.fst).Sublist [key] := by
  cases o with
  | none   => exact List.nil_sublist _
  | some w => exact List.Sublist.refl _

theorem keys_ctrlModeSetting (o : Option CtrlMode) :
    ((ctrlModeSetting o).map Prod.fst).Sublist ["ctrl_mode"] := by
  cases o with
  | none   => exact List.nil_sublist _
  | some m => exact List.Sublist.refl _

/-- The keys that `c.settings` writes are among `keys`, in the same order and so each at
    most once. -/
theorem keys_settings (c : Config) : (c.settings.map Prod.fst).Sublist keys := by
  have options := (((keys_wordSetting "bitrate" c.bitrate).append
    (keys_wordSetting "data_bitrate" c.dataBitrate)).append
      (keys_wordSetting "restart_ms" c.restartMs)).append (keys_ctrlModeSetting c.ctrlMode)
  have all := options.append (List.Sublist.refl ["canfd_enabled", "process_header", "hw_timestamp",
    "error_mask", "polled_mode", "tx_buf_len", "rx_buf_len", "poll_timeout", "shutdown"])
  simpa [settings, keys] using all

/-- A word of 32 bits is below `maxInteger`. -/
theorem word_printable (w : UInt32) : (Scalar.int w.toNat).Printable := by
  have small : w.toNat < bound32 := w.toNat_lt
  exact Nat.le_trans (Nat.le_of_lt small) (by decide)

theorem pollTimeoutMs_eq {c : Config} (fits : c.Fits) : c.pollTimeoutMs = c.pollTimeout.wholeMillis := by
  exact Nat.mod_eq_of_lt (Nat.lt_of_le_of_lt fits.pollTimeout (by decide))

theorem wordSetting_formed (key : String) (o : Option UInt32) : ∀ e ∈ wordSetting key o, e.2.Formed := by
  cases o with
  | none   => simp [wordSetting]
  | some w =>
    rw [wordSetting, List.forall_mem_singleton]
    exact word_printable w

theorem ctrlModeSetting_formed (o : Option CtrlMode) : ∀ e ∈ ctrlModeSetting o, e.2.Formed := by
  cases o with
  | none   => simp [ctrlModeSetting]
  | some m =>
    rw [ctrlModeSetting, List.forall_mem_singleton]
    refine ⟨by simp [CtrlMode.settings], ?_, ?_⟩
    · simp only [CtrlMode.settings, List.forall_mem_cons]
      exact ⟨by decide, by decide, by simp⟩
    · simp only [CtrlMode.settings, List.forall_mem_cons]
      exact ⟨word_printable m.mask, word_printable m.flags, by simp⟩

/-- `c.settings` satisfies `WellFormed`, the hypothesis of reading documents back. -/
theorem wellFormed {c : Config} (fits : c.Fits) : WellFormed c.settings where
  -- Options leave keys out, and what is left of distinct keys is distinct.
  nodup := (keys_settings c).nodup (by decide)
  bare := by
    have known : ∀ key ∈ keys, Bare key := by decide
    intro e mem
    exact known e.1 ((keys_settings c).subset (List.mem_map_of_mem mem))
  formed := by
    have word := wordSetting_formed
    have policy : (Scalar.word c.shutdown.word).Printable := by
      cases c.shutdown <;> decide
    have poll : c.pollTimeoutMs ≤ maxInt64 := pollTimeoutMs_eq fits ▸ fits.pollTimeout
    simp only [settings, List.forall_mem_append, List.forall_mem_cons]
    exact ⟨⟨⟨⟨word _ _, word _ _⟩, word _ _⟩, ctrlModeSetting_formed _⟩, trivial, trivial, trivial,
      word_printable c.errorMask, trivial, fits.txBuffer, fits.rxBuffer, poll, policy, by simp⟩

/-! ### Reading -/

theorem lookup_filter {β : Type} (kept : String → Bool) (key : String) (es : List (String × β)) :
    (es.filter fun e => kept e.1).lookup key = if kept key then es.lookup key else none := by
  induction es with
  | nil => simp
  | cons e es ih =>
    obtain ⟨name, v⟩ := e
    by_cases same : key = name
    · subst same
      cases keep : kept key <;> simp [keep, ih]
    · have other : (key == name) = false := by simpa using same
      cases keep : kept name <;> simp [keep, List.lookup_cons, other, ih]

/-- What a setting of 32 bits is read as. -/
def wordDatum (w : UInt32) : Datum := .int w.toNat

/-- What controller bits are read as. -/
def ctrlModeDatum (m : CtrlMode) : Datum := .table (datums m.settings)

theorem lookup_wordSetting (key name : String) (o : Option UInt32) :
    (wordSetting name o).lookup key =
      if key = name then o.map fun w => .scalar (.int w.toNat) else none := by
  cases o with
  | none   => simp [wordSetting]
  | some w =>
    by_cases same : key = name
    · simp [wordSetting, same]
    · have other : (key == name) = false := by simpa using same
      simp [wordSetting, List.lookup_cons, other, same]

theorem lookup_ctrlModeSetting (key : String) (o : Option CtrlMode) :
    (ctrlModeSetting o).lookup key =
      if key = "ctrl_mode" then o.map fun m => .table m.settings else none := by
  cases o with
  | none   => simp [ctrlModeSetting]
  | some m =>
    by_cases same : key = "ctrl_mode"
    · simp [ctrlModeSetting, same]
    · have other : (key == "ctrl_mode") = false := by simpa using same
      simp [ctrlModeSetting, List.lookup_cons, other, same]

/-- What stands under `key` in the document that `c` prints as. -/
def datum? (c : Config) (key : String) : Option Datum := (c.settings.lookup key).map Setting.datum

theorem datum?_eq (c : Config) :
    c.datum? "bitrate" = c.bitrate.map wordDatum ∧
    c.datum? "data_bitrate" = c.dataBitrate.map wordDatum ∧
    c.datum? "restart_ms" = c.restartMs.map wordDatum ∧
    c.datum? "ctrl_mode" = c.ctrlMode.map ctrlModeDatum ∧
    c.datum? "canfd_enabled" = some (.bool c.fd) ∧
    c.datum? "process_header" = some (.bool c.processHeader) ∧
    c.datum? "hw_timestamp" = some (.bool c.hwTimestamp) ∧
    c.datum? "error_mask" = some (wordDatum c.errorMask) ∧
    c.datum? "polled_mode" = some (.bool c.polled) ∧
    c.datum? "tx_buf_len" = some (.int c.txBuffer) ∧
    c.datum? "rx_buf_len" = some (.int c.rxBuffer) ∧
    c.datum? "poll_timeout" = some (.int c.pollTimeoutMs) ∧
    c.datum? "shutdown" = some (.text c.shutdown.word) := by
  refine ⟨?_, ?_, ?_, ?_, ?_, ?_, ?_, ?_, ?_, ?_, ?_, ?_, ?_⟩ <;>
    simp [datum?, settings, List.lookup_append, lookup_wordSetting, lookup_ctrlModeSetting,
      List.lookup_cons, Function.comp_def, Setting.datum, Scalar.datum, wordDatum] <;>
    rfl

/-- `Dialect.entry` for a setting that always has an entry: its value, or the default where the key
    is not kept. -/
theorem entry_eq {α : Type} {get : String → Option Datum} {key : String} {kept : Bool} {d : Datum}
    (found : get key = if kept then some d else none) {default value : α} {read : Datum → Option α}
    (reads : read d = some value) :
    Dialect.entry get key default read = some (if kept then value else default) := by
  cases kept <;> simp [Dialect.entry, found, reads]

/-- `Dialect.entry` for a setting that may be absent, whose default is `none`. -/
theorem option_entry_eq {α : Type} {get : String → Option Datum} {key : String} {kept : Bool} {o : Option α}
    {datum : α → Datum} (found : get key = if kept then o.map datum else none)
    {read : Datum → Option (Option α)} (reads : ∀ value, read (datum value) = some (some value)) :
    Dialect.entry get key none read = some (if kept then o else none) := by
  cases kept <;> cases o <;> simp [Dialect.entry, found, reads]

/-! ### Values -/

theorem nat?_int {bound n : Nat} (small : n < bound) : Dialect.nat? bound (.int n) = some n := by
  have inside : (0 : Int) ≤ n ∧ (n : Int) < bound := by omega
  simp [Dialect.nat?, inside]

theorem word?_wordDatum (w : UInt32) : Dialect.word? (wordDatum w) = some w := by
  have small : w.toNat < bound32 := w.toNat_lt
  have number : Dialect.nat? bound32 (.int w.toNat) = some w.toNat := nat?_int small
  rw [Dialect.word?, wordDatum, number]
  simp

/-- `ctrlMode?` from the words under its two keys. -/
theorem ctrlMode?_eq {r : Dialect} {d mask flags : Datum} {get : String → Option Datum} {first second : UInt32}
    (fields : r.fields? ["mask", "flags"] d = some get) (atMask : get "mask" = some mask)
    (atFlags : get "flags" = some flags) (readMask : Dialect.word? mask = some first)
    (readFlags : Dialect.word? flags = some second) : r.ctrlMode? d = some ⟨first, second⟩ := by
  simp [Dialect.ctrlMode?, fields, atMask, atFlags, readMask, readFlags]

theorem ctrlMode?_ctrlModeDatum (m : CtrlMode) :
    Dialect.direct.ctrlMode? (ctrlModeDatum m) = some m := by
  have fields : Dialect.direct.fields? ["mask", "flags"] (ctrlModeDatum m) =
      some fun key => (datums m.settings).lookup key := rfl
  have mask : (datums m.settings).lookup "mask" = some (wordDatum m.mask) := rfl
  have flags : (datums m.settings).lookup "flags" = some (wordDatum m.flags) := rfl
  exact ctrlMode?_eq fields mask flags (word?_wordDatum _) (word?_wordDatum _)

theorem bool?_bool (b : Bool) : Dialect.bool? (.bool b) = some b := rfl

theorem policy?_text (p : ShutdownPolicy) : Dialect.direct.policy? (.text p.word) = some p := by
  cases p <;> rfl

theorem size?_int {n : Nat} (small : n ≤ maxInt64) : Dialect.size? (.int n) = some n := by
  exact nat?_int (Nat.lt_of_le_of_lt small (by decide))

theorem millis?_int {n : Nat} (small : n ≤ maxInt64) :
    Dialect.millis? (.int n) = some (Duration.ofMillis n) := by
  rw [Dialect.millis?, nat?_int (Nat.lt_of_le_of_lt small (by decide))]
  rfl

/-- `ofFields?` answers `c.retaining kept` when it is given the entries under the keys that
    are kept. -/
theorem ofFields?_eq {c : Config} (fits : c.Fits) {kept : String → Bool} {get : String → Option Datum}
    (found : ∀ key, get key = if kept key then c.datum? key else none) :
    ofFields? Dialect.direct get = some (c.retaining kept) := by
  have word (w : UInt32) : Dialect.optional? Dialect.word? (wordDatum w) = some (some w) := by
    rw [Dialect.optional?, word?_wordDatum]
    · rfl
    · rintro ⟨⟩
  have bits (m : CtrlMode) :
      Dialect.optional? Dialect.direct.ctrlMode? (ctrlModeDatum m) = some (some m) := by
    rw [Dialect.optional?, ctrlMode?_ctrlModeDatum]
    · rfl
    · rintro ⟨⟩
  have millis := millis?_int fits.pollTimeout
  have under {key : String} {o : Option Datum} (value : c.datum? key = o) :
      get key = if kept key then o else none := value ▸ found key
  obtain ⟨bitrate, dataBitrate, restartMs, ctrlMode, fd, processHeader, hwTimestamp, errorMask, polled,
    txBuffer, rxBuffer, pollTimeout, shutdown⟩ := c.datum?_eq
  rw [pollTimeoutMs_eq fits] at pollTimeout
  -- The entries are read one after the other, each by the lemma for its type.
  unfold ofFields?
  rw [option_entry_eq (under bitrate) word, option_entry_eq (under dataBitrate) word,
    option_entry_eq (under restartMs) word, option_entry_eq (under ctrlMode) bits,
    entry_eq (under fd) (bool?_bool _), entry_eq (under processHeader) (bool?_bool _),
    entry_eq (under hwTimestamp) (bool?_bool _),
    entry_eq (under errorMask) (word?_wordDatum _), entry_eq (under polled) (bool?_bool _),
    entry_eq (under txBuffer) (size?_int fits.txBuffer), entry_eq (under rxBuffer) (size?_int fits.rxBuffer),
    entry_eq (under pollTimeout) millis, entry_eq (under shutdown) (policy?_text _)]
  rfl

/-- **The settings that are kept are read back.** The text of settings is made of one entry for each
    key that has a value. Where only some of these entries are left, the settings of the keys that
    are kept are read as they were, the time to wait in whole milliseconds, and all others are those
    of an interface that has none of its own. -/
theorem read_retaining {c : Config} (txBuffer : c.txBuffer ≤ maxInt64) (rxBuffer : c.rxBuffer ≤ maxInt64)
    (pollTimeout : c.pollTimeout.wholeMillis ≤ maxInt64) (kept : String → Bool) :
    c.text? = some (String.ofList ((printed c.settings).flatMap Prod.snd)) ∧
    ((printed c.settings).map Prod.fst).Perm (c.settings.map Prod.fst) ∧
    (c.settings.map Prod.fst).Nodup ∧
    Config.read? (String.ofList (((printed c.settings).filter fun e => kept e.1).flatMap Prod.snd)) =
      some (c.retaining kept) := by
  have fits : c.Fits := ⟨txBuffer, rxBuffer, pollTimeout⟩
  have formed := wellFormed fits
  refine ⟨?_, map_fst_printed formed, formed.nodup, ?_⟩
  · rw [text?, render, renderChars_eq formed]
    rfl
  · -- The text that is left is that of the settings that are left.
    have found (key : String) : (entries (c.settings.filter fun e => kept e.1)).lookup key =
        if kept key then c.datum? key else none := by
      rw [lookup_entries (formed.filter kept).nodup, lookup_filter]
      split <;> rfl
    rw [Config.read?, Toml.read, String.toList_ofList, readChars_printed formed]
    exact ofFields?_eq fits found

/-- Bit rate, controller bits and poll timeout are kept, and everything else is left out. -/
theorem read_bitrate_and_ctrl_mode :
    let c : Config := { Config.default with
      bitrate := some 500000, ctrlMode := some ⟨32, 32⟩, polled := true, pollTimeout := ⟨1500000123⟩ }
    c.txBuffer ≤ maxInt64 ∧ c.rxBuffer ≤ maxInt64 ∧ c.pollTimeout.wholeMillis ≤ maxInt64 ∧
      Config.read? "bitrate = 500000\npoll_timeout = 1500\n\n[ctrl_mode]\nmask = 32\nflags = 32\n" =
        some { Config.default with
          bitrate := some 500000, ctrlMode := some ⟨32, 32⟩, pollTimeout := ⟨1500000000⟩ } := by
  intro c
  have txBuffer : c.txBuffer ≤ maxInt64 := by decide
  have rxBuffer : c.rxBuffer ≤ maxInt64 := by decide
  have pollTimeout : c.pollTimeout.wholeMillis ≤ maxInt64 := by decide
  let kept := fun key => ["bitrate", "ctrl_mode", "poll_timeout"].contains key
  obtain ⟨-, -, -, reads⟩ := read_retaining txBuffer rxBuffer pollTimeout kept
  have text : String.ofList (((printed c.settings).filter fun e => kept e.1).flatMap Prod.snd) =
      "bitrate = 500000\npoll_timeout = 1500\n\n[ctrl_mode]\nmask = 32\nflags = 32\n" := by
    decide +kernel
  have value : c.retaining kept = { Config.default with
      bitrate := some 500000, ctrlMode := some ⟨32, 32⟩, pollTimeout := ⟨1500000000⟩ } := by
    decide
  exact ⟨txBuffer, rxBuffer, pollTimeout, text ▸ value ▸ reads⟩

end Config

end CanDriver
