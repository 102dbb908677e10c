import CanDriver.Config.Application
import Mathlib

namespace CanDriver

/-!
# Settings in a table of their own

The same entries mean the same settings alone in a document and in the `interface` table of the
configuration file.

* `Datum.IsValue key` — the values that entries have here; `Datum.Same` — a value, its entries in any
  order;
* `Dialect.ctrlMode?_eq`, `Dialect.policy?_eq` — values that both sources of values read alike;
* `Config.Agree`, `Config.ofFields?_congr` — settings depend on the values under their keys only;
* `Application.Holds` — a document has these values in its `interface` table;
* `interface_table_agrees` — what is loaded of it;
* `long_ctrl_mode_refused` — a longer list of controller bits is read in one place only.
-/

/-! ### Values -/

namespace Datum

/-- A value without parts: a number, a truth value or a text. -/
inductive IsPlain : Datum → Prop
  | int (n : Int) : IsPlain (.int n)
  | bool (b : Bool) : IsPlain (.bool b)
  | text (s : String) : IsPlain (.text s)

/-- A value that an entry has here: a plain one or, under `ctrl_mode`, a table of numbers or a list
    of two numbers at most. It may be of the wrong type and out of range. -/
inductive IsValue (key : String) : Datum → Prop
  | plain {d : Datum} (plain : d.IsPlain) : IsValue key d
  | table {es : List (String × Datum)} (bits : key = "ctrl_mode") (numbers : ∀ e ∈ es, ∃ n, e.2 = .int n) :
    IsValue key (.table es)
  | list {ns : List Int} (bits : key = "ctrl_mode") (short : ns.length ≤ 2) :
    IsValue key (.list (ns.map .int))

/-- The same value; the entries of a table may stand in another order. -/
inductive Same : Datum → Datum → Prop
  | refl (d : Datum) : Same d d
  | table {es es' : List (String × Datum)} (same : ∀ key, es'.lookup key = es.lookup key) :
    Same (.table es) (.table es')

/-- `lookup` does not depend on the order of entries under different keys. -/
theorem lookup_eq_of_perm {es es' : List (String × Datum)} (perm : es.Perm es')
    (nodup : (es.map Prod.fst).Nodup) (key : String) : es'.lookup key = es.lookup key := by
  induction perm with
  | nil => rfl
  | cons e _ ih =>
    rw [List.lookup_cons, List.lookup_cons, ih (List.nodup_cons.mp nodup).2]
  -- The keys of the two entries differ, so at most one of them is the one looked up.
  | swap e e' es =>
    have differ : e'.1 ≠ e.1 := fun same => (List.nodup_cons.mp nodup).1 (same ▸ List.mem_cons_self)
    rw [List.lookup_cons, List.lookup_cons, List.lookup_cons, List.lookup_cons]
    cases first : key == e'.1 with
    | false => rfl
    | true  =>
      have other : (key == e.1) = false := by
        rw [eq_of_beq first]
        exact beq_eq_false_iff_ne.mpr differ
      rw [other]
  | trans perm _ ih ih' => rw [ih' ((perm.map Prod.fst).nodup_iff.mp nodup), ih nodup]

theorem Same.of_perm {es es' : List (String × Datum)} (perm : es.Perm es') (nodup : (es.map Prod.fst).Nodup) :
    Same (.table es) (.table es') :=
  .table (lookup_eq_of_perm perm nodup)

end Datum

namespace Dialect

/-- `fields?` does not depend on the dialect for a list that is no longer than the record;
    `exactItems` is about longer ones. -/
theorem fields?_of_length_le (r : Dialect) {keys : List String} {items : List Datum}
    (short : items.length ≤ keys.length) :
    r.fields? keys (.list items) = some fun key => items[keys.findIdx (· = key)]? := by
  have fits : decide (keys.length < items.length) = false := decide_eq_false (Nat.not_lt.mpr short)
  simp [fields?, fits]

/-- `ctrlMode?` reads an `IsValue` alike in every dialect, since its lists have two
    items at most. -/
theorem ctrlMode?_eq (r r' : Dialect) {key : String} {d d' : Datum} (value : d.IsValue key)
    (same : d.Same d') : r'.ctrlMode? d' = r.ctrlMode? d := by
  cases same with
  | table same =>
    rw [ctrlMode?, ctrlMode?]
    simp only [fields?, Datum.entries?, Option.map_some, Option.bind_eq_bind, Option.bind_some, same]
  | refl d =>
    cases value with
    | plain plain => cases plain <;> rfl
    | table _ _   => rfl
    | @list ns _ short =>
      have fits : (ns.map Datum.int).length ≤ ["mask", "flags"].length := by simpa using short
      rw [ctrlMode?, ctrlMode?, fields?_of_length_le r fits, fields?_of_length_le r' fits]

/-- `policy?` reads an `IsValue "shutdown"` alike in every dialect: it is no table, and `emptyBody`
    is about tables. -/
theorem policy?_eq (r r' : Dialect) {d d' : Datum} (value : d.IsValue "shutdown") (same : d.Same d') :
    r'.policy? d' = r.policy? d := by
  cases value with
  | table bits _ => exact absurd bits (by decide)
  | list bits _  => exact absurd bits (by decide)
  | plain plain =>
    cases plain <;> cases same <;> rfl

/-- `Dialect.entry` depends on what stands under its key, and on how that is read. -/
theorem entry_congr {α : Type} {get get' : String → Option Datum} {key : String} {default : α}
    {read read' : Datum → Option α} (same : Option.Rel Datum.Same (get key) (get' key))
    (alike : ∀ d d', get key = some d → d.Same d' → read' d' = read d) :
    entry get' key default read' = entry get key default read := by
  rw [entry, entry]
  cases there : get key with
  | none =>
    rw [there] at same
    generalize get' key = other at same
    cases same
    rfl
  | some d =>
    rw [there] at same
    generalize get' key = other at same
    cases same with
    | some same => exact alike d _ there same

/-- `optional?` reads alike what `read` reads alike. -/
theorem optional?_congr {α : Type} {read read' : Datum → Option α} {d d' : Datum} (same : d.Same d')
    (alike : read' d' = read d) : optional? read' d' = optional? read d := by
  cases same with
  | table _ => exact congrArg (Option.map some) alike
  | refl d  =>
    cases d with
    | null => rfl
    | _    => exact congrArg (Option.map some) alike

end Dialect

/-! ### Settings -/

namespace Config

/-- The entries under the keys of settings are values in the sense of `IsValue`. -/
def AreValues (es : List (String × Datum)) : Prop :=
  ∀ key ∈ keys, ∀ d, es.lookup key = some d → d.IsValue key

/-- `es` and `inside` have the `Same` values under the keys of settings, or both have none. -/
def Agree (es inside : List (String × Datum)) : Prop :=
  ∀ key ∈ keys, Option.Rel Datum.Same (es.lookup key) (inside.lookup key)

/-- **`ofFields?` depends on the values under `Config.keys`**, and not on the dialect or on
    other entries. -/
theorem ofFields?_congr {es inside : List (String × Datum)} (values : AreValues es)
    (same : Agree es inside) (r r' : Dialect) :
    ofFields? r' (fun key => inside.lookup key) = ofFields? r fun key => es.lookup key := by
  -- Most entries are read as values without parts, so that no table is told from another.
  have entry {α : Type} (key : String) (known : key ∈ keys) (default : α) {read : Datum → Option α}
      (flat : ∀ es es', read (.table es') = read (.table es)) :
      Dialect.entry (fun key => inside.lookup key) key default read =
        Dialect.entry (fun key => es.lookup key) key default read := by
    refine Dialect.entry_congr (same key known) fun d d' _ alike => ?_
    cases alike with
    | refl    => rfl
    | table _ => exact flat _ _
  have bits : Dialect.entry (fun key => inside.lookup key) "ctrl_mode" none (Dialect.optional? r'.ctrlMode?) =
      Dialect.entry (fun key => es.lookup key) "ctrl_mode" none (Dialect.optional? r.ctrlMode?) := by
    have known : "ctrl_mode" ∈ keys := by decide
    refine Dialect.entry_congr (same _ known) fun d d' there alike => Dialect.optional?_congr alike ?_
    exact Dialect.ctrlMode?_eq r r' (values _ known d there) alike
  have policy : Dialect.entry (fun key => inside.lookup key) "shutdown" ShutdownPolicy.default r'.policy? =
      Dialect.entry (fun key => es.lookup key) "shutdown" ShutdownPolicy.default r.policy? := by
    have known : "shutdown" ∈ keys := by decide
    exact Dialect.entry_congr (same _ known) fun d d' there alike =>
      Dialect.policy?_eq r r' (values _ known d there) alike
  -- Both sides read the thirteen entries in the same order.
  unfold ofFields?
  rw [entry "bitrate" (by decide) none fun _ _ => rfl,
    entry "data_bitrate" (by decide) none fun _ _ => rfl,
    entry "restart_ms" (by decide) none fun _ _ => rfl, bits,
    entry "canfd_enabled" (by decide) false fun _ _ => rfl,
    entry "process_header" (by decide) true fun _ _ => rfl,
    entry "hw_timestamp" (by decide) false fun _ _ => rfl,
    entry "error_mask" (by decide) defaultErrorMask fun _ _ => rfl,
    entry "polled_mode" (by decide) false fun _ _ => rfl,
    entry "tx_buf_len" (by decide) 0 fun _ _ => rfl,
    entry "rx_buf_len" (by decide) 0 fun _ _ => rfl,
    entry "poll_timeout" (by decide) defaultPollTimeout fun _ _ => rfl, policy]

/-- Without entries `ofFields?` gives `Config.default`. -/
theorem ofFields?_nil (r : Dialect) : ofFields? r (fun key => [].lookup key) = some Config.default :=
  rfl

end Config

/-! ### The configuration file -/

namespace Application

/-- The `dump` table, if there is one, can be read, so it does not stand in the way of the
    settings. -/
def DumpReads (top : List (String × Datum)) : Prop :=
  ∀ d, top.lookup "dump" = some d → (dumpOf? d).isSome

/-- The document has the values of the entries `es` under the keys of settings in its
    `interface` table, in any order. Beside them may stand a name and other entries, and beside
    the table others. -/
structure Holds (top es : List (String × Datum)) : Prop where
  table : ∃ inside, top.lookup "interface" = some (.table inside) ∧
    Config.Agree es inside ∧
    ∀ d, inside.lookup "name" = some d → ∃ s, d = .text s
  dump  : DumpReads top

variable {top inside : List (String × Datum)}

/-- An entry `name` that is a text, or no such entry, is read without a failure. -/
theorem exists_name (named : ∀ d, inside.lookup "name" = some d → ∃ s, d = .text s) :
    ∃ name, Dialect.entry (fun key => inside.lookup key) "name" none
      (fun d => (Dialect.text? d).map some) = some name := by
  simp only [Dialect.entry]
  cases there : inside.lookup "name" with
  | none   => exact ⟨none, rfl⟩
  | some d =>
    obtain ⟨s, rfl⟩ := named d there
    exact ⟨some s, rfl⟩

theorem exists_dump (reads : DumpReads top) :
    ∃ filters json, Dialect.entry (fun key => top.lookup key) "dump" ([], false) dumpOf? =
      some (filters, json) := by
  simp only [Dialect.entry]
  cases there : top.lookup "dump" with
  | none   => exact ⟨[], false, rfl⟩
  | some d =>
    obtain ⟨⟨filters, json⟩, read⟩ := Option.isSome_iff_exists.mp (reads d there)
    exact ⟨filters, json, read⟩

/-- The settings that `ofDatum?` answers come from the entry `interface` alone, once `dump`
    can be read. -/
theorem settings_ofDatum? (reads : DumpReads top) (name : Option String) {settings? : Option Config}
    (section_ : Dialect.entry (fun key => top.lookup key) "interface" (none, Config.default) interfaceOf? =
      settings?.map (name, ·)) :
    (ofDatum? (.table top)).map (·.settings) = settings? := by
  obtain ⟨filters, json, dump⟩ := exists_dump reads
  have course : ofDatum? (.table top) = settings?.map fun c => ⟨name, c, filters, json⟩ := by
    simp only [ofDatum?, Datum.entries?, Option.bind_eq_bind, Option.bind_some, section_, dump]
    cases settings? <;> rfl
  rw [course, Option.map_map]
  cases settings? <;> rfl

/-- For a table `interface` they are `ofFields?` of its entries in the dialect `buffered`. -/
theorem settings_of_table (reads : DumpReads top) (there : top.lookup "interface" = some (.table inside))
    (named : ∀ d, inside.lookup "name" = some d → ∃ s, d = .text s) :
    (ofDatum? (.table top)).map (·.settings) =
      Config.ofFields? .buffered fun key => inside.lookup key := by
  obtain ⟨name, read⟩ := exists_name named
  refine settings_ofDatum? reads name ?_
  simp only [Dialect.entry] at read
  simp only [Dialect.entry, there, interfaceOf?, Datum.entries?, Option.bind_eq_bind, Option.bind_some, read]
  cases Config.ofFields? .buffered fun key => inside.lookup key <;> rfl

/-- Without a table `interface` they are `Config.default`. -/
theorem settings_of_none (reads : DumpReads top) (absent : top.lookup "interface" = none) :
    (ofDatum? (.table top)).map (·.settings) = some Config.default := by
  refine settings_ofDatum? reads none ?_
  simp only [Dialect.entry, absent]
  rfl

/-- `load` on the bytes of a text reads that text: its UTF-8 form decodes to itself. -/
theorem toOption_load (path text : String) : (load path (.ok text.toUTF8)).toOption = read? text := by
  have decoded : String.fromUTF8? text.toUTF8 = some text := dif_pos text.isValidUTF8
  rw [load]
  simp only [decoded]
  cases read? text <;> rfl

/-- The settings that `load` answers are those of the document that the file is parsed as. -/
theorem settings_load {path file : String} (document : Toml.read file = some (.table top)) :
    (load path (.ok file.toUTF8)).toOption.map (·.settings) = (ofDatum? (.table top)).map (·.settings) := by
  rw [toOption_load, read?, document]
  rfl

/-- **The `interface` table means what its entries mean alone.** A document of entries for settings
    and others is accepted on its own exactly if a configuration file with the same values under the
    keys of settings in its `interface` table is, and then the settings are the same, whatever the
    order of the entries, and whether or not there are a name, other entries and a `dump` table.
    Without an `interface` table, as with an empty one, they are those of an interface that has none
    of its own. -/
theorem interface_table_agrees (path : String) :
    (∀ text es file top, Toml.read text = some (.table es) → Config.AreValues es →
      Toml.read file = some (.table top) → Holds top es →
        (load path (.ok file.toUTF8)).toOption.map (·.settings) = Config.read? text) ∧
    ∀ file top, Toml.read file = some (.table top) → DumpReads top →
      top.lookup "interface" = none ∨ top.lookup "interface" = some (.table []) →
        (load path (.ok file.toUTF8)).toOption.map (·.settings) = some Config.default := by
  refine ⟨fun text es file top alone values document holds => ?_, fun file top document reads bare => ?_⟩
  · obtain ⟨⟨inside, there, same, named⟩, reads⟩ := holds
    have direct : Config.read? text = Config.ofFields? .direct fun key => es.lookup key := by
      rw [Config.read?, alone]
      rfl
    rw [settings_load document, settings_of_table reads there named, direct]
    exact Config.ofFields?_congr values same _ _
  · rw [settings_load document]
    rcases bare with absent | empty
    · exact settings_of_none reads absent
    · rw [settings_of_table reads empty nofun]
      exact Config.ofFields?_nil _

set_option maxRecDepth 4000 in
/-- Entries in another order, with the controller bits in a table of their own, beside a name, an
    entry for no setting and a `dump` table; and a file with that table only. -/
theorem reordered_settings_agree :
    let text := "ctrl_mode=\x7bmask=1,flags=0\x7d\nbitrate=9"
    let file := "[dump]\n[interface]\nname=''\nbitrate=9\nz=0\n[interface.ctrl_mode]\nflags=0\nmask=1"
    Config.read? text = some { Config.default with bitrate := some 9, ctrlMode := some ⟨1, 0⟩ } ∧
      (load "cansock.toml" (.ok file.toUTF8)).toOption.map (·.settings) = Config.read? text ∧
      (load "cansock.toml" (.ok "[dump]\n".toUTF8)).toOption.map (·.settings) = some Config.default := by
  intro text file
  have alone : Toml.read text = some (.table
      [("ctrl_mode", .table [("mask", .int 1), ("flags", .int 0)]), ("bitrate", .int 9)]) := by cbv
  have document : Toml.read file = some (.table
      [("dump", .table []),
        ("interface", .table
          [("name", .text ""), ("bitrate", .int 9), ("z", .int 0),
            ("ctrl_mode", .table [("flags", .int 0), ("mask", .int 1)])])]) := by cbv
  have dump : ∀ d : Datum, d = .table [] → (dumpOf? d).isSome := by
    rintro _ rfl
    rfl
  refine ⟨?_, ?_, ?_⟩
  · rw [Config.read?, alone]
    rfl
  · refine (interface_table_agrees "cansock.toml").1 _ _ _ _ alone ?values document
      ⟨⟨_, rfl, ?agree, ?named⟩, fun d there => dump d (Option.some.inj there).symm⟩
    case values =>
      intro key known d there
      simp only [Config.keys, List.mem_cons, List.not_mem_nil, or_false] at known
      rcases known with rfl | rfl | rfl | rfl | rfl | rfl | rfl | rfl | rfl | rfl | rfl | rfl | rfl <;>
        cases there
      · exact .plain (.int 9)
      · exact .table rfl (by simp)
    case agree =>
      intro key known
      simp only [Config.keys, List.mem_cons, List.not_mem_nil, or_false] at known
      rcases known with rfl | rfl | rfl | rfl | rfl | rfl | rfl | rfl | rfl | rfl | rfl | rfl | rfl
      case inl => exact .some (.refl _)
      case inr.inr.inr.inl => exact .some (.of_perm (.swap _ _ _) (by decide))
      all_goals exact .none
    case named =>
      intro d there
      exact ⟨"", (Option.some.inj there).symm⟩
  · refine (interface_table_agrees "cansock.toml").2 _ [("dump", .table [])] (by cbv) ?_ (.inl rfl)
    exact fun d there => dump d (Option.some.inj there).symm

/-- **A `ctrl_mode` of three numbers** is read in a document of settings, where the third is left
    out, and refused in the `interface` table. -/
theorem long_ctrl_mode_refused :
    let text := "ctrl_mode = [1, 2, 3]\n"
    let file := "[interface]\nctrl_mode = [1, 2, 3]\n"
    let es := [("ctrl_mode", Datum.list [.int 1, .int 2, .int 3])]
    Toml.read text = some (.table es) ∧
      Config.read? text = some { Config.default with ctrlMode := some ⟨1, 2⟩ } ∧
      Toml.read file = some (.table [("interface", .table es)]) ∧
      load "cansock.toml" (.ok file.toUTF8) = .error (.refused "cansock.toml") := by
  intro text file es
  have alone : Toml.read text = some (.table es) := by cbv
  have document : Toml.read file = some (.table [("interface", .table es)]) := by cbv
  have decoded : String.fromUTF8? file.toUTF8 = some file := dif_pos file.isValidUTF8
  have refused : read? file = none := by
    rw [read?, document]
    rfl
  refine ⟨alone, ?_, document, ?_⟩
  · rw [Config.read?, alone]
    rfl
  · simp only [load, decoded, refused]

end Application

end CanDriver
