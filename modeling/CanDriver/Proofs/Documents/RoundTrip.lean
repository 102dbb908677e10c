import CanDriver.Proofs.Documents.Values

namespace CanDriver.Toml

/-!
# Reading printed documents

A document is read as the settings it was printed from.

* `WellFormed` — settings that can be printed: bare keys, each only once, and values with a form;
* `Reads text d d'` — lines that take one draft to another, and how to put them together;
* `entries` — what the table of a document holds: its values first, and its tables behind them;
* `readChars_renderChars` — reading undoes printing;
* `printed` — the printed entries one by one, in the order of the text, which `renderChars_eq` makes
  of them; `readChars_printed` — what is read where some of them are left out.
-/

/-! ### Settings that can be printed -/

/-- The entries of a table that can be printed: bare keys, each only once, and
    `Printable` values. -/
structure Plain (es : List (String × Scalar)) : Prop where
  nodup     : (es.map Prod.fst).Nodup
  bare      : ∀ e ∈ es, Bare e.1
  printable : ∀ e ∈ es, e.2.Printable

/-- The tables among the settings, in their order; `scalars` are the others. -/
def tables (settings : List (String × Setting)) : List (String × List (String × Scalar)) :=
  settings.filterMap fun
    | (_, .scalar _)  => none
    | (key, .table es) => some (key, es)

/-- A value that can be printed: a `Printable` scalar or a `Plain` table. -/
def Setting.Formed : Setting → Prop
  | .scalar v => v.Printable
  | .table es => Plain es

/-- Settings whose entries can all be printed under keys of their own. -/
structure WellFormed (settings : List (String × Setting)) : Prop where
  nodup  : (settings.map Prod.fst).Nodup
  bare   : ∀ e ∈ settings, Bare e.1
  formed : ∀ e ∈ settings, e.2.Formed

theorem WellFormed.values {settings : List (String × Setting)} (formed : WellFormed settings) :
    ∀ e ∈ scalars settings, e.2.Printable := by
  intro e mem
  obtain ⟨⟨key, v⟩, inside, made⟩ := List.mem_filterMap.mp mem
  cases v with
  | scalar v =>
    cases made
    exact formed.formed _ inside
  | table es => cases made

theorem WellFormed.tables {settings : List (String × Setting)} (formed : WellFormed settings) :
    ∀ e ∈ tables settings, Plain e.2 := by
  intro e mem
  obtain ⟨⟨key, v⟩, inside, made⟩ := List.mem_filterMap.mp mem
  cases v with
  | scalar v => cases made
  | table es =>
    cases made
    exact formed.formed _ inside

theorem WellFormed.filter {settings : List (String × Setting)} (formed : WellFormed settings)
    (kept : String → Bool) : WellFormed (settings.filter fun e => kept e.1) where
  nodup  := formed.nodup.sublist (List.filter_sublist.map _)
  bare   := fun e mem => formed.bare e (List.mem_filter.mp mem).1
  formed := fun e mem => formed.formed e (List.mem_filter.mp mem).1

/-- What scalars are read as. -/
def datums (es : List (String × Scalar)) : List (String × Datum) := es.map fun e => (e.1, e.2.datum)

/-- What `settings` are read as: the scalars first and the tables behind them, as they
    are printed. -/
def entries (settings : List (String × Setting)) : List (String × Datum) :=
  datums (scalars settings) ++ (tables settings).map fun e => (e.1, .table (datums e.2))

/-! ### Lines -/

/-- The scalars as `Entries` of a table under construction. -/
def leaves (es : List (String × Scalar)) : Entries := es.map fun e => (e.1, .leaf e.2.datum)

theorem lookup_eq_none {β : Type} {key : String} {es : List (String × β)} (fresh : key ∉ es.map Prod.fst) :
    es.lookup key = none := by
  rw [List.lookup_eq_none_iff]
  intro e mem
  have differs : key ≠ e.1 := fun same => fresh (same ▸ List.mem_map_of_mem mem)
  simpa using differs

/-- `keyValue` reads `key = form` back as the key and the value of `v`. -/
theorem keyValue_entry {key : String} {v : Scalar} (bare : Bare key) (printable : v.Printable)
    {form : List Char} (chars : v.chars? = some form) (rest : List Char) :
    keyValue (value maxDepth) (key.toList ++ ' ' :: '=' :: ' ' :: (form ++ '\n' :: rest)) =
      some (([], key, v.datum), '\n' :: rest) := by
  have equals : blanks (' ' :: '=' :: ' ' :: (form ++ '\n' :: rest)) = '=' :: ' ' :: (form ++ '\n' :: rest) :=
    rfl
  -- The key ends at its blank, and no dot follows that.
  have name := key_bare bare (show isKeyChar ' ' = false by decide)
    (by rw [equals]; rintro cs ⟨⟩)
  have start : blanks (' ' :: (form ++ '\n' :: rest)) = form ++ '\n' :: rest := by
    obtain ⟨c, cs, rfl, dark, -⟩ := Scalar.exists_chars_head chars
    exact blanks_of_head dark
  rw [equals] at name
  simp [keyValue, name, start, Scalar.value_chars printable chars]

/-- `line` on a printed entry adds that entry to the draft. -/
theorem line_entry {e : String × Scalar} (bare : Bare e.1) (printable : e.2.Printable) {text : List Char}
    (printed : entryLine e = some text) (d : Draft) (rest : List Char) :
    line d (text ++ rest) = (d.entry [] e.1 e.2.datum).map fun d => (d, rest) := by
  obtain ⟨key, v⟩ := e
  obtain ⟨form, chars, rfl⟩ : ∃ form, v.chars? = some form ∧
      key.toList ++ [' ', '=', ' '] ++ form ++ ['\n'] = text := by
    simpa [entryLine] using printed
  have ends : lineEnd? ('\n' :: rest) = some rest := rfl
  have text : key.toList ++ [' ', '=', ' '] ++ form ++ ['\n'] ++ rest =
      key.toList ++ ' ' :: '=' :: ' ' :: (form ++ '\n' :: rest) := by
    simp [List.append_assoc]
  obtain ⟨c, cs, front, keyChar⟩ := bare.exists_head
  have bracket : c ≠ '[' := ne_of_isKeyChar keyChar (by decide)
  rw [text]
  unfold line
  -- A line that begins with a key is no header.
  split
  · next same =>
    rw [front] at same
    exact absurd (List.cons.inj same).1 bracket
  · next same =>
    rw [front] at same
    exact absurd (List.cons.inj same).1 bracket
  · rw [keyValue_entry bare printable chars]
    cases added : d.entry [] key v.datum <;> simp [added, ends]

/-- `text` consists of whole lines that take the draft `d` to `d'`, whatever follows them, and does
    not begin with a byte-order mark. The fuel of `lines` is left open, so that texts can be put
    together. -/
structure Reads (text : List Char) (d d' : Draft) : Prop where
  lines    : ∃ k ≤ text.length, ∀ n rest, lines (k + n) d (text ++ rest) = lines n d' rest
  unmarked : ∀ cs, text ≠ '\uFEFF' :: cs

namespace Reads

theorem nil (d : Draft) : Reads [] d d := by
  refine ⟨⟨0, Nat.le_refl 0, fun n rest => ?_⟩, by simp⟩
  rw [Nat.zero_add, List.nil_append]

/-- `Reads` composes. -/
theorem append {text text' : List Char} {d d' d'' : Draft} (first : Reads text d d')
    (second : Reads text' d' d'') : Reads (text ++ text') d d'' := by
  obtain ⟨k, few, reads⟩ := first.lines
  obtain ⟨k', few', reads'⟩ := second.lines
  constructor
  · refine ⟨k + k', by rw [List.length_append]; omega, fun n rest => ?_⟩
    rw [List.append_assoc, Nat.add_assoc, reads, reads']
  · intro cs marked
    cases text with
    | nil      => exact second.unmarked cs marked
    | cons c _ => exact first.unmarked _ (by rw [(List.cons.inj marked).1])

/-- `Reads` for a single line that is neither blank nor a comment, from what `line` makes of it. -/
theorem of_line {c : Char} {cs : List Char} {d d' : Draft} (dark : isBlank c = false)
    (text : c ≠ '#' ∧ c ≠ '\n' ∧ c ≠ '\r' ∧ c ≠ '\uFEFF')
    (reads : ∀ rest, line d (c :: cs ++ rest) = some (d', rest)) : Reads (c :: cs) d d' := by
  obtain ⟨comment, newline, return', mark⟩ := text
  constructor
  · refine ⟨1, by simp, fun n rest => ?_⟩
    -- `lines` skips blanks, a comment and an empty line before it calls `line`; none of them is
    -- here.
    have start : blanks (c :: cs ++ rest) = c :: cs ++ rest := blanks_of_head dark
    have visible : Toml.comment (c :: cs ++ rest) = c :: cs ++ rest := by
      rw [Toml.comment.eq_def]
      split
      · next same => exact absurd (List.cons.inj same).1 comment
      · rfl
    have inside : newline? (c :: cs ++ rest) = none := by
      rw [newline?.eq_def]
      split
      · next same => exact absurd (List.cons.inj same).1 newline
      · next same => exact absurd (List.cons.inj same).1 return'
      · rfl
    rw [Nat.add_comm, Toml.lines]
    simp only [start, visible]
    simp only [List.cons_append] at inside reads ⊢
    simp [inside, reads]
  · intro cs' marked
    exact mark (List.cons.inj marked).1

theorem emptyLine (d : Draft) : Reads ['\n'] d d := by
  refine ⟨⟨1, Nat.le_refl 1, fun n rest => ?_⟩, by simp⟩
  rw [Nat.add_comm]
  rfl

/-- `Reads` for a printed entry that the draft takes. -/
theorem entry {e : String × Scalar} (bare : Bare e.1) (printable : e.2.Printable) {text : List Char}
    (printed : entryLine e = some text) {d d' : Draft} (adds : d.entry [] e.1 e.2.datum = some d') :
    Reads text d d' := by
  have reads (rest : List Char) : line d (text ++ rest) = some (d', rest) := by
    rw [line_entry bare printable printed, adds]
    rfl
  obtain ⟨c, cs, front, keyChar⟩ := bare.exists_head
  obtain ⟨more, rfl⟩ : ∃ more, text = c :: more := by
    obtain ⟨form, -, rfl⟩ := Option.map_eq_some_iff.mp printed
    exact ⟨_, by rw [front]; rfl⟩
  refine of_line (isBlank_of_isKeyChar keyChar) ⟨?_, ?_, ?_, ?_⟩ reads
  all_goals exact ne_of_isKeyChar keyChar (by decide)

/-- `Reads` for a printed header that may be opened. -/
theorem header {key : String} (bare : Bare key) {d d' : Draft} (opens : d.table [] key = some d') :
    Reads ('[' :: (key.toList ++ [']', '\n'])) d d' := by
  refine of_line (by decide) (by decide) fun rest => ?_
  have text : '[' :: (key.toList ++ [']', '\n']) ++ rest = '[' :: (key.toList ++ ']' :: '\n' :: rest) := by
    simp [List.append_assoc]
  have ends : lineEnd? ('\n' :: rest) = some rest := rfl
  have bracket : blanks (']' :: '\n' :: rest) = ']' :: '\n' :: rest := rfl
  have name := key_bare bare (show isKeyChar ']' = false by decide)
    (by rw [bracket]; rintro cs ⟨⟩)
  rw [bracket] at name
  obtain ⟨c, cs, front, keyChar⟩ := bare.exists_head
  have single : c ≠ '[' := ne_of_isKeyChar keyChar (by decide)
  rw [text]
  -- The first pattern is a double bracket, which a bare key rules out.
  unfold line
  split
  · next same =>
    rw [front] at same
    exact absurd (List.cons.inj (List.cons.inj same).2).1 single
  · next same =>
    rw [← (List.cons.inj same).2, name]
    simp [opens, ends]
  · next other => exact absurd rfl (other _)

/-- `Reads` for printed entries, in a table in which each of them can be put behind those `done`
    before it. The table is the document's own or that of a header. -/
theorem entries {table : List (String × Scalar) → Draft}
    (adds : ∀ done e, e.1 ∉ done.map Prod.fst →
      (table done).entry [] e.1 e.2.datum = some (table (done ++ [e])))
    {es : List (String × Scalar)} {text : List Char} (printed : entryLines es = some text)
    (bare : ∀ e ∈ es, Bare e.1) (printable : ∀ e ∈ es, e.2.Printable) (done : List (String × Scalar))
    (nodup : ((done ++ es).map Prod.fst).Nodup) : Reads text (table done) (table (done ++ es)) := by
  induction es generalizing done text with
  | nil =>
    cases printed
    simpa using Reads.nil (table done)
  | cons e es ih =>
    obtain ⟨firstBare, bare⟩ := List.forall_mem_cons.mp bare
    obtain ⟨firstPrintable, printable⟩ := List.forall_mem_cons.mp printable
    obtain ⟨head, rest, printedHead, printedRest, rfl⟩ : ∃ head rest, entryLine e = some head ∧
        entryLines es = some rest ∧ head ++ rest = text := by
      simpa [entryLines, Option.bind_eq_some_iff] using printed
    -- No entry before this one has its key, so that it can be put behind them.
    have fresh : e.1 ∉ done.map Prod.fst := by
      rw [List.map_append, List.map_cons, List.nodup_append] at nodup
      exact fun mem => nodup.2.2 _ mem _ List.mem_cons_self rfl
    rw [List.append_cons] at nodup ⊢
    have first := Reads.entry firstBare firstPrintable printedHead (adds done e fresh)
    exact first.append (ih printedRest bare printable (done ++ [e]) nodup)

end Reads

/-- `put` appends under a key that is free. -/
theorem put_of_fresh {key : String} {node : Node} {es : Entries} (fresh : es.lookup key = none) :
    put [] key node es = some (es.push key node) := by
  simp [put, alter, fresh]

theorem map_fst_leaves (es : List (String × Scalar)) : (leaves es).map Prod.fst = es.map Prod.fst := by
  simp [leaves, Function.comp_def]

theorem leaves_append (es es' : List (String × Scalar)) : leaves (es ++ es') = leaves es ++ leaves es' := by
  simp [leaves]

/-- Before the first header `Draft.entry` appends to the table of the document. -/
theorem entry_root (done : List (String × Scalar)) (e : String × Scalar) (fresh : e.1 ∉ done.map Prod.fst) :
    Draft.entry [] e.1 e.2.datum ⟨leaves done, []⟩ = some ⟨leaves (done ++ [e]), []⟩ := by
  have free : (leaves done).lookup e.1 = none := lookup_eq_none (by rwa [map_fst_leaves])
  simp [Draft.entry, putUnder, alter, put_of_fresh free, leaves_append]
  rfl

/-- Behind the header `[name]` it appends to that table, which is the last one. -/
theorem entry_table {before : Entries} {name : String} (apart : name ∉ before.map Prod.fst)
    (done : List (String × Scalar)) (e : String × Scalar) (fresh : e.1 ∉ done.map Prod.fst) :
    Draft.entry [] e.1 e.2.datum ⟨before ++ [(name, .table .header (leaves done))], [name]⟩ =
      some ⟨before ++ [(name, .table .header (leaves (done ++ [e])))], [name]⟩ := by
  have free : (leaves done).lookup e.1 = none := lookup_eq_none (by rwa [map_fst_leaves])
  have found : (before ++ [(name, Node.table .header (leaves done))]).lookup name =
      some (.table .header (leaves done)) := by
    simp [List.lookup_append, lookup_eq_none apart]
  -- The table is the last entry, and the only one with its name.
  have replaced (sub : Entries) :
      Entries.replace name (.table .header sub) (before ++ [(name, .table .header (leaves done))]) =
        before ++ [(name, .table .header sub)] := by
    have others : ∀ e ∈ before, (if e.1 = name then (name, Node.table .header sub) else e) = e := by
      intro e mem
      have differs : e.1 ≠ name := fun same => apart (same ▸ List.mem_map_of_mem mem)
      rw [if_neg differs]
    rw [Entries.replace, List.map_append, List.map_congr_left others]
    simp
  simp [Draft.entry, putUnder, alter, found, put_of_fresh free, leaves_append, replaced]
  rfl

/-- A table as the draft has it after its header and its entries were read. -/
def headed (e : String × List (String × Scalar)) : String × Node := (e.1, .table .header (leaves e.2))

/-- `Reads` for all printed tables. By induction on the settings, with the tables read so far in
    `before`. -/
theorem Reads.tables {settings : List (String × Setting)} {text : List Char}
    (printed : tablesLines settings = some text)
    (plain : ∀ e ∈ Toml.tables settings, Bare e.1 ∧ Plain e.2) (before : Entries) (last : List String)
    (nodup : (before.map Prod.fst ++ (Toml.tables settings).map Prod.fst).Nodup) :
    ∃ last', Reads text ⟨before, last⟩ ⟨before ++ (Toml.tables settings).map headed, last'⟩ := by
  induction settings generalizing text before last with
  | nil =>
    cases printed
    exact ⟨last, by simpa [Toml.tables] using Reads.nil ⟨before, last⟩⟩
  | cons setting settings ih =>
    obtain ⟨key, v⟩ := setting
    cases v with
    | scalar v => exact ih printed plain before last nodup
    | table es =>
      obtain ⟨⟨bare, first⟩, plain⟩ := List.forall_mem_cons.mp plain
      obtain ⟨body, rest, printedBody, printedRest, rfl⟩ : ∃ body rest, entryLines es = some body ∧
          tablesLines settings = some rest ∧
            '\n' :: '[' :: (key.toList ++ [']', '\n'] ++ body) ++ rest = text := by
        simpa [tablesLines, tableLines, Option.bind_eq_some_iff] using printed
      -- The header may be opened because no table before it has its key.
      have apart : key ∉ before.map Prod.fst := by
        intro mem
        exact (List.nodup_append.mp nodup).2.2 _ mem _ List.mem_cons_self rfl
      have opens : Draft.table [] key ⟨before, last⟩ =
          some ⟨before ++ [(key, .table .header (leaves []))], [key]⟩ := by
        simp [Draft.table, addTable, alter, lookup_eq_none apart, Entries.push, leaves]
      have inside := Reads.entries (entry_table apart) printedBody first.bare first.printable []
        first.nodup
      have tables : Toml.tables ((key, .table es) :: settings) = (key, es) :: Toml.tables settings := rfl
      obtain ⟨last', behind⟩ := ih printedRest plain (before ++ [headed (key, es)]) [key]
        (by simpa [headed, tables] using nodup)
      refine ⟨last', ?_⟩
      have whole := (((Reads.emptyLine _).append (Reads.header bare opens)).append inside).append behind
      simpa [headed, tables, List.append_assoc] using whole

theorem entriesDatum_leaves (es : List (String × Scalar)) : entriesDatum (leaves es) = datums es := by
  induction es with
  | nil => rfl
  | cons e es ih =>
    have cons : leaves (e :: es) = (e.1, .leaf e.2.datum) :: leaves es := rfl
    rw [cons, entriesDatum, ih]
    rfl

theorem entriesDatum_append (es es' : Entries) :
    entriesDatum (es ++ es') = entriesDatum es ++ entriesDatum es' := by
  induction es with
  | nil => rfl
  | cons e es ih =>
    obtain ⟨key, node⟩ := e
    simp [entriesDatum, ih]

theorem entriesDatum_headed (ts : List (String × List (String × Scalar))) :
    entriesDatum (ts.map headed) = ts.map fun e => (e.1, .table (datums e.2)) := by
  induction ts with
  | nil => rfl
  | cons t ts ih =>
    rw [List.map_cons, List.map_cons, headed, entriesDatum, ih, Node.datum, entriesDatum_leaves]

/-- A text that `Reads` from the empty draft is a document, with the table of the final draft. -/
theorem Reads.readChars_eq {text : List Char} {d : Draft} (reads : Reads text Draft.empty d) :
    readChars text = some (.table (entriesDatum d.root)) := by
  obtain ⟨k, few, lines⟩ := reads.lines
  have unmarked : skipMark text = text := by
    unfold skipMark
    split
    · next cs => exact absurd rfl (reads.unmarked cs)
    · rfl
  -- There are at most as many lines as characters, so that the steps do not run out.
  have ends : Toml.lines (text.length + 1) Draft.empty text = some d := by
    have all := lines (text.length - k + 1) []
    rw [List.append_nil, show k + (text.length - k + 1) = text.length + 1 by omega] at all
    rw [all]
    rfl
  simp [readChars, unmarked, ends]

/-! ### Documents -/

theorem keys_scalars_tables (settings : List (String × Setting)) :
    ((scalars settings).map Prod.fst ++ (tables settings).map Prod.fst).Perm (settings.map Prod.fst) := by
  induction settings with
  | nil => exact .nil
  | cons e settings ih =>
    obtain ⟨key, v⟩ := e
    cases v with
    | scalar v => exact ih.cons key
    | table es => exact List.perm_middle.trans (ih.cons key)

/-- **`readChars` undoes `renderChars`**, up to the order of scalars and tables that `entries`
    describes. -/
theorem readChars_renderChars {settings : List (String × Setting)} (formed : WellFormed settings)
    {text : List Char} (printed : renderChars settings = some text) :
    readChars text = some (.table (entries settings)) := by
  obtain ⟨values, sections, printedValues, printedTables, rfl⟩ : ∃ values sections,
      entryLines (scalars settings) = some values ∧ tablesLines settings = some sections ∧
        values ++ sections = text := by
    simpa [renderChars, Option.bind_eq_some_iff] using printed
  have keys : ((scalars settings).map Prod.fst ++ (tables settings).map Prod.fst).Nodup :=
    (keys_scalars_tables settings).nodup_iff.mpr formed.nodup
  have bare {key : String} (mem : key ∈ (scalars settings).map Prod.fst ++ (tables settings).map Prod.fst) :
      Bare key := by
    obtain ⟨e, inside, rfl⟩ := List.mem_map.mp ((keys_scalars_tables settings).mem_iff.mp mem)
    exact formed.bare e inside
  -- The values come before the first header, and the tables behind them.
  have first : Reads values Draft.empty ⟨leaves (scalars settings), []⟩ := by
    refine Reads.entries entry_root printedValues (fun e mem => bare ?_) formed.values [] ?_
    · exact List.mem_append_left _ (List.mem_map_of_mem mem)
    · exact (List.nodup_append.mp keys).1
  obtain ⟨last, behind⟩ := Reads.tables printedTables
    (fun e mem => ⟨bare (List.mem_append_right _ (List.mem_map_of_mem mem)), formed.tables e mem⟩)
    (leaves (scalars settings)) [] (by rwa [map_fst_leaves])
  rw [(first.append behind).readChars_eq, entriesDatum_append, entriesDatum_leaves, entriesDatum_headed]
  rfl

/-- The `Datum` that a setting is read as. -/
def Setting.datum : Setting → Datum
  | .scalar v => v.datum
  | .table es => .table (datums es)

/-- In `entries` each key has the value that it has in the settings, although tables move
    behind scalars. -/
theorem lookup_entries {settings : List (String × Setting)} (nodup : (settings.map Prod.fst).Nodup)
    (key : String) : (entries settings).lookup key = (settings.lookup key).map Setting.datum := by
  induction settings with
  | nil => rfl
  | cons e settings ih =>
    obtain ⟨name, v⟩ := e
    obtain ⟨apart, nodup⟩ := List.nodup_cons.mp nodup
    -- A scalar comes first in both lists; a table has moved.
    have ih := ih nodup
    cases v with
    | scalar v =>
      have cons : entries ((name, .scalar v) :: settings) = (name, v.datum) :: entries settings := rfl
      by_cases same : key = name
      · simp [cons, same, Setting.datum]
      · have other : (key == name) = false := by simpa using same
        simp [cons, List.lookup_cons, other, ih]
    | table es =>
      -- The table stands behind all values, but none of them has its key.
      have cons : entries ((name, .table es) :: settings) = datums (scalars settings) ++
          (name, .table (datums es)) :: (tables settings).map fun e => (e.1, .table (datums e.2)) := rfl
      have free : (datums (scalars settings)).lookup name = none := by
        apply lookup_eq_none
        intro mem
        have inside : name ∈ (scalars settings).map Prod.fst := by simpa [datums] using mem
        exact apart ((keys_scalars_tables settings).mem_iff.mp (List.mem_append_left _ inside))
      by_cases same : key = name
      · subst same
        simp [cons, List.lookup_append, free, Setting.datum]
      · have other : (key == name) = false := by simpa using same
        rw [cons]
        simpa [entries, List.lookup_append, List.lookup_cons, other] using ih

/-! ### Entries of the text -/

/-- The parts of the text, each with its key: an entry line for a scalar, a header with its lines
    for a table. -/
def printed (settings : List (String × Setting)) : List (String × List Char) :=
  (scalars settings).filterMap (fun e => (entryLine e).map fun text => (e.1, text)) ++
    (tables settings).filterMap (fun e => (tableLines e.1 e.2).map fun text => (e.1, text))

theorem exists_chars {v : Scalar} (printable : v.Printable) : ∃ form, v.chars? = some form := by
  cases v with
  | bool b => cases b <;> exact ⟨_, rfl⟩
  | word s => exact ⟨_, rfl⟩
  | int n =>
    have small : n ≤ maxInteger := printable
    exact ⟨_, by rw [Scalar.chars?, if_pos small]⟩

theorem exists_entryLine {e : String × Scalar} (printable : e.2.Printable) :
    ∃ text, entryLine e = some text := by
  obtain ⟨form, chars⟩ := exists_chars printable
  exact ⟨_, by rw [entryLine, chars]; rfl⟩

theorem entryLines_eq {es : List (String × Scalar)} (printable : ∀ e ∈ es, e.2.Printable) :
    entryLines es = some ((es.filterMap fun e =>
      (entryLine e).map fun text => (e.1, text)).flatMap Prod.snd) := by
  induction es with
  | nil => rfl
  | cons e es ih =>
    obtain ⟨first, others⟩ := List.forall_mem_cons.mp printable
    obtain ⟨text, line⟩ := exists_entryLine first
    simp [entryLines, line, ih others]

theorem tablesLines_eq {settings : List (String × Setting)} (plain : ∀ e ∈ tables settings, Plain e.2) :
    tablesLines settings = some (((tables settings).filterMap fun e =>
      (tableLines e.1 e.2).map fun text => (e.1, text)).flatMap Prod.snd) := by
  induction settings with
  | nil => rfl
  | cons e settings ih =>
    obtain ⟨key, v⟩ := e
    cases v with
    | scalar v => exact ih plain
    | table es =>
      obtain ⟨first, others⟩ := List.forall_mem_cons.mp plain
      have tables : tables ((key, .table es) :: settings) = (key, es) :: tables settings := rfl
      simp [tablesLines, tableLines, entryLines_eq first.printable, ih others, tables]

/-- `renderChars` puts the parts of `printed` one after the other. -/
theorem renderChars_eq {settings : List (String × Setting)} (formed : WellFormed settings) :
    renderChars settings = some ((printed settings).flatMap Prod.snd) := by
  simp [renderChars, entryLines_eq formed.values, tablesLines_eq formed.tables, printed]

/-- Every key of the settings has exactly one part in `printed`. -/
theorem map_fst_printed {settings : List (String × Setting)} (formed : WellFormed settings) :
    ((printed settings).map Prod.fst).Perm (settings.map Prod.fst) := by
  have keys {β : Type} {form : String × β → Option (List Char)} {es : List (String × β)}
      (all : ∀ e ∈ es, ∃ text, form e = some text) :
      (es.filterMap fun e => (form e).map fun text => (e.1, text)).map Prod.fst = es.map Prod.fst := by
    induction es with
    | nil => rfl
    | cons e es ih =>
      obtain ⟨⟨text, first⟩, others⟩ := List.forall_mem_cons.mp all
      simp [first, ih others]
  have sections : ∀ e ∈ tables settings, ∃ text, tableLines e.1 e.2 = some text := by
    intro e mem
    exact ⟨_, by rw [tableLines, entryLines_eq (formed.tables e mem).printable]; rfl⟩
  rw [printed, List.map_append, keys fun e mem => exists_entryLine (formed.values e mem), keys sections]
  exact keys_scalars_tables settings

/-- A filter by key commutes with a `filterMap` that keeps keys. -/
theorem filter_filterMap_of_key {β γ : Type} {f : String × β → Option (String × γ)}
    (key : ∀ e a, f e = some a → a.1 = e.1) (kept : String → Bool) (es : List (String × β)) :
    (es.filterMap f).filter (fun e => kept e.1) = (es.filter fun e => kept e.1).filterMap f := by
  induction es with
  | nil => rfl
  | cons e es ih =>
    cases made : f e with
    | none   => by_cases keep : kept e.1 <;> simp [made, keep, ih]
    | some a => by_cases keep : kept e.1 <;> simp [made, keep, ih, key e a made]

theorem scalars_filter (kept : String → Bool) (settings : List (String × Setting)) :
    scalars (settings.filter fun e => kept e.1) = (scalars settings).filter fun e => kept e.1 := by
  refine (filter_filterMap_of_key ?_ kept settings).symm
  rintro ⟨key, v⟩ a made
  cases v with
  | scalar v =>
    cases made
    rfl
  | table es => cases made

theorem tables_filter (kept : String → Bool) (settings : List (String × Setting)) :
    tables (settings.filter fun e => kept e.1) = (tables settings).filter fun e => kept e.1 := by
  refine (filter_filterMap_of_key ?_ kept settings).symm
  rintro ⟨key, v⟩ a made
  cases v with
  | scalar v => cases made
  | table es =>
    cases made
    rfl

/-- Leaving parts out of the text is printing fewer settings. -/
theorem printed_filter (kept : String → Bool) (settings : List (String × Setting)) :
    (printed settings).filter (fun e => kept e.1) = printed (settings.filter fun e => kept e.1) := by
  have key {β : Type} (form : String × β → Option (List Char)) (e : String × β) (a : String × List Char)
      (made : (form e).map (fun text => (e.1, text)) = some a) : a.1 = e.1 := by
    obtain ⟨text, -, rfl⟩ := Option.map_eq_some_iff.mp made
    rfl
  rw [printed, printed, List.filter_append, scalars_filter, tables_filter,
    filter_filterMap_of_key (key entryLine), filter_filterMap_of_key (key fun e => tableLines e.1 e.2)]

/-- **What is left of a text, when parts of `printed` are left out, is read as what is left of the
    settings.** -/
theorem readChars_printed {settings : List (String × Setting)} (formed : WellFormed settings)
    (kept : String → Bool) :
    readChars (((printed settings).filter fun e => kept e.1).flatMap Prod.snd) =
      some (.table (entries (settings.filter fun e => kept e.1))) := by
  rw [printed_filter]
  exact readChars_renderChars (formed.filter kept) (renderChars_eq (formed.filter kept))

end CanDriver.Toml
