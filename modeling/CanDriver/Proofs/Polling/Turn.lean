import CanDriver.Session.Poll

namespace CanDriver

/-!
# The turn of one socket

`Session.drain` against a reading of the queue from its items alone:

* `Item.endsTurn` — a receive that meets the item brings no datagram;
* `Session.turnEvents` — the events of the datagrams before the first such item;
* `Effect.read?` — the socket that an effect reads from;
* `Registry.Returns` — no handler panics;
* `Session.drain_spec` — a turn delivers exactly those events, leaves what follows the item that
  ended it, and fails only where that item says that the network is down.
-/

/-! ### What ends a turn -/

namespace Item

/-- `item.endsTurn`: a receive that meets `item` brings no datagram. It fails, or its bytes
    are `[]`. -/
def endsTurn : Item → Bool
  | .datagram bytes _ => bytes.isEmpty
  | .failure _        => true

/-- The number of bytes that a receive reads which meets the item: at most `fdSize`, and 0 for
    a failure. -/
def size : Item → Nat
  | .datagram bytes _ => min bytes.length fdSize
  | .failure _        => 0

/-- `size` is 0 exactly for the items with `endsTurn`. -/
theorem size_eq_zero {item : Item} : item.size = 0 ↔ item.endsTurn = true := by
  cases item with
  | failure e => simp [size, endsTurn]
  | datagram bytes controls =>
    simp only [size, endsTurn, List.isEmpty_iff]
    cases bytes <;> simp [fdSize]

/-- An item without `endsTurn` has a `size` above 0. -/
theorem size_pos {item : Item} (goes : item.endsTurn = false) : 0 < item.size := by
  have some_read : item.size ≠ 0 := fun zero =>
    Bool.false_ne_true (goes.symm.trans (size_eq_zero.mp zero))
  omega

/-- `Event.ofDatagram` for a datagram that is read from `fd`, which has the given role; `none` for
    a failure. -/
def event? (c : Config) (role : SocketRole) (fd : Fd) : Item → Option Event
  | .datagram bytes controls => some (.ofDatagram c role fd bytes controls)
  | .failure _               => none

end Item

/-- The descriptor of a `receive` call; `none` for all other effects. -/
def Effect.read? : Effect → Option Fd
  | .call (.receive fd _) => some fd
  | _                     => none

namespace Session

/-- What a turn leaves of `queue`: all that follows the first item with `endsTurn`. -/
def afterTurn (queue : List Item) : List Item := (queue.dropWhile (!·.endsTurn)).tail

/-- The items of `queue` before the first with `endsTurn`. A turn reads these. -/
def turnItems (queue : List Item) : List Item := queue.takeWhile (!·.endsTurn)

/-- The events (`event?`) of `turnItems queue`, for the role that `fd` has in the session. -/
def turnEvents (s : Session) (fd : Fd) (queue : List Item) : List Event :=
  (turnItems queue).filterMap (·.event? s.config (s.roleOf fd) fd)

/-- The first item of `queue` with `endsTurn` is the failure `Errno.networkDown`. -/
def meetsDown (queue : List Item) : Bool :=
  queue.find? Item.endsTurn == some (.failure Errno.networkDown)

end Session

/-! ### One receive -/

section Receive

variable (c : Config) (role : SocketRole) (fd : Fd)

/-- `Effect.read?` is `none` on log records. -/
@[simp] theorem reads_records (rs : List Log.Record) :
    (rs.map Effect.record).filterMap Effect.read? = [] := by
  rw [List.filterMap_map]
  exact List.filterMap_eq_nil_iff.mpr fun _ _ => rfl

/-- `Effect.read?` is `none` on the effects of callbacks. -/
@[simp] theorem reads_effectsOf (made cs : List Callback) :
    (Callback.effectsOf made cs).filterMap Effect.read? = [] := by
  rw [Callback.effectsOf, List.filterMap_flatMap, List.flatMap_eq_nil_iff]
  intro c _
  rw [Callback.effects, List.filterMap_append, reads_records]
  rfl

/-- `Item.read` has no effect that is a callback. -/
theorem callbacks_read (item : Item) :
    (item.read c role fd).1.filterMap Effect.callback? = [] := by
  cases item with
  | failure e =>
    simp only [Item.read, List.filterMap_cons]
    exact Effect.callbacks_records _
  | datagram bytes controls =>
    simp only [Item.read]
    split
    · rfl
    · simp only [List.filterMap_cons]
      exact Effect.callbacks_records _

/-- Of the effects of `Item.read`, one reads from a socket, and that socket is `fd`. -/
theorem reads_read (item : Item) : (item.read c role fd).1.filterMap Effect.read? = [fd] := by
  cases item with
  | failure e =>
    simp only [Item.read, List.filterMap_cons, Effect.read?, reads_records]
  | datagram bytes controls =>
    simp only [Item.read]
    split
    · rfl
    · simp only [List.filterMap_cons, Effect.read?, reads_records]

/-- The reading of an item with `endsTurn` is `.networkDown` for the failure `Errno.networkDown`,
    and `.nothing` for all others. -/
theorem reading_of_endsTurn {item : Item} (ends : item.endsTurn = true) :
    (item.read c role fd).2 =
      if item = .failure Errno.networkDown then .networkDown else .nothing := by
  cases item with
  | failure e =>
    simp only [Item.read, Item.failure.injEq]
  | datagram bytes controls =>
    have none_read : min bytes.length fdSize = 0 := Item.size_eq_zero.mpr ends
    simp only [Item.read, none_read, if_true, reduceCtorEq, if_false]

/-- The reading of an item without `endsTurn` is `.event item.size e`, for `e` the event of
    `event?`. -/
theorem reading_of_not_endsTurn {item : Item} (goes : item.endsTurn = false) :
    ∃ e, (item.read c role fd).2 = .event item.size e ∧ item.event? c role fd = some e := by
  cases item with
  | failure e => exact absurd goes (by simp [Item.endsTurn])
  | datagram bytes controls =>
    have some_read : min bytes.length fdSize ≠ 0 := Nat.ne_of_gt (Item.size_pos goes)
    refine ⟨.ofDatagram c role fd bytes controls, ?_, rfl⟩
    simp only [Item.read, Item.size, some_read, if_false]

end Receive

/-! ### Handlers that come back -/

namespace Registry

/-- No handler panics: all registered handlers have `Conduct.returns`. -/
def Returns (r : Registry) : Prop :=
  (∀ entry ∈ r.rx, entry.2.conduct = .returns) ∧
    ∀ name conduct, .observer name conduct ∈ r.errors → conduct = .returns

namespace Returns

variable {r : Registry}

/-- The callbacks of `announce n` are calls of handlers that return. -/
theorem conduct_announce (quiet : r.Returns) (n : Notice) : ∀ c ∈ r.announce n, c.conduct = .returns := by
  intro c hc
  obtain ⟨handler, hh, rfl⟩ := List.mem_map.mp hc
  cases handler with
  | observer name conduct => exact quiet.2 name conduct hh
  | _                     => rfl

/-- The callbacks of `deliveries e`, those of notices and those of frames, are calls of handlers that
    return. -/
theorem conduct_deliveries (quiet : r.Returns) (e : Event) :
    ∀ c ∈ r.deliveries e, c.conduct = .returns := by
  intro c hc
  rcases List.mem_append.mp hc with hc | hc
  · obtain ⟨n, -, told⟩ := List.mem_flatMap.mp hc
    exact quiet.conduct_announce n c told
  · unfold frameCalls at hc
    split at hc
    · split at hc
      · obtain ⟨handler, hh, rfl⟩ := List.mem_map.mp hc
        obtain ⟨entry, he, rfl⟩ := List.mem_map.mp hh
        exact quiet.1 entry (List.mem_filter.mp he).1
      · exact absurd hc List.not_mem_nil
    · exact absurd hc List.not_mem_nil

/-- No callback of `announce n` panics, whatever was called before. -/
theorem announce (quiet : r.Returns) (n : Notice) (made : List Callback) :
    Callback.anyPanics made (r.announce n) = false :=
  Callback.anyPanics_of_returns (quiet.conduct_announce n)

/-- No callback of `deliveries e` panics, whatever was called before. -/
theorem deliveries (quiet : r.Returns) (e : Event) (made : List Callback) :
    Callback.anyPanics made (r.deliveries e) = false :=
  Callback.anyPanics_of_returns (quiet.conduct_deliveries e)

end Returns

end Registry

/-! ### A whole turn -/

namespace Session

section Drain

variable {s : Session} {fd : Fd} {idle : Errno} {dropped : UInt32} {made : List Callback} {item : Item}
  {rest : List Item}

/-- `Session.drain` on a queue that begins with an `endsTurn` item: one receive, and the rest of the
    queue stays. -/
theorem drain_cons_of_endsTurn (ends : item.endsTurn = true) :
    s.drain fd idle dropped made (item :: rest) =
      { effects := (item.read s.config (s.roleOf fd) fd).1
        rest    := rest
        dropped := dropped
        ending  := if item = .failure Errno.networkDown then .networkDown else .emptied } := by
  have brings := reading_of_endsTurn s.config (s.roleOf fd) fd ends
  rw [drain]
  generalize item.read s.config (s.roleOf fd) fd = receive at brings ⊢
  obtain ⟨effects, reading⟩ := receive
  obtain rfl := brings
  by_cases down : item = .failure Errno.networkDown
  · simp only [down, if_true]
  · simp only [down, if_false]

/-- `Session.drain` on a queue that begins with a datagram of event `e`: its callbacks up to a
    panic, and then the drain of the rest, unless there was one. -/
theorem drain_cons_of_event {e : Event} (goes : item.endsTurn = false)
    (brings : item.event? s.config (s.roleOf fd) fd = some e) :
    s.drain fd idle dropped made (item :: rest) =
      let effects := (item.read s.config (s.roleOf fd) fd).1 ++
        Callback.effectsOf made (s.registry.deliveries e)
      if Callback.anyPanics made (s.registry.deliveries e) then
        ⟨effects, rest, keptDropped dropped e, .panicked⟩
      else
        let more := s.drain fd idle (keptDropped dropped e) (made ++ s.registry.deliveries e) rest
        { more with effects := effects ++ more.effects } := by
  obtain ⟨e', reading, event⟩ := reading_of_not_endsTurn s.config (s.roleOf fd) fd goes
  obtain rfl : e' = e := Option.some.inj (event.symm.trans brings)
  rw [drain]
  generalize item.read s.config (s.roleOf fd) fd = receive at reading ⊢
  obtain ⟨effects, _⟩ := receive
  obtain rfl := reading
  rfl

end Drain

/-- What a turn `t` on `queue` comes to where no handler panics, told from the items alone. -/
structure DrainSpec (s : Session) (fd : Fd) (dropped : UInt32) (queue : List Item) (t : Turn) :
    Prop where
  /-- The callbacks are those of `turnEvents`, event by event. -/
  callbacks : t.effects.filterMap Effect.callback? =
    (s.turnEvents fd queue).flatMap s.registry.deliveries
  /-- There is one receive for each of `turnItems`, and one for the item that ends the turn. -/
  reads     : t.effects.filterMap Effect.read? = List.replicate ((turnItems queue).length + 1) fd
  rest      : t.rest = afterTurn queue
  dropped   : t.dropped = (s.turnEvents fd queue).foldl keptDropped dropped
  ending    : t.ending = if meetsDown queue then .networkDown else .emptied

/-- **A turn delivers the datagrams before the item that ends it, and reads no further.** By
    induction on the queue; no handler panics, so that each datagram is delivered in full. -/
theorem drain_spec {s : Session} (quiet : s.registry.Returns) (fd : Fd) (idle : Errno)
    (queue : List Item) (dropped : UInt32) (made : List Callback) :
    s.DrainSpec fd dropped queue (s.drain fd idle dropped made queue) := by
  induction queue generalizing dropped made with
  | nil =>
    -- The end of the queue is one more receive, which fails with `idle`.
    have silent := callbacks_read s.config (s.roleOf fd) fd (.failure idle)
    have one := reads_read s.config (s.roleOf fd) fd (.failure idle)
    exact ⟨silent, one, rfl, rfl, rfl⟩
  | cons item rest ih =>
    cases ends : item.endsTurn with
    | true =>
      -- The turn ends here, so the rest of the queue is not looked at.
      have none_read : turnItems (item :: rest) = [] := by simp [turnItems, ends]
      rw [drain_cons_of_endsTurn ends]
      refine ⟨?_, ?_, ?_, ?_, ?_⟩
      · simp [turnEvents, none_read, callbacks_read]
      · simp [none_read, reads_read]
      · simp [afterTurn, ends]
      · simp [turnEvents, none_read]
      · simp [meetsDown, ends]
    | false =>
      obtain ⟨e, -, brings⟩ := reading_of_not_endsTurn s.config (s.roleOf fd) fd ends
      -- The turn of the rest starts from the drop counter that this datagram leaves.
      have more := ih (keptDropped dropped e) (made ++ s.registry.deliveries e)
      have items : turnItems (item :: rest) = item :: turnItems rest := by simp [turnItems, ends]
      have events : s.turnEvents fd (item :: rest) = e :: s.turnEvents fd rest := by
        simp [turnEvents, items, brings]
      rw [drain_cons_of_event ends brings, quiet.deliveries e made]
      simp only [Bool.false_eq_true, if_false]
      refine ⟨?_, ?_, ?_, ?_, ?_⟩
      · have all := Callback.untilPanic_eq_self (quiet.deliveries e made)
        simp [events, callbacks_read, all, more.callbacks]
      · simp [items, reads_read, more.reads, List.replicate_succ]
      · simp [afterTurn, ends, more.rest]
      · simp [events, more.dropped]
      · simp [meetsDown, ends, more.ending]

end Session

end CanDriver
