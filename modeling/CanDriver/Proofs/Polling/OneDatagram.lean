import CanDriver.Proofs.Frames.RoundTrip
import CanDriver.Scenario

namespace CanDriver

/-!
# One poll, at most one datagram

A poll for one datagram writes over the event of its caller, part by part.  Here it is carried out
that way, on an event that keeps what was written before a failure:

* `OverEvent` — computations on a session, its host and the event of a caller;
* `OverEvent.pollOnce` — the event is cleared as soon as the lock is taken, the bytes of a datagram
  come to lie over its frame, and what is known of the datagram is added;
* `OverEvent.pollOnce_eq` — this comes to the same as `Session.pollOnce`, which answers a new event:
  nothing of the old one shows through;
* `Session.firstReady?` — the one socket that the poll reads from;
* `Session.OneRead` — what such a poll does, and what it leaves alone.
-/

open Host

/-! ### Writing over a frame -/

/-- `natOfBytes (bs.take n)` only depends on the first `n` bytes of `bs`, where bytes that are
    missing count as 0. -/
theorem natOfBytes_take_congr (n : Nat) {bs cs : List UInt8}
    (same : ∀ i < n, bs.getD i 0 = cs.getD i 0) :
    natOfBytes (bs.take n) = natOfBytes (cs.take n) := by
  have first (n : Nat) (bs : List UInt8) :
      natOfBytes (bs.take (n + 1)) = (bs.getD 0 0).toNat + 256 * natOfBytes (bs.tail.take n) := by
    cases bs with
    | nil       => simp [natOfBytes]
    | cons b bs => rfl
  induction n generalizing bs cs with
  | zero => rfl
  | succ n ih =>
    have rest : natOfBytes (bs.tail.take n) = natOfBytes (cs.tail.take n) := by
      refine ih fun i inside => ?_
      have next := same (i + 1) (Nat.succ_lt_succ inside)
      cases bs <;> cases cs <;> exact next
    rw [first, first, same 0 (Nat.succ_pos n), rest]

namespace Frame

/-- `Frame.ofWire bs` only depends on the first `fdSize` bytes of `bs`, where bytes that are missing
    count as 0. -/
theorem ofWire_congr {bs cs : List UInt8} (same : ∀ i < fdSize, bs.getD i 0 = cs.getD i 0) :
    ofWire bs = ofWire cs := by
  have word : wordOfBytes bs = wordOfBytes cs :=
    congrArg UInt32.ofNat (natOfBytes_take_congr 4 fun i inside =>
      same i (Nat.lt_trans inside (by decide)))
  have data : room (bs.drop 8) = room (cs.drop 8) := by
    ext i inside
    have byte := same (8 + i) (Nat.add_lt_add_left inside 8)
    rw [List.getD_eq_getElem?_getD, List.getD_eq_getElem?_getD] at byte
    rw [getElem_room inside, getElem_room inside, List.getD_eq_getElem?_getD,
      List.getD_eq_getElem?_getD, List.getElem?_drop, List.getElem?_drop, byte]
  simp only [ofWire, word, data, same 4 (by decide), same 5 (by decide), same 6 (by decide),
    same 7 (by decide)]

/-- The frame `f` with `bytes` written over its layout, as many as it has room for. -/
def overwritten (bytes : List UInt8) (f : Frame) : Frame :=
  ofWire (bytes ++ f.wire.drop bytes.length)

/-- `Frame.ofWire` is `overwritten` on the empty frame. -/
theorem overwritten_empty (bytes : List UInt8) : empty.overwritten bytes = ofWire bytes := by
  refine ofWire_congr fun i inside => ?_
  have zeros : empty.wire = List.replicate fdSize 0 := by decide
  rw [zeros, List.drop_replicate, List.getD_eq_getElem?_getD, List.getD_eq_getElem?_getD,
    List.getElem?_append]
  split
  · rfl
  · next missing =>
    rw [List.getElem?_replicate, List.getElem?_eq_none (Nat.le_of_not_lt missing)]
    split <;> rfl

end Frame

/-! ### Writing over an event -/

/-- The state of an `OverEvent` computation: a session, the event of the caller, and the host. -/
structure Caller where
  session : Session
  event   : Event
  host    : Host

/-- A computation that writes over the event of a caller. What was written before a
    `Failure` stays. -/
abbrev OverEvent := EStateM Failure Caller

namespace OverEvent

variable {α : Type}

/-- Asks the session and the kernel. -/
def view (question : Session → Kernel → α) : OverEvent α := do
  let x ← get
  return question x.session x.host.kernel

/-- Changes a part of the event. -/
def write (part : Event → Event) : OverEvent Unit :=
  modify fun x => { x with event := part x.event }

/-- `Session.keptDropped` with the event of the caller. -/
def noteDropped : OverEvent Unit :=
  modify fun x =>
    { x with session := { x.session with dropped := Session.keptDropped x.session.dropped x.event } }

/-- Runs an action of the session on the host. -/
def call (action : Session → HostM Failure α) : OverEvent α := fun x =>
  match action x.session x.host with
  | .ok a h    => .ok a { x with host := h }
  | .error f h => .error f { x with host := h }

/-- Adds the log records `rs`. -/
def say (rs : List Log.Record) : OverEvent Unit := call fun _ => addAll (rs.map .record)

/-- One `receive` call on `fd`. The bytes of a datagram are written over the frame of the event; a
    failure writes nothing. -/
def receive (fd : Fd) : OverEvent (Except Errno (Nat × List ControlMessage)) := do
  let item ← view fun _ k => k.front fd
  call fun _ => modifyKernel fun k => k.setQueue fd (k.queue fd).tail
  match item with
  | .failure e =>
    call fun _ => record (.receive fd (.error e))
    return .error e
  | .datagram bytes controls =>
    let size := min bytes.length fdSize
    call fun _ => record (.receive fd (.ok size))
    write fun event => { event with frame := event.frame.overwritten bytes }
    return .ok (size, controls)

/-- What is known of a datagram of a receive socket beside its bytes. The time stamp is only written
    where `Ancillary.timestamp?` finds one. -/
def annotate (fd : Fd) (controls : List ControlMessage) : OverEvent Unit := do
  let c ← view fun s _ => s.config
  if c.processHeader then
    let a := Ancillary.ofMessages (ControlMessage.deliver Event.controlSpace controls)
    match a.timestamp? c.hwTimestamp with
    | some time => write fun event => { event with timestamp := UInt64.ofNat time.nanos }
    | none      => pure ()
    write fun event => { event with dropped := a.dropped.getD 0 }
    say (Item.droppedRecords (a.dropped.getD 0))
  write fun event => { event with isRx := true }
  write fun event => { event with origin := some fd }

/-- `Session.readOne`, written over the event of the caller. -/
def readOne (fd : Fd) : OverEvent Nat := do
  match ← receive fd with
  | .error e =>
    say (Item.failureRecords fd e)
    if e = Errno.networkDown then
      call (·.readError fd .networkDown)
      throw Session.downFailure
    return 0
  | .ok (size, controls) =>
    if size = 0 then return 0
    match ← view fun s _ => s.roleOf fd with
    | .receive  => annotate fd controls
    | .transmit => pure ()
    write fun event => { event with isError := event.frame.isError }
    noteDropped
    return size

/-- `Session.pollOnce`, written over the event of the caller, which is cleared as soon as the lock
    is taken. -/
def pollOnce (timeout : Option Duration) : OverEvent Nat := do
  call (·.lock)
  write Event.clear
  match ← call (·.waitFor timeout) with
  | .ok []        => return 0
  | .ok (fd :: _) => readOne fd
  | .error e      =>
    if e = Errno.interrupted then return 0
    throw (← call (·.waitError e))

end OverEvent

/-! ### The wait -/

namespace Session

/-- The answer of `Session.waitFor`: the scripted failure, or `Session.served`. -/
def waitAnswer (s : Session) (k : Kernel) : Except Errno (List Fd) :=
  match k.nextFault .wait with
  | some e => .error e
  | none   => .ok (s.served k)

/-- `Session.waitFor` answers `waitAnswer`, and leaves callbacks, reads and queues as they are. -/
theorem waitFor_spec (s : Session) (timeout : Option Duration) (h : Host) :
    ∃ h₁, (∀ ε, (s.waitFor timeout : HostM ε (Except Errno (List Fd))) h =
        .ok (s.waitAnswer h.kernel) h₁) ∧
      h₁.journal.callbacks = h.journal.callbacks ∧ h₁.journal.reads = h.journal.reads ∧
      ∀ fd, h₁.kernel.queue fd = h.kernel.queue fd := by
  unfold waitFor waitAnswer
  cases fails : h.kernel.nextFault .wait with
  | none =>
    obtain ⟨h₁, run, calls, reads, queues⟩ := wait_of_nextFault fails
      (s.waitSet.descriptors none) (Duration.pollMillis timeout)
    rw [ready_descriptors] at run
    exact ⟨h₁, fun _ => attempt_ok run, calls, reads, queues⟩
  | some e =>
    refine ⟨_, fun _ => attempt_error (wait_of_fault fails _ _), ?_, ?_, fun _ => rfl⟩
    · exact Journal.callbacks_push_silent rfl _
    · rw [Journal.reads_push]
      exact List.append_nil _

end Session

/-! ### Both come to the same -/

/-- An answer as a result of `OverEvent`, in the state `x`. -/
def OverEvent.result (answer : Except Failure Nat) (x : Caller) : EStateM.Result Failure Caller Nat :=
  match answer with
  | .ok n    => .ok n x
  | .error f => .error f x

/-- The result of `m`, which answers a new event, as that of a computation that writes over one. -/
def OverEvent.left (m : HostM Empty (Session × Event × Except Failure Nat)) (h : Host) :
    EStateM.Result Failure Caller Nat :=
  match m h with
  | .ok (s, event, answer) h => result answer ⟨s, event, h⟩
  | .error never _           => never.elim

namespace OverEvent

section Agreement

variable {α β : Type} {s : Session} {event : Event} {h h' : Host} {fd : Fd}

/-- `OverEvent.call` of an action that succeeds leaves session and event as they are. -/
theorem call_ok {action : Session → HostM Failure β} {b : β} (run : action s h = .ok b h') :
    call action ⟨s, event, h⟩ = .ok b ⟨s, event, h'⟩ := by
  rw [call, run]

/-- `OverEvent.call` of an action that fails leaves session and event as they are. -/
theorem call_error {action : Session → HostM Failure β} {f : Failure}
    (run : action s h = .error f h') : call action ⟨s, event, h⟩ = .error f ⟨s, event, h'⟩ := by
  rw [call, run]

@[simp] theorem view_bind {question : Session → Kernel → β} {p : β → OverEvent α} :
    (view question >>= p) ⟨s, event, h⟩ = p (question s h.kernel) ⟨s, event, h⟩ := rfl

@[simp] theorem write_bind {part : Event → Event} {p : Unit → OverEvent α} :
    (write part >>= p) ⟨s, event, h⟩ = p () ⟨s, part event, h⟩ := rfl

/-- `OverEvent.receive` that meets a failure leaves the event as it is. -/
theorem receive_of_failure {e : Errno} (front : h.kernel.front fd = .failure e) :
    receive fd ⟨s, event, h⟩ = .ok (.error e) ⟨s, event,
      { kernel  := h.kernel.setQueue fd (h.kernel.queue fd).tail
        journal := h.journal.push (.call (.receive fd (.error e))) }⟩ := by
  rw [receive, view_bind, front]
  rfl

/-- `OverEvent.receive` that meets a datagram writes its bytes over the frame, and keeps the rest of
    the event. -/
theorem receive_of_datagram {bytes : List UInt8} {controls : List ControlMessage}
    (front : h.kernel.front fd = .datagram bytes controls) :
    receive fd ⟨s, event, h⟩ = .ok (.ok (min bytes.length fdSize, controls))
      ⟨s, { event with frame := event.frame.overwritten bytes },
        { kernel  := h.kernel.setQueue fd (h.kernel.queue fd).tail
          journal := h.journal.push (.call (.receive fd (.ok (min bytes.length fdSize)))) }⟩ := by
  rw [receive, view_bind, front]
  rfl

/-- `OverEvent.annotate` on an event that is blank but for its frame: all fields of the result, each
    from `Event.ancillaryOf`. -/
theorem annotate_apply {f : Frame} {controls : List ControlMessage} :
    annotate fd controls ⟨s, { Event.blank with frame := f }, h⟩ =
      let a := Event.ancillaryOf s.config controls
      .ok () ⟨s,
        { frame     := f
          timestamp := UInt64.ofNat ((a.timestamp? s.config.hwTimestamp).getD Duration.zero).nanos
          dropped   := a.dropped.getD 0
          origin    := some fd
          isRx      := true
          isError   := false },
        { h with journal := h.journal ++ (Item.droppedRecords (a.dropped.getD 0)).map Effect.record }⟩ := by
  unfold annotate Event.ancillaryOf
  rw [view_bind]
  -- Without headers there are no messages, and a blank event has the time zero already.
  cases s.config.processHeader with
  | false =>
    have unknown : Ancillary.none.timestamp? s.config.hwTimestamp = none := by
      cases s.config.hwTimestamp <;> rfl
    simp only [Bool.false_eq_true, if_false, unknown]
    rfl
  | true  =>
    simp only [if_true]
    generalize Ancillary.ofMessages (ControlMessage.deliver Event.controlSpace controls) = a
    cases a.timestamp? s.config.hwTimestamp <;> rfl

/-- `OverEvent.readOne` on a blank event is `Session.readOne`, which answers a new one. -/
theorem readOne_eq : readOne fd ⟨s, .blank, h⟩ = left (s.readOne fd) h := by
  unfold left
  rw [readOne, Session.readOne, bind_ok (ask_apply ..)]
  cases front : h.kernel.front fd with
  | failure e =>
    rw [bind_ok (receive_of_failure front)]
    simp only [Item.read]
    by_cases down : e = Errno.networkDown
    · simp only [down, if_true]
      rfl
    · simp only [down, if_false]
      rfl
  | datagram bytes controls =>
    rw [bind_ok (receive_of_datagram front)]
    simp only [Item.read]
    by_cases nothing : min bytes.length fdSize = 0
    · -- An empty datagram writes nothing over the frame.
      have no_bytes : bytes = [] := by
        rw [← List.length_eq_zero_iff]
        simp only [fdSize] at nothing
        omega
      subst no_bytes
      have still : Event.blank.frame.overwritten [] = Event.blank.frame := by decide
      simp only [nothing, if_true, still]
      rfl
    · simp only [nothing, if_false]
      rw [view_bind]
      unfold Event.ofDatagram
      have frame : Event.blank.frame.overwritten bytes = Frame.ofWire bytes :=
        Frame.overwritten_empty bytes
      rw [frame]
      cases s.roleOf fd with
      | transmit => rfl
      | receive  => exact (bind_ok annotate_apply).trans rfl

/-- **Writing over an event comes to the same as answering a new one**, which stands in place of the
    old one as soon as the lock is taken. -/
theorem pollOnce_eq (timeout : Option Duration) :
    pollOnce timeout ⟨s, event, h⟩ = left (s.pollOnce timeout event) h := by
  unfold pollOnce left
  rw [Session.pollOnce]
  -- The event is cleared behind the lock: before it, both sides keep the old one.
  cases poisoned : s.poisoned with
  | true =>
    have refused := Session.lock_of_poisoned poisoned h
    rw [bind_error (call_error refused), bind_ok (attempt_error refused)]
    rfl
  | false =>
    have taken := Session.lock_of_sound poisoned h
    rw [bind_ok (call_ok taken), bind_ok (attempt_ok taken), write_bind]
    -- From here on the event is blank on both sides.
    obtain ⟨h₁, waited, -⟩ := Session.waitFor_spec s timeout h
    rw [bind_ok (call_ok (waited Failure))]
    dsimp only
    rw [bind_ok (waited Empty)]
    cases s.waitAnswer h.kernel with
    | ok ready =>
      cases ready with
      | nil         => rfl
      | cons fd fds => exact readOne_eq
    | error e  =>
      by_cases interrupted : e = Errno.interrupted
      · simp only [interrupted, if_true]
        rfl
      · simp only [interrupted, if_false]
        rfl

end Agreement

end OverEvent

/-! ### What one poll does -/

namespace Session

/-- The socket that `Session.pollOnce` reads from: the first that is reported ready among the
    receive sockets, in ascending order, and the transmit socket. It is `none` where the lock is
    poisoned or the wait fails. -/
def firstReady? (s : Session) (k : Kernel) : Option Fd :=
  if s.poisoned ∨ (k.nextFault .wait).isSome then none
  else (s.waitSet.rx ++ s.waitSet.tx.toList).find? fun fd => k.report fd &&& Kernel.readable ≠ 0

/-- The answer of `Session.pollOnce`, told from the session and the queues. -/
def onceAnswer (s : Session) (k : Kernel) : Except Failure Nat :=
  if s.poisoned then .error (.ofCode .lockPoisoned)
  else match k.nextFault .wait with
    | some e => if e = Errno.interrupted then .ok 0 else .error (.os .pollWait e)
    | none   =>
      match s.firstReady? k with
      | none    => .ok 0
      | some fd =>
        if (k.queue fd).head? = some (.failure Errno.networkDown) then .error downFailure
        else .ok (((k.queue fd).head?.map Item.size).getD 0)

/-- The answer is no number of bytes above 0. -/
def Nothing (answer : Except Failure Nat) : Prop := ∀ n, 0 < n → answer ≠ .ok n

theorem nothing_zero : Nothing (.ok 0) := by
  rintro n some_read is
  cases is
  exact absurd some_read (Nat.lt_irrefl 0)

theorem nothing_error (f : Failure) : Nothing (.error f) := fun _ _ is => nomatch is

/-- `Session.pollOnce` from the session `s`, the event `event` and the host `h`: what it does, and
    what it leaves alone. -/
structure OneRead (s : Session) (event : Event) (h : Host) (s' : Session) (event' : Event)
    (answer : Except Failure Nat) (h' : Host) : Prop where
  /-- No callback is made. -/
  callbacks : h'.journal.callbacks = h.journal.callbacks
  /-- There is one receive, on `firstReady?`, or none. -/
  reads     : h'.journal.reads = h.journal.reads ++ (s.firstReady? h.kernel).toList
  /-- The queue of `firstReady?` loses its first item; all other queues stay. -/
  queues    : ∀ fd, h'.kernel.queue fd =
    if s.firstReady? h.kernel = some fd then (h.kernel.queue fd).tail else h.kernel.queue fd
  /-- Nothing but `dropped` changes. -/
  session   : s' = { s with dropped := s'.dropped }
  answers   : answer = s.onceAnswer h.kernel
  /-- Where bytes are read, the event is `Event.ofDatagram` of the datagram, whatever `event` was,
      and its drop counter is kept unless it is zero. -/
  brings    : ∀ n, 0 < n → answer = .ok n → ∃ fd bytes controls rest,
    s.firstReady? h.kernel = some fd ∧ h.kernel.queue fd = .datagram bytes controls :: rest ∧
      n = min bytes.length fdSize ∧
      event' = .ofDatagram s.config (s.roleOf fd) fd bytes controls ∧
      s'.dropped = if event'.dropped = 0 then s.dropped else event'.dropped
  /-- Where none are and the lock is free, the event is blank. -/
  blank     : s.poisoned = false → Nothing answer → event' = .blank
  /-- Where the lock is poisoned, event and kernel stay as they are. -/
  lockedOut : s.poisoned = true → event' = event ∧ h'.kernel = h.kernel
  /-- Where no bytes are read, `dropped` stays. -/
  dropped   : Nothing answer → s'.dropped = s.dropped

variable {s : Session} {event : Event} {h h₁ : Host} {fd : Fd}

/-- With the lock and without a scripted failure, `firstReady?` is the first of `Session.served`. -/
theorem firstReady?_eq (free : s.poisoned = false) (reports : h.kernel.nextFault .wait = none) :
    s.firstReady? h.kernel = (s.served h.kernel).head? := by
  rw [firstReady?, if_neg (by simp [free, reports]), served, List.head?_filter]

/-- `OneRead` for a poll that ends before it reads. -/
theorem OneRead.unread {answer : Except Failure Nat} (none_ready : s.firstReady? h.kernel = none)
    (answers : answer = s.onceAnswer h.kernel) (nothing : Nothing answer)
    {event' : Event} (writes : event' = if s.poisoned then event else .blank)
    (calls : h₁.journal.callbacks = h.journal.callbacks)
    (reads : h₁.journal.reads = h.journal.reads)
    (queues : ∀ fd, h₁.kernel.queue fd = h.kernel.queue fd)
    (still : s.poisoned = true → h₁.kernel = h.kernel) :
    s.OneRead event h s event' answer h₁ where
  callbacks := calls
  reads := by rw [none_ready, reads, Option.toList_none, List.append_nil]
  queues fd := by rw [none_ready, queues]; simp
  session := rfl
  answers := answers
  brings n some_read is := absurd is (nothing n some_read)
  blank free _ := by rw [writes, free]; rfl
  lockedOut poisoned := ⟨by rw [writes, poisoned]; rfl, still poisoned⟩
  dropped _ := rfl

/-- `Session.readOne` makes no callback and takes the first item from the queue of `fd`. Either that
    item has `endsTurn` and the event is blank, or the event is that of the item. -/
theorem readOne_spec (s : Session) (fd : Fd) (h : Host) :
    ∃ s' event answer h', (s.readOne fd : HostM Empty (Session × Event × Except Failure Nat)) h =
        .ok (s', event, answer) h' ∧
      h'.kernel = h.kernel.setQueue fd (h.kernel.queue fd).tail ∧
      h'.journal.callbacks = h.journal.callbacks ∧
      h'.journal.reads = h.journal.reads ++ [fd] ∧
      ((h.kernel.front fd).endsTurn = true ∧ s' = s ∧ event = .blank ∧
          answer = (if h.kernel.front fd = .failure Errno.networkDown then .error downFailure
            else .ok 0) ∨
        (h.kernel.front fd).endsTurn = false ∧ s' = { s with dropped := keptDropped s.dropped event } ∧
          s.eventOf? (fd, h.kernel.front fd) = some event ∧
          answer = .ok (h.kernel.front fd).size) := by
  have silent := callbacks_read s.config (s.roleOf fd) fd (h.kernel.front fd)
  have once := reads_read s.config (s.roleOf fd) fd (h.kernel.front fd)
  -- What the receive leaves in the journal, before a network that is down is complained of.
  have calls : Journal.callbacks
      (h.journal ++ ((h.kernel.front fd).read s.config (s.roleOf fd) fd).1) = h.journal.callbacks := by
    rw [Journal.callbacks_append, silent, List.append_nil]
  have reads : Journal.reads
      (h.journal ++ ((h.kernel.front fd).read s.config (s.roleOf fd) fd).1) = h.journal.reads ++ [fd] := by
    rw [Journal.reads_append, once]
  rw [readOne, bind_ok (ask_apply ..)]
  cases ends : (h.kernel.front fd).endsTurn with
  | true =>
    have brings := reading_of_endsTurn s.config (s.roleOf fd) fd ends
    generalize (h.kernel.front fd).read s.config (s.roleOf fd) fd = receive at calls reads brings ⊢
    obtain ⟨effects, reading⟩ := receive
    obtain rfl := brings
    by_cases down : h.kernel.front fd = .failure Errno.networkDown
    · simp only [down, if_true]
      refine ⟨_, _, _, _, rfl, rfl, ?_, ?_, .inl ⟨trivial, rfl, rfl, rfl⟩⟩
      · exact (Journal.callbacks_push_silent rfl _).trans calls
      · rw [Journal.reads_push]
        exact (List.append_nil _).trans reads
    · simp only [down, if_false]
      exact ⟨_, _, _, _, rfl, rfl, calls, reads, .inl ⟨trivial, rfl, rfl, rfl⟩⟩
  | false =>
    obtain ⟨e, brings, event⟩ := reading_of_not_endsTurn s.config (s.roleOf fd) fd ends
    generalize (h.kernel.front fd).read s.config (s.roleOf fd) fd = receive at calls reads brings ⊢
    obtain ⟨effects, reading⟩ := receive
    obtain rfl := brings
    exact ⟨_, _, _, _, rfl, rfl, calls, reads, .inr ⟨rfl, rfl, event, rfl⟩⟩

/-- `Kernel.front` is the head of the queue, or, where that is empty, a failure other than
    `networkDown`. -/
theorem front_cases (k : Kernel) (fd : Fd) :
    (∃ rest, k.queue fd = k.front fd :: rest) ∨
      k.queue fd = [] ∧ ∃ e, e ≠ Errno.networkDown ∧ k.front fd = .failure e := by
  unfold Kernel.front
  cases k.queue fd with
  | cons item rest => exact .inl ⟨rest, rfl⟩
  | nil            =>
    refine .inr ⟨rfl, _, ?_, rfl⟩
    unfold Kernel.idleError
    split <;> decide

/-- `OneRead` for a poll that found `firstReady? = some fd`, from the host `h₁` behind its wait. -/
theorem readOne_oneRead (event : Event) (free : s.poisoned = false)
    (reports : h.kernel.nextFault .wait = none) (first : s.firstReady? h.kernel = some fd)
    (calls : h₁.journal.callbacks = h.journal.callbacks) (reads : h₁.journal.reads = h.journal.reads)
    (queues : ∀ fd, h₁.kernel.queue fd = h.kernel.queue fd) :
    ∃ s' event' answer h',
      (s.readOne fd : HostM Empty (Session × Event × Except Failure Nat)) h₁ =
        .ok (s', event', answer) h' ∧ s.OneRead event h s' event' answer h' := by
  obtain ⟨s', event', answer, h', run, kernel, calls', reads', outcome⟩ := readOne_spec s fd h₁
  refine ⟨s', event', answer, h', run, ?_⟩
  have met := front_cases h₁.kernel fd
  rw [queues] at met
  -- What both endings share: the queues, the answer and the reads.
  have taken (fd' : Fd) : h'.kernel.queue fd' =
      if s.firstReady? h.kernel = some fd' then (h.kernel.queue fd').tail else h.kernel.queue fd' := by
    rw [kernel, Kernel.queue_setQueue_map List.tail rfl, queues, queues, first]
    by_cases same : fd' = fd
    · simp [same]
    · simp [same, Ne.symm same]
  have answered : s.onceAnswer h.kernel =
      if (h.kernel.queue fd).head? = some (.failure Errno.networkDown) then .error downFailure
      else .ok (((h.kernel.queue fd).head?.map Item.size).getD 0) := by
    simp only [onceAnswer, free, reports, first, Bool.false_eq_true, if_false]
  have once : h'.journal.reads = h.journal.reads ++ (s.firstReady? h.kernel).toList := by
    rw [reads', reads, first, Option.toList_some]
  -- Either the item ends the turn, so that nothing is read, or it is a datagram.
  rcases outcome with ⟨ends, rfl, rfl, rfl⟩ | ⟨goes, rfl, brings, rfl⟩
  · have nothing : Nothing (if h₁.kernel.front fd = .failure Errno.networkDown then
        .error downFailure else .ok 0) := by
      split
      · exact nothing_error _
      · exact nothing_zero
    refine ⟨calls'.trans calls, once, taken, rfl, ?_, ?_, ?_, ?_, fun _ => rfl⟩
    · rw [answered]
      rcases met with ⟨rest, queue⟩ | ⟨queue, e, up, front⟩
      · have zero : (h₁.kernel.front fd).size = 0 := Item.size_eq_zero.mpr ends
        simp [queue, zero]
      · simp [queue, front, up]
    · exact fun n some_read is => absurd is (nothing n some_read)
    · exact fun _ _ => rfl
    · exact fun poisoned => absurd (free.symm.trans poisoned) Bool.false_ne_true
  · -- An item without `endsTurn` is a datagram, and stands in the queue: an empty queue has a failure in front.
    obtain ⟨bytes, controls, front⟩ : ∃ bytes controls,
        h₁.kernel.front fd = .datagram bytes controls := by
      cases front : h₁.kernel.front fd with
      | failure e               => exact nomatch (front ▸ goes : (Item.failure e).endsTurn = false)
      | datagram bytes controls => exact ⟨bytes, controls, rfl⟩
    rw [front] at met brings goes ⊢
    obtain ⟨rest, queue⟩ : ∃ rest, h.kernel.queue fd = .datagram bytes controls :: rest := by
      rcases met with there | ⟨-, e, -, idle⟩
      · exact there
      · exact nomatch idle
    obtain rfl : Event.ofDatagram s.config (s.roleOf fd) fd bytes controls = event' :=
      Option.some.inj brings
    have some_read := Item.size_pos goes
    refine ⟨calls'.trans calls, once, taken, rfl, ?_, ?_, ?_, ?_, ?_⟩
    · simp [answered, queue]
    · rintro n - is
      obtain rfl := Except.ok.inj is
      exact ⟨fd, bytes, controls, rest, first, queue, rfl, rfl, rfl⟩
    · exact fun _ nothing => absurd rfl (nothing _ some_read)
    · exact fun poisoned => absurd (free.symm.trans poisoned) Bool.false_ne_true
    · exact fun nothing => absurd rfl (nothing _ some_read)

/-- **`Session.pollOnce` ends with `OneRead`**, whatever the session, the readiness of its sockets
    and the outcomes of the wait and of the receive. -/
theorem pollOnce_oneRead (s : Session) (event : Event) (timeout : Option Duration) (h : Host) :
    ∃ s' event' answer h',
      (s.pollOnce timeout event : HostM Empty (Session × Event × Except Failure Nat)) h =
        .ok (s', event', answer) h' ∧ s.OneRead event h s' event' answer h' := by
  rw [pollOnce]
  -- The poll ends at the lock, at the wait, for want of a ready socket, or behind one receive.
  cases poisoned : s.poisoned with
  | true =>
    rw [bind_ok (attempt_error (lock_of_poisoned poisoned h))]
    refine ⟨_, _, _, _, rfl, .unread (by simp [firstReady?, poisoned]) (by simp [onceAnswer, poisoned])
      (nothing_error _) (by simp [poisoned]) ?_ ?_ (fun _ => rfl) fun _ => rfl⟩
    · exact Journal.callbacks_push_silent rfl _
    · rw [Journal.reads_push]
      exact List.append_nil _
  | false =>
    have never : s.poisoned = true → False := fun is => Bool.false_ne_true (poisoned.symm.trans is)
    obtain ⟨h₁, waited, calls, reads, queues⟩ := waitFor_spec s timeout h
    rw [bind_ok (attempt_lock poisoned)]
    dsimp only
    rw [bind_ok (waited Empty)]
    have answer : s.waitAnswer h.kernel = match h.kernel.nextFault .wait with
      | some e => .error e
      | none   => .ok (s.served h.kernel) := rfl
    cases fails : h.kernel.nextFault .wait with
    | some e =>
      have unready : s.firstReady? h.kernel = none := by simp [firstReady?, fails]
      rw [fails] at answer
      rw [answer]
      by_cases interrupted : e = Errno.interrupted
      · simp only [interrupted, if_true]
        exact ⟨_, _, _, _, rfl, .unread unready (by simp [onceAnswer, poisoned, fails, interrupted])
          nothing_zero (by simp [poisoned, Event.clear]) calls reads queues fun is => (never is).elim⟩
      · simp only [interrupted, if_false]
        refine ⟨_, _, _, _, rfl, .unread unready
          (by simp [onceAnswer, poisoned, fails, interrupted])
          (nothing_error _) (by simp [poisoned, Event.clear]) ?_ ?_ queues fun is => (never is).elim⟩
        · exact (Journal.callbacks_push_silent rfl _).trans calls
        · rw [Journal.reads_push]
          exact (List.append_nil _).trans reads
    | none =>
      -- What is reported first is read from, by `readOne_oneRead`.
      have first := firstReady?_eq poisoned fails
      rw [fails] at answer
      rw [answer]
      cases ready : s.served h.kernel with
      | nil =>
        rw [ready] at first
        exact ⟨_, _, _, _, rfl, .unread first
          (by simp [onceAnswer, poisoned, fails, first])
          nothing_zero (by simp [poisoned, Event.clear]) calls reads queues fun is => (never is).elim⟩
      | cons fd others =>
        rw [ready] at first
        exact readOne_oneRead event poisoned fails first calls reads queues

end Session

/-- The reply to a poll for one datagram that ended with this answer and left the event `e`. -/
def Reply.ofRead (e : Event) : Except Failure Nat → Reply
  | .ok n    => .read n e
  | .error f => .failed f

/-- **One poll, at most one datagram, and nothing of an older one.** Without a session, a poll for
    one datagram fails and leaves the event of its caller as it is. With one, the worker is woken
    first, if it waits, and ends its own poll; from then on the caller's poll calls no handler,
    reads from the first ready socket and from no other, once, and changes neither handlers nor the
    wait-set. Where it reads a datagram, the event is that of the datagram alone; with the lock and
    without a datagram it is blank, and without the lock it is what it was. This holds of the event
    that is written over part by part, and of the event that is answered. -/
theorem one_datagram_at_most (i : Interface) (event : Event) (timeout : Option Duration) (h : Host) :
    match i.session? with
    | none    =>
      (Scenario.answer event i (.pollOnce timeout) : HostM Empty (Scenario × Reply)) h =
        .ok (⟨some i, event⟩, .failed (.ofCode .notInitialized)) h
    | some s₀ =>
      ∃ s h₁ s' event' answer h',
        (s₀.wake : HostM Empty Session) h = .ok s h₁ ∧
        (Scenario.answer event i (.pollOnce timeout) : HostM Empty (Scenario × Reply)) h =
          .ok (⟨some { i with session? := some s' }, event'⟩, .ofRead event' answer) h' ∧
        OverEvent.pollOnce timeout ⟨s, event, h₁⟩ = OverEvent.result answer ⟨s', event', h'⟩ ∧
        s.OneRead event h₁ s' event' answer h' := by
  cases there : i.session? with
  | none =>
    dsimp only
    rw [Scenario.answer, Scenario.pollOnce, there]
    rfl
  | some s₀ =>
    obtain ⟨s, h₁, woken⟩ := exists_ok s₀.wake h
    obtain ⟨s', event', answer, h', run, once⟩ := Session.pollOnce_oneRead s event timeout h₁
    refine ⟨s, h₁, s', event', answer, h', woken, ?_, ?_, once⟩
    -- The request is the poll in the session that the worker was woken in.
    · rw [Scenario.answer, Scenario.pollOnce, there]
      refine (bind_ok woken).trans ((bind_ok run).trans ?_)
      cases answer <;> rfl
    -- Written over part by part, the event ends as the one that is answered.
    · rw [OverEvent.pollOnce_eq, OverEvent.left, run]

end CanDriver
