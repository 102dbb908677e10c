import CanDriver.Proofs.Polling.Delivery
import Mathlib.Data.List.TakeWhile

namespace CanDriver

/-!
# One datagram at a time

A caller that polls for single datagrams and delivers each, against one draining poll:

* `Session.pollEach` — the loop of such a caller;
* `Kernel.Undisturbed` — no wait fails, no receive fails, and a wait tells the truth;
* `Kernel.pending` — what waits in sockets, socket by socket; a wait names the socket of its first
  item first (`Kernel.ready_of_pending`), and the receive that follows takes that item and no other
  (`Kernel.pending_of_taken`);
* `Session.Emptied` — all that was pending is delivered, and nothing of it is left;
* `Session.poll_emptied`, `Session.pollEach_emptied` — both ways end there.
-/

/-! ### The loop of a caller -/

namespace Session

open Host

/-- A caller that polls for one datagram and delivers its event, once for each of the timeouts,
    until a poll fails or reads nothing, or a delivery does not end with `.done`. Answers what the
    polls answered. -/
def pollEach {ε : Type} :
    List (Option Duration) → Event → Session → HostM ε (Session × List (Except Failure Nat))
  | [], _, s => return (s, [])
  | timeout :: timeouts, event, s => do
    let (s, event, answer) ← s.pollOnce timeout event
    match answer with
    | .error _ | .ok 0 => return (s, [answer])
    | .ok (_ + 1) =>
      match ← s.dispatch event with
      | (s, .done) =>
        let (s, answers) ← pollEach timeouts event s
        return (s, answer :: answers)
      | (s, _) => return (s, [answer])

end Session

/-! ### What is pending -/

namespace Kernel

/-- The items in the queues of `fds`, each with its descriptor, queue by queue. -/
def pending (fds : List Fd) (k : Kernel) : List (Fd × Item) :=
  fds.flatMap fun fd => (k.queue fd).map (fd, ·)

/-- `fd` is reported readable exactly where its queue is not empty. -/
def Truthful (k : Kernel) (fd : Fd) : Prop := k.report fd &&& readable ≠ 0 ↔ k.queue fd ≠ []

instance (k : Kernel) (fd : Fd) : Decidable (k.Truthful fd) :=
  inferInstanceAs (Decidable (k.report fd &&& readable ≠ 0 ↔ k.queue fd ≠ []))

/-- Nothing disturbs polls that wait for `fds`. -/
structure Undisturbed (fds : List Fd) (k : Kernel) : Prop where
  truthful  : ∀ fd ∈ fds, k.Truthful fd
  /-- Only datagrams of at least one byte wait there. -/
  datagrams : ∀ fd ∈ fds, ∀ item ∈ k.queue fd, item.endsTurn = false
  /-- No wait is scripted to fail. -/
  waits     : ∀ n ∈ k.faults.queue .wait, n = 0

variable {k k' : Kernel} {fds : List Fd} {fd : Fd} {item : Item} {more : List (Fd × Item)}

/-- `Truthful` for a descriptor without an override. -/
theorem truthful_of_override (plain : ∀ s, k.socket? fd = some s → s.override = none) :
    k.Truthful fd := by
  unfold Truthful report queue
  cases found : k.socket? fd with
  | none   => simp [pollInvalid, readable]
  | some s =>
    simp only [plain s found, Option.getD_none]
    cases s.queue <;> simp [pollIn, readable]

/-- Behind `Kernel.dropOverrides fds` no descriptor of `fds` has an override. -/
theorem override_dropOverrides (among : fd ∈ fds) (s : Socket)
    (found : (k.dropOverrides fds).socket? fd = some s) : s.override = none := by
  rw [socket?_dropOverrides] at found
  obtain ⟨before, there, rfl⟩ := Option.map_eq_some_iff.mp found
  have own : before.fd = fd := by simpa using List.find?_some there
  rw [own, if_pos (List.contains_iff_mem.mpr among)]

/-- `Kernel.setQueue` adds no override. -/
theorem override_setQueue {fd' : Fd} {q : List Item}
    (plain : ∀ s, k.socket? fd' = some s → s.override = none) (s : Socket)
    (found : (k.setQueue fd q).socket? fd' = some s) : s.override = none := by
  have changed : (k.setQueue fd q).socket? fd' =
      (k.socket? fd').map fun s => if fd' = fd then { s with queue := q } else s :=
    socket?_modifySocket fun _ => rfl
  rw [changed] at found
  obtain ⟨before, there, rfl⟩ := Option.map_eq_some_iff.mp found
  have clear := plain before there
  split <;> exact clear

/-- `Kernel.ready` for `Truthful` descriptors: those with something in their queues. -/
theorem ready_of_truthful (truthful : ∀ fd ∈ fds, k.Truthful fd) :
    k.ready fds = fds.filter fun fd => k.queue fd ≠ [] :=
  List.filter_congr fun fd hfd => decide_eq_decide.mpr (truthful fd hfd)

/-- `Kernel.pending fds` is `[]` exactly where all queues of `fds` are empty. -/
theorem pending_eq_nil : k.pending fds = [] ↔ ∀ fd ∈ fds, k.queue fd = [] := by
  simp [pending, List.flatMap_eq_nil_iff]

/-- `Kernel.pending` is the same without the descriptors whose queues are empty. -/
theorem pending_filter : k.pending (fds.filter fun fd => k.queue fd ≠ []) = k.pending fds := by
  induction fds with
  | nil => rfl
  | cons fd fds ih =>
    unfold pending at ih ⊢
    by_cases there : k.queue fd = []
    · rw [List.filter_cons_of_neg (by simpa using there), ih, List.flatMap_cons, there]
      rfl
    · rw [List.filter_cons_of_pos (by simpa using there), List.flatMap_cons, List.flatMap_cons, ih]

/-- The first of `Kernel.pending` is the head of its queue, and its descriptor is the first whose
    queue is not empty. -/
theorem ready_of_pending (front : k.pending fds = (fd, item) :: more) :
    fd ∈ fds ∧ k.queue fd = item :: (k.queue fd).tail ∧
      ∃ others, (fds.filter fun fd => k.queue fd ≠ []) = fd :: others := by
  induction fds with
  | nil => exact absurd front (by simp [pending])
  | cons first fds ih =>
    rw [pending, List.flatMap_cons] at front
    cases there : k.queue first with
    | nil =>
      rw [there] at front
      obtain ⟨among, queue, others, only⟩ := ih front
      exact ⟨.tail _ among, queue, others, by simpa [there] using only⟩
    | cons item' rest =>
      rw [there, List.map_cons, List.cons_append] at front
      obtain ⟨same, -⟩ := List.cons.inj front
      obtain ⟨rfl, rfl⟩ := Prod.mk.inj same
      exact ⟨.head _, by rw [there]; rfl, _, by rw [List.filter_cons_of_pos (by simp [there])]⟩

/-- Where that head is taken from its queue and no other queue changes, `Kernel.pending` loses its
    first and nothing else. -/
theorem pending_of_taken (distinct : fds.Nodup) (front : k.pending fds = (fd, item) :: more)
    (taken : ∀ fd', k'.queue fd' = if fd' = fd then (k.queue fd).tail else k.queue fd') :
    k'.pending fds = more := by
  induction fds with
  | nil => exact absurd front (by simp [pending])
  | cons first fds ih =>
    obtain ⟨fresh, distinct⟩ := List.nodup_cons.mp distinct
    rw [pending, List.flatMap_cons] at front ⊢
    -- The item is the head of the first queue that is not empty.
    cases there : k.queue first with
    | nil =>
      rw [there] at front
      have same : k'.queue first = [] := by
        have other : first ≠ fd := fun same => fresh (same ▸ (ready_of_pending front).1)
        rw [taken, if_neg other, there]
      rw [same]
      exact ih distinct front
    | cons item' rest =>
      rw [there, List.map_cons, List.cons_append] at front
      obtain ⟨same, rfl⟩ := List.cons.inj front
      obtain ⟨rfl, rfl⟩ := Prod.mk.inj same
      -- No later descriptor is `first` again, so that their queues stay.
      have kept : ∀ fd ∈ fds, k'.queue fd = k.queue fd := by
        intro fd hfd
        have other : fd ≠ first := fun same => fresh (same ▸ hfd)
        rw [taken, if_neg other]
      rw [taken, if_pos rfl, there, List.tail_cons]
      congr 1
      refine List.flatMap_congr fun fd hfd => ?_
      rw [kept fd hfd]

/-- The kernel behind a wait for `fds` that was not made to fail. -/
def waited (fds : List Fd) (k : Kernel) : Kernel :=
  { k with faults := (k.faults.take .wait).2 }.dropOverrides fds

@[simp] theorem queue_waited : (k.waited fds).queue fd = k.queue fd := queue_dropOverrides

namespace Undisturbed

/-- `Kernel.nextFault .wait` is `none` in an undisturbed kernel. -/
theorem nextFault (calm : k.Undisturbed fds) : k.nextFault .wait = none := by
  have zero := calm.waits
  unfold Kernel.nextFault Faults.take
  cases script : k.faults.queue .wait with
  | nil       => rfl
  | cons n ns =>
    obtain rfl : n = 0 := zero n (by simp [script])
    rfl

/-- `Kernel.waited` keeps `Undisturbed`. -/
theorem waited (calm : k.Undisturbed fds) : (k.waited fds).Undisturbed fds where
  truthful fd hfd := truthful_of_override (override_dropOverrides hfd)
  datagrams fd hfd item there := calm.datagrams fd hfd item (by rwa [queue_waited] at there)
  waits n hn := by
    have left : (k.waited fds).faults.queue .wait = (k.faults.queue .wait).tail := Faults.queue_take
    rw [left] at hn
    exact calm.waits n (List.mem_of_mem_tail hn)

/-- `Kernel.waited`, and then one item less in the queue of `fd`, keeps `Undisturbed`. -/
theorem taken (calm : k.Undisturbed fds) (fd : Fd) :
    ((k.waited fds).setQueue fd ((k.waited fds).queue fd).tail).Undisturbed fds where
  truthful fd' hfd' := truthful_of_override (override_setQueue (override_dropOverrides hfd'))
  datagrams fd' hfd' item there := by
    rw [queue_setQueue_map List.tail rfl] at there
    split at there
    · next same =>
      subst same
      exact calm.waited.datagrams fd' hfd' item (List.mem_of_mem_tail there)
    · exact calm.waited.datagrams fd' hfd' item there
  waits := calm.waited.waits

/-- What is pending in an undisturbed kernel has no `endsTurn`. -/
theorem datagram_of_pending (calm : k.Undisturbed fds) (waiting : (fd, item) ∈ k.pending fds) :
    item.endsTurn = false := by
  obtain ⟨fd', hfd', there⟩ := List.mem_flatMap.mp waiting
  obtain ⟨item', hitem, same⟩ := List.mem_map.mp there
  obtain ⟨rfl, rfl⟩ := Prod.mk.inj same
  exact calm.datagrams _ hfd' _ hitem

end Undisturbed

end Kernel

namespace Session

open Host

variable {ε : Type} {s s' : Session} {h h' : Host}

/-! ### What is delivered -/

/-- The event of an item in a queue, for the role of its descriptor. -/
def eventOf? (s : Session) (waiting : Fd × Item) : Option Event :=
  waiting.2.event? s.config (s.roleOf waiting.1) waiting.1

/-- All that was pending in the sockets of `s` is delivered, item by item, and gone. -/
structure Emptied (s : Session) (h : Host) (s' : Session) (h' : Host) : Prop where
  callbacks : h'.journal.callbacks = h.journal.callbacks ++
    ((h.kernel.pending (s.waitSet.descriptors none)).filterMap s.eventOf?).flatMap
      s.registry.deliveries
  /-- The queues of the wait-set are empty, and all others as they were. -/
  queues    : ∀ fd, h'.kernel.queue fd =
    if fd ∈ s.waitSet.descriptors none then [] else h.kernel.queue fd
  /-- Nothing but `dropped` changes. -/
  session   : s' = { s with
    dropped := ((h.kernel.pending (s.waitSet.descriptors none)).filterMap s.eventOf?).foldl
      keptDropped s.dropped }

/-! ### The draining poll -/

/-- `turnItems` of a queue without `endsTurn` is all of it. -/
theorem turnItems_eq_self {queue : List Item} (goes : ∀ item ∈ queue, item.endsTurn = false) :
    turnItems queue = queue := by
  refine List.takeWhile_eq_self_iff.mpr fun item there => ?_
  simp [goes item there]

/-- `afterTurn` of a queue without `endsTurn` is `[]`. -/
theorem afterTurn_eq_nil {queue : List Item} (goes : ∀ item ∈ queue, item.endsTurn = false) :
    afterTurn queue = [] := by
  have all : queue.dropWhile (!·.endsTurn) = [] :=
    List.dropWhile_eq_nil_iff.mpr fun item there => by simp [goes item there]
  rw [afterTurn, all, List.tail_nil]

/-- `meetsDown` of a queue without `endsTurn` is `false`. -/
theorem meetsDown_eq_false {queue : List Item} (goes : ∀ item ∈ queue, item.endsTurn = false) :
    meetsDown queue = false := by
  have never : queue.find? Item.endsTurn = none :=
    List.find?_eq_none.mpr fun item there => by simp [goes item there]
  rw [meetsDown, never]
  rfl

/-- `Session.served` for truthful sockets: those of the wait-set whose queues are not empty. -/
theorem served_of_truthful (truthful : ∀ fd ∈ s.waitSet.descriptors none, h.kernel.Truthful fd) :
    s.served h.kernel = (s.waitSet.descriptors none).filter fun fd => h.kernel.queue fd ≠ [] := by
  rw [← ready_descriptors, Kernel.ready_of_truthful truthful]

/-- `pendingEvents` for the served sockets are the events of `Kernel.pending`. -/
theorem pendingEvents_served (calm : h.kernel.Undisturbed (s.waitSet.descriptors none)) :
    s.pendingEvents h.kernel (s.served h.kernel) =
      (h.kernel.pending (s.waitSet.descriptors none)).filterMap s.eventOf? := by
  rw [← Kernel.pending_filter, ← served_of_truthful calm.truthful, pendingEvents, Kernel.pending,
    List.filterMap_flatMap]
  refine List.flatMap_congr fun fd hfd => ?_
  have among : fd ∈ s.waitSet.descriptors none := by
    rw [served_of_truthful calm.truthful] at hfd
    exact (List.mem_filter.mp hfd).1
  rw [turnEvents, turnItems_eq_self (calm.datagrams fd among), List.filterMap_map]
  rfl

/-- **A draining poll delivers all that is pending**: `Session.poll` ends with `.done` and
    `Emptied`. -/
theorem poll_emptied (quiet : s.registry.Returns) (apart : s.waitSet.Apart)
    (free : s.poisoned = false) (calm : h.kernel.Undisturbed (s.waitSet.descriptors none))
    (timeout : Option Duration) :
    ∃ s' h', (s.poll timeout : HostM ε (Session × Outcome)) h = .ok (s', .done) h' ∧
      s.Emptied h s' h' := by
  obtain ⟨s', outcome, h', run, turns⟩ :=
    poll_spec (ε := ε) quiet apart free calm.nextFault timeout
  have served := served_of_truthful calm.truthful
  have events := pendingEvents_served calm
  -- No receive fails, so that there is no failure to answer.
  have up : pendingFailure h.kernel (s.served h.kernel) = none := by
    have never : ((s.served h.kernel).map (h.kernel.queue ·)).any meetsDown = false := by
      rw [List.any_map, List.any_eq_false]
      intro fd hfd
      rw [served] at hfd
      simp [meetsDown_eq_false (calm.datagrams fd (List.mem_filter.mp hfd).1)]
    rw [pendingFailure, never]
    rfl
  have done : outcome = .done := by
    rw [turns.outcome, up]
    rfl
  subst done
  -- `Drained` for the served sockets is `Emptied` for all: the others have nothing in their queues.
  refine ⟨s', h', run, ?_, ?_, ?_⟩
  · rw [turns.callbacks, events]
  · intro fd
    rw [turns.queues, served]
    by_cases among : fd ∈ s.waitSet.descriptors none
    · by_cases there : h.kernel.queue fd = []
      · simp [among, there]
      · simp [among, there, afterTurn_eq_nil (calm.datagrams fd among)]
    · simp [among]
  · rw [turns.session, events]

/-! ### One poll for a datagram -/

/-- `Session.waitFor` in an undisturbed kernel reports the sockets with something in
    their queues. -/
theorem waitFor_apply (calm : h.kernel.Undisturbed (s.waitSet.descriptors none))
    (timeout : Option Duration) :
    ∃ h₁, (s.waitFor timeout : HostM ε (Except Errno (List Fd))) h =
        .ok (.ok ((s.waitSet.descriptors none).filter fun fd => h.kernel.queue fd ≠ [])) h₁ ∧
      h₁.kernel = h.kernel.waited (s.waitSet.descriptors none) ∧
      h₁.journal.callbacks = h.journal.callbacks := by
  have run := wait_apply calm.nextFault (s.waitSet.descriptors none) (Duration.pollMillis timeout)
  rw [Kernel.ready_of_truthful calm.truthful] at run
  refine ⟨_, by rw [waitFor, attempt, run], rfl, ?_⟩
  exact Journal.callbacks_push_silent rfl _

/-- `Session.readOne` on a queue that begins with a datagram: its event, its size and its counter,
    without a callback. -/
theorem readOne_apply {fd : Fd} {item : Item} {rest : List Item}
    (front : h.kernel.queue fd = item :: rest) (goes : item.endsTurn = false) :
    ∃ e h', s.eventOf? (fd, item) = some e ∧
      (s.readOne fd : HostM ε (Session × Event × Except Failure Nat)) h =
        .ok ({ s with dropped := keptDropped s.dropped e }, e, .ok item.size) h' ∧
      h'.kernel = h.kernel.setQueue fd (h.kernel.queue fd).tail ∧
      h'.journal.callbacks = h.journal.callbacks := by
  obtain ⟨e, reading, event⟩ := reading_of_not_endsTurn s.config (s.roleOf fd) fd goes
  have silent := callbacks_read s.config (s.roleOf fd) fd item
  have met : h.kernel.front fd = item := by
    rw [Kernel.front, front]
    rfl
  refine ⟨e,
    { kernel  := h.kernel.setQueue fd (h.kernel.queue fd).tail
      journal := h.journal ++ (item.read s.config (s.roleOf fd) fd).1 }, event, ?_, rfl, ?_⟩
  -- What is read is told by `reading`, so that the effects need no name.
  · rw [readOne, bind_ok (ask_apply ..), met]
    generalize item.read s.config (s.roleOf fd) fd = receive at reading ⊢
    obtain ⟨effects, _⟩ := receive
    obtain rfl := reading
    rfl
  · rw [Journal.callbacks_append, silent, List.append_nil]

/-- `Session.pollOnce` where nothing is pending answers 0 and a blank event. -/
theorem pollOnce_of_nil (free : s.poisoned = false)
    (calm : h.kernel.Undisturbed (s.waitSet.descriptors none))
    (idle : h.kernel.pending (s.waitSet.descriptors none) = [])
    (timeout : Option Duration) (event : Event) :
    ∃ h', (s.pollOnce timeout event : HostM ε (Session × Event × Except Failure Nat)) h =
        .ok (s, .blank, .ok 0) h' ∧
      h'.journal.callbacks = h.journal.callbacks ∧
      ∀ fd, h'.kernel.queue fd = h.kernel.queue fd := by
  obtain ⟨h₁, waited, kernel, calls⟩ := waitFor_apply (ε := ε) calm timeout
  have none_ready : ((s.waitSet.descriptors none).filter fun fd => h.kernel.queue fd ≠ []) = [] := by
    rw [List.filter_eq_nil_iff]
    intro fd hfd
    simp [Kernel.pending_eq_nil.mp idle fd hfd]
  rw [none_ready] at waited
  refine ⟨h₁, ?_, calls, ?_⟩
  · rw [pollOnce, bind_ok (attempt_lock free)]
    exact (bind_ok waited).trans rfl
  · intro fd
    rw [kernel, Kernel.queue_waited]

/-- `Session.pollOnce` where `(fd, item)` is the first that is pending reads `item`, and leaves
    `more` pending in an undisturbed kernel. -/
theorem pollOnce_of_cons {fd : Fd} {item : Item} {more : List (Fd × Item)}
    (apart : s.waitSet.Apart) (free : s.poisoned = false)
    (calm : h.kernel.Undisturbed (s.waitSet.descriptors none))
    (front : h.kernel.pending (s.waitSet.descriptors none) = (fd, item) :: more)
    (timeout : Option Duration) (event : Event) :
    ∃ e h', s.eventOf? (fd, item) = some e ∧ 0 < item.size ∧
      (s.pollOnce timeout event : HostM ε (Session × Event × Except Failure Nat)) h =
        .ok ({ s with dropped := keptDropped s.dropped e }, e, .ok item.size) h' ∧
      h'.journal.callbacks = h.journal.callbacks ∧
      h'.kernel.Undisturbed (s.waitSet.descriptors none) ∧
      h'.kernel.pending (s.waitSet.descriptors none) = more ∧
      ∀ fd ∉ s.waitSet.descriptors none, h'.kernel.queue fd = h.kernel.queue fd := by
  obtain ⟨among, queue, others, first⟩ := Kernel.ready_of_pending front
  have goes := calm.datagrams fd among item (by rw [queue]; exact .head _)
  -- The wait reports `fd` first and leaves its queue, and then the receive takes `item` from it.
  obtain ⟨h₁, waited, kernel₁, calls₁⟩ := waitFor_apply (ε := ε) calm timeout
  have queue₁ : h₁.kernel.queue fd = item :: (h.kernel.queue fd).tail := by
    rw [kernel₁, Kernel.queue_waited, ← queue]
  obtain ⟨e, h', event, read, kernel, calls⟩ := readOne_apply (ε := ε) (s := s) queue₁ goes
  have taken : ∀ fd', h'.kernel.queue fd' =
      if fd' = fd then (h.kernel.queue fd).tail else h.kernel.queue fd' := by
    intro fd'
    rw [kernel, Kernel.queue_setQueue_map List.tail rfl, kernel₁, Kernel.queue_waited,
      Kernel.queue_waited]
  refine ⟨e, h', event, Item.size_pos goes, ?_, calls.trans calls₁, ?_, ?_, ?_⟩
  · rw [first] at waited
    rw [pollOnce, bind_ok (attempt_lock free)]
    exact (bind_ok waited).trans read
  · rw [kernel, kernel₁]
    exact calm.taken fd
  · exact Kernel.pending_of_taken apart.nodup front taken
  · intro fd' out
    have other : fd' ≠ fd := fun same => out (same ▸ among)
    rw [taken, if_neg other]

/-! ### The whole loop -/

/-- **Single datagrams, one after the other, deliver all that is pending**: `pollEach` ends with
    `Emptied`, where there are more timeouts than items. By induction on the items, with
    `pollOnce_of_cons`. -/
theorem pollEach_emptied (pending : List (Fd × Item)) {s : Session} {h : Host}
    (quiet : s.registry.Returns) (apart : s.waitSet.Apart) (free : s.poisoned = false)
    (calm : h.kernel.Undisturbed (s.waitSet.descriptors none))
    (waiting : h.kernel.pending (s.waitSet.descriptors none) = pending)
    {timeouts : List (Option Duration)} (enough : pending.length < timeouts.length)
    (event : Event) :
    ∃ s' h', (s.pollEach timeouts event : HostM ε (Session × List (Except Failure Nat))) h =
        .ok (s', pending.map (.ok ·.2.size) ++ [.ok 0]) h' ∧
      s.Emptied h s' h' := by
  induction pending generalizing s h timeouts event with
  | nil =>
    obtain ⟨timeout, timeouts, rfl⟩ := List.exists_cons_of_length_pos enough
    -- The poll that reads nothing is the last one.
    obtain ⟨h', run, calls, queues⟩ := pollOnce_of_nil (ε := ε) free calm waiting timeout event
    refine ⟨s, h', ?_, ?_, ?_, ?_⟩
    · rw [pollEach, bind_ok run]
      rfl
    · simp [waiting, calls]
    · intro fd
      rw [queues]
      split
      · next among => exact Kernel.pending_eq_nil.mp waiting fd among
      · rfl
    · simp [waiting]
  | cons first more ih =>
    obtain ⟨fd, item⟩ := first
    obtain ⟨timeout, timeouts, rfl⟩ := List.exists_cons_of_length_pos (Nat.zero_lt_of_lt enough)
    obtain ⟨e, h₁, event_e, some_read, run, calls, calm₁, waiting₁, others⟩ :=
      pollOnce_of_cons (ε := ε) apart free calm waiting timeout event
    -- The poll leaves a session and a host of which the same can be said, with less pending.
    let s₁ : Session := { s with dropped := keptDropped s.dropped e }
    let told := Callback.effectsOf h₁.journal.callbacks (s.registry.deliveries e)
    let h₂ : Host := { h₁ with journal := h₁.journal ++ told }
    have delivered : (s₁.dispatch e : HostM ε (Session × Outcome)) h₁ = .ok (s₁, .done) h₂ :=
      dispatch_apply (s := s₁) quiet free e h₁
    obtain ⟨s', h', rest, emptied⟩ := ih (s := s₁) (h := h₂) quiet apart free calm₁ waiting₁
      (Nat.lt_of_succ_lt_succ enough) e
    have events : ((fd, item) :: more).filterMap s.eventOf? = e :: more.filterMap s.eventOf? := by
      rw [List.filterMap_cons, event_e]
    refine ⟨s', h', ?_, ?_, ?_, ?_⟩
    · obtain ⟨n, size⟩ := Nat.exists_eq_succ_of_ne_zero (Nat.ne_of_gt some_read)
      rw [pollEach, bind_ok run, size]
      exact (bind_ok delivered).trans ((bind_ok rest).trans (by simp [size]))
    · have made := Callback.untilPanic_eq_self (quiet.deliveries e h.journal.callbacks)
      rw [emptied.callbacks, waiting₁, waiting, events, List.flatMap_cons, ← List.append_assoc]
      congr 1
      simp only [h₂, told, Journal.callbacks_append, Callback.callbacks_effectsOf, calls, made]
    · intro fd'
      rw [emptied.queues]
      split
      · rfl
      · next out => exact others fd' out
    · rw [emptied.session, waiting₁, waiting, events]
      rfl

end Session

/-- **The single-shot and the draining poll agree.** Where datagrams wait in the sockets of a
    session and nothing disturbs the polls, a caller that polls for one datagram after the other and
    delivers each makes the callbacks of one draining poll, in the same order, and leaves the same
    session, with the same drop counter, and the same queues, with nothing in those of the session.
    Its polls read something as often as datagrams were pending, and then nothing. -/
theorem single_shot_agrees {ε : Type} {s : Session} {h : Host} (quiet : s.registry.Returns)
    (apart : s.waitSet.Apart) (free : s.poisoned = false)
    (calm : h.kernel.Undisturbed (s.waitSet.descriptors none)) (timeout : Option Duration)
    {timeouts : List (Option Duration)}
    (enough : (h.kernel.pending (s.waitSet.descriptors none)).length < timeouts.length)
    (event : Event) :
    ∃ (s' : Session) (h₁ h₂ : Host) (sizes : List Nat),
      (s.poll timeout : HostM ε (Session × Outcome)) h = .ok (s', .done) h₁ ∧
      (s.pollEach timeouts event : HostM ε (Session × List (Except Failure Nat))) h =
        .ok (s', sizes.map .ok ++ [.ok 0]) h₂ ∧
      sizes.length = (h.kernel.pending (s.waitSet.descriptors none)).length ∧
      (∀ n ∈ sizes, 0 < n) ∧
      h₂.journal.callbacks = h₁.journal.callbacks ∧
      (∀ fd, h₂.kernel.queue fd = h₁.kernel.queue fd) ∧
      ∀ fd ∈ s.waitSet.descriptors none, h₁.kernel.queue fd = [] := by
  obtain ⟨s₁, h₁, draining, once⟩ := Session.poll_emptied quiet apart free calm timeout
  obtain ⟨s₂, h₂, looping, each⟩ := Session.pollEach_emptied _ quiet apart free calm rfl enough event
  -- Both deliver what was pending, which says all about what they leave.
  have same : s₂ = s₁ := each.session.trans once.session.symm
  subst same
  refine ⟨s₂, h₁, h₂, (h.kernel.pending (s.waitSet.descriptors none)).map (·.2.size), draining, ?_,
    List.length_map _, ?_, each.callbacks.trans once.callbacks.symm, ?_, ?_⟩
  · rw [looping, List.map_map]
    rfl
  · intro n hn
    obtain ⟨⟨fd, item⟩, waiting, rfl⟩ := List.mem_map.mp hn
    exact Item.size_pos (calm.datagram_of_pending waiting)
  · intro fd
    rw [each.queues, once.queues]
  · intro fd hfd
    rw [once.queues, if_pos hfd]

/-- A host for `Session.listening`: in socket 101 wait a data frame with the drop counter 3 and an
    error frame, and in socket 100 one error frame. -/
def Host.withArrivals : Host where
  kernel  := { Kernel.start [] .none [] with
    nextFd  := 102
    sockets := [⟨100, [.datagram [4, 0, 0, 0x20, 8, 0, 0, 0] []], 0, 0, none⟩,
      ⟨101, [.datagram [1, 0, 0, 0, 1, 0, 0, 0, 7]
          [⟨Ancillary.socketLevel, Ancillary.dropCounterKind, [3, 0, 0, 0], none⟩],
        .datagram [0x40, 0, 0, 0x20, 8, 0, 0, 0] []], 0, 0, none⟩] }
  journal := #[]

/-- For `Host.withArrivals`: three datagrams, three polls that read something, and one that
    reads nothing. -/
theorem single_shot_agrees_listening :
    (Session.listening.registry.Returns ∧ Session.listening.waitSet.Apart ∧
      Host.withArrivals.kernel.Undisturbed [101, 100] ∧
      (Host.withArrivals.kernel.pending [101, 100]).length = 3) ∧
    ∃ (s' : Session) (h₁ h₂ : Host) (sizes : List Nat),
      (Session.listening.poll none : HostM Empty (Session × Outcome)) Host.withArrivals =
        .ok (s', .done) h₁ ∧
      (Session.listening.pollEach [none, none, none, none] .blank :
          HostM Empty (Session × List (Except Failure Nat))) Host.withArrivals =
        .ok (s', sizes.map .ok ++ [.ok 0]) h₂ ∧
      sizes.length = 3 ∧ (∀ n ∈ sizes, 0 < n) ∧
      h₂.journal.callbacks = h₁.journal.callbacks ∧
      (∀ fd, h₂.kernel.queue fd = h₁.kernel.queue fd) ∧
      ∀ fd ∈ [101, 100], h₁.kernel.queue fd = [] := by
  have quiet : Session.listening.registry.Returns := by
    refine ⟨?_, ?_⟩ <;> simp [Session.listening]
  have apart : Session.listening.waitSet.Apart := by
    intro fd hfd tx
    obtain rfl : fd = 101 := List.mem_singleton.mp hfd
    exact absurd tx (by decide)
  have calm : Host.withArrivals.kernel.Undisturbed [101, 100] :=
    ⟨by decide, by decide, by decide⟩
  have three : (Host.withArrivals.kernel.pending [101, 100]).length = 3 := by decide
  exact ⟨⟨quiet, apart, calm, three⟩,
    single_shot_agrees quiet apart rfl calm none (three.trans_lt (by decide)) .blank⟩

end CanDriver
