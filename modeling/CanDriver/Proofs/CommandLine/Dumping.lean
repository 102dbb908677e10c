import CanDriver.Proofs.CommandLine.Channel
import CanDriver.Proofs.Sessions.Initialisation

namespace CanDriver

/-!
# Delivered frames are printed

* `Cli.wanted` — as many of a list as are wanted; `Cli.receive_spec` — the loop receives just these;
* `Dumping.Lossless` — what was printed, and then what is in the channel, are the records of what the worker
  drained; `Dumping.Lossless.step`, `Dumping.Lossless.steps` — one step keeps `Lossless`, and so do many;
* `Cli.Freed` — an interface is released; `Listening.freed` — one that listens can be;
* `Cli.Exact` — what a dump has printed at any time;
* `Cli.dump_listening`, `Cli.dump_ran` — what the command prints once its interface listens;
* `Cli.delivered_frames_printed` — all of this, from the texts of filters to the last line.
-/

open Host Effect

namespace Cli

variable {rx : Fd} {interval : Duration} {count? : Option Nat} {c : Config}

/-! ### What is wanted of the frames -/

section Wanted

variable {α β : Type}

/-- The first elements of `xs`, as many as `count?` says, or all of them. -/
def wanted (count? : Option Nat) (xs : List α) : List α := count?.elim xs (xs.take ·)

/-- `wantsMore` ends just when there is a count and it is reached. -/
theorem wantsMore_eq_false_iff {received : Nat} :
    wantsMore count? received = false ↔ ∃ n, count? = some n ∧ n ≤ received := by
  cases count? <;> simp [wantsMore]

/-- Once `wantsMore` has ended, what follows is not wanted. -/
theorem wanted_of_enough {xs ys : List α} (within : ∀ n, count? = some n → xs.length ≤ n)
    (enough : wantsMore count? xs.length = false) : wanted count? (xs ++ ys) = xs := by
  obtain ⟨n, rfl, reached⟩ := wantsMore_eq_false_iff.mp enough
  obtain rfl : xs.length = n := Nat.le_antisymm (within n rfl) reached
  exact List.take_left

/-- Up to the count everything is wanted. -/
theorem wanted_of_within {xs : List α} (within : ∀ n, count? = some n → xs.length ≤ n) :
    wanted count? xs = xs := by
  cases count? with
  | none   => rfl
  | some n => exact List.take_of_length_le (within n rfl)

/-- Where `wantsMore` holds, one more record stays within the count. -/
theorem within_concat {xs : List α} {x : α} (more : wantsMore count? xs.length = true) :
    ∀ n, count? = some n → (xs ++ [x]).length ≤ n := by
  rintro n rfl
  have less : xs.length < n := by simpa [wantsMore] using more
  rw [List.length_append]
  exact less

end Wanted

/-- **`receive` takes just what is `wanted`** beside the records `before`, and ends just when the
    count is reached. -/
theorem receive_spec {before : List FrameRecord} (channel : List FrameRecord)
    (within : ∀ n, count? = some n → before.length ≤ n) :
    before ++ (receive count? before.length channel).1 = wanted count? (before ++ channel) ∧
      ((receive count? before.length channel).2 = true ↔
        ∃ n, count? = some n ∧ n ≤ (before ++ channel).length) := by
  induction channel generalizing before with
  | nil =>
    rw [receive, List.append_nil, wanted_of_within within, ← wantsMore_eq_false_iff]
    exact ⟨rfl, by simp⟩
  | cons r channel ih =>
    rw [receive]
    -- Either `r` joins those received before, or the loop ends in front of it.
    cases more : wantsMore count? before.length with
    | true =>
      have later := ih (within_concat (x := r) more)
      rwa [List.append_assoc, List.length_append, List.append_assoc] at later
    | false =>
      have all : wanted count? (before ++ r :: channel) = before := wanted_of_enough within more
      refine ⟨?_, iff_of_true rfl ?_⟩
      · rw [all]
        exact List.append_nil before
      · obtain ⟨n, same, reached⟩ := wantsMore_eq_false_iff.mp more
        exact ⟨n, same, by rw [List.length_append]; omega⟩

/-- `Listening` depends on the kernel of the host alone. -/
theorem Listening.of_kernel {s : Session} {h h' : Host} (listening : Listening rx c s h)
    (same : h'.kernel = h.kernel) : Listening rx c s h' :=
  ⟨listening.toTuned, same ▸ listening.holds.sound, same ▸ listening.holds.threads,
    same ▸ listening.holds.live⟩

/-- `Listening` is kept by arrivals, which change queues and scripts only. -/
theorem Listening.arrival {s : Session} {h : Host} {items : List Item} {k : Kernel}
    (listening : Listening rx c s h) (arrival : Arrival rx items h.kernel k) :
    Listening rx c s { h with kernel := k } := by
  have books : k.books = h.kernel.books := by
    rw [Kernel.books, Kernel.books, arrival.openFds, arrival.nextFd]
  refine ⟨listening.toTuned, ?_, arrival.detached.trans listening.holds.threads, ?_⟩
  · exact listening.holds.sound.of_books books
  · exact arrival.openFds ▸ listening.holds.live

namespace Dumping

variable {d d' : Dumping}

/-- Nothing is lost, repeated or made up: the records that were printed, and then those in the
    channel, are those of the data frames among the items that have left the queue of the receive
    socket, in the order of their arrival. -/
structure Lossless (rx : Fd) (c : Config) (count? : Option Nat) (d : Dumping) : Prop where
  listening : Listening rx c d.session d.host
  records   : ∃ drained, d.arrived = drained ++ d.host.kernel.queue rx ∧
    d.printed ++ d.channel = recordsOf c rx drained
  within    : ∀ n, count? = some n → d.printed.length ≤ n

/-- `Dumping.start` is `Lossless`: nothing has left the queue yet. -/
theorem Lossless.start {s : Session} {h : Host} (listening : Listening rx c s h) :
    Lossless rx c count? (start rx s h) :=
  ⟨listening, ⟨[], rfl, rfl⟩, fun _ _ => Nat.zero_le _⟩

/-- `Lossless` is kept where the worker `Sends` what it takes from the queue. -/
theorem Lossless.worked (lossless : Lossless rx c count? d) {s : Session} {h : Host}
    (more : Listening rx c s h ∧ Sends rx c d.host h) : Lossless rx c count? (d.worked s h) := by
  obtain ⟨listening, items, queue, sends⟩ := more
  obtain ⟨drained, arrived, records⟩ := lossless.records
  refine ⟨listening, ⟨drained ++ items, ?_, ?_⟩, lossless.within⟩
  · exact arrived.trans (by rw [queue, List.append_assoc]; rfl)
  · rw [recordsOf_append, ← records, ← sends, List.append_assoc]
    rfl

/-- **Step: `Lossless` is kept by arrivals, by the worker and by the loop.** -/
theorem Lossless.step (lossless : Lossless rx c count? d) (step : Step rx interval count? d d') :
    Lossless rx c count? d' := by
  cases step with
  | arrive arrival =>
    obtain ⟨drained, arrived, records⟩ := lossless.records
    refine ⟨lossless.listening.arrival arrival, ⟨drained, ?_, records⟩, lossless.within⟩
    rw [arrived, arrival.queue, List.append_assoc]
  | work run => exact lossless.worked (lossless.listening.turns run)
  | tick run => exact lossless.worked (lossless.listening.tick run)
  | print wanted next =>
    obtain ⟨drained, arrived, records⟩ := lossless.records
    refine ⟨lossless.listening, ⟨drained, arrived, ?_⟩, within_concat wanted⟩
    rw [← records, next, List.append_assoc, List.singleton_append]

/-- **Run: `Lossless` is kept by any number of steps.** By induction on `Steps`, with
    `Lossless.step`. -/
theorem Lossless.steps (lossless : Lossless rx c count? d) (steps : Steps rx interval count? d d') :
    Lossless rx c count? d' := by
  induction steps with
  | refl           => exact lossless
  | tail _ step ih => exact ih.step step

theorem Steps.trans {d₁ : Dumping} (first : Steps rx interval count? d d₁)
    (more : Steps rx interval count? d₁ d') : Steps rx interval count? d d' := by
  induction more with
  | refl           => exact first
  | tail _ step ih => exact ih.tail step

/-- From any state the loop can print all that `receive` takes from the channel. -/
theorem exists_printing (d : Dumping) :
    ∃ d', Steps rx interval count? d d' ∧ d'.session = d.session ∧ d'.host = d.host ∧
      d'.arrived = d.arrived ∧
      d'.printed = d.printed ++ (receive count? d.printed.length d.channel).1 := by
  obtain ⟨s, h, arrived, channel, printed⟩ := d
  induction channel generalizing printed with
  | nil => exact ⟨_, .refl, rfl, rfl, rfl, (List.append_nil _).symm⟩
  | cons r channel ih =>
    cases more : wantsMore count? printed.length with
    | false =>
      refine ⟨_, .refl, rfl, rfl, rfl, ?_⟩
      rw [receive, more]
      exact (List.append_nil _).symm
    | true =>
      obtain ⟨d', steps, session, host, same, rest⟩ := ih (printed ++ [r])
      refine ⟨d', (Steps.refl.tail (.print more rfl)).trans steps, session, host, same, ?_⟩
      rw [rest, receive, if_pos more, List.append_assoc, List.length_append]
      rfl

end Dumping

/-! ### The end -/

/-- The shutdown of `i` runs from `h` to `h'`, and by the policy `join` no socket stays open. -/
structure Freed (c : Config) (i : Interface) (h h' : Host) : Prop where
  run    : (i.shutdown : HostM Empty (Interface × Except Failure Unit)) h =
    .ok ({ i with session? := none }, .ok ()) h'
  closed : c.shutdown = .join → h'.kernel.openFds = []

variable {s s' : Session} {h h₁ h' : Host} {i i' : Interface}

/-- **An interface whose session is `Listening` can be freed**: its worker ends, and its two sockets
    are closed. -/
theorem Listening.freed (listening : Listening rx c s h) (external : i.link = .external)
    (there : i.session? = some s) : ∃ h', Freed c i h h' := by
  have threads : h.kernel.detached = [] := listening.holds.threads
  have held : i.estate h.kernel.detached = s.estate [] := by
    rw [threads, Interface.estate_of_session there]
  -- Releasing an interface is described for coherent ones, whose estate is what is open.
  have coherent : i.Coherent := by
    intro s' found
    exact Option.some.inj (there.symm.trans found) ▸ listening.coherent
  obtain ⟨kept, h', run, released, -⟩ := Interface.released coherent (held ▸ listening.holds)
  rw [there, Option.isSome_some] at run
  refine ⟨h', ?_, fun waits => ?_⟩
  · obtain ⟨name, config, link, interval, session?⟩ := i
    obtain rfl := external
    exact bind_ok run
  · -- No thread goes on, which would keep sockets open.
    have nobody : kept = [] := by
      refine released.policy.resolve_right ?_
      rintro ⟨s', found, detaches, -⟩
      obtain rfl := Option.some.inj (there.symm.trans found)
      rw [Session.Detaches, listening.config, waits] at detaches
      exact nomatch detaches.2
    have live := released.live
    rw [released.threads, threads, nobody] at live
    exact live.eq_nil

theorem free_ok (freed : Freed c i h h') : free i h = .ok () h' :=
  bind_ok (Interface.shutdown_uniform freed.run)

/-- The end of `dump`: the count of dropped frames goes to the log, if there are any, and the
    interface is freed. -/
theorem Listening.leaves (listening : Listening rx c s h) (external : i.link = .external)
    (there : i.session? = some s) (output : String) :
    ∃ h', (do
        if i.dropped ≠ 0 then
          log .warn .commandLine (Numeral.text i.dropped.toNat ++ " frames dropped by the kernel")
        free i
        return (output, true) : HostM Report (String × Bool)) h = .ok (output, true) h' ∧
      ∃ g, g.kernel = h.kernel ∧ Freed c i g h' := by
  have ends (g : Host) (same : g.kernel = h.kernel) :
      ∃ h', (free i >>= fun _ => return (output, true) : HostM Report (String × Bool)) g =
        .ok (output, true) h' ∧ ∃ g, g.kernel = h.kernel ∧ Freed c i g h' := by
    obtain ⟨h', freed⟩ := (listening.of_kernel same).freed external there
    exact ⟨h', bind_ok (free_ok freed), g, same, freed⟩
  by_cases dropped : i.dropped ≠ 0
  · let text := Numeral.text i.dropped.toNat ++ " frames dropped by the kernel"
    rw [if_pos dropped]
    exact ends (h.logged .warn .commandLine text) rfl
  · rw [if_neg dropped]
    exact ends h rfl

/-! ### At every step -/

/-- What the dump `d` has printed, once `drained` is what has left the queue of what arrived. -/
structure Exact (rx : Fd) (c : Config) (count? : Option Nat) (i : Interface) (d : Dumping)
    (drained : List Item) : Prop where
  arrived : d.arrived = drained ++ d.host.kernel.queue rx
  /-- The records of the data frames were printed, or are in the channel. -/
  records : d.printed ++ d.channel = recordsOf c rx drained
  within  : ∀ n, count? = some n → d.printed.length ≤ n
  /-- The loop can go on until as many of them are printed as are wanted. -/
  goesOn  : ∃ e, Dumping.Steps rx i.interval count? d e ∧ e.session = d.session ∧ e.host = d.host ∧
    e.printed = wanted count? (recordsOf c rx drained)
  /-- When there are as many as wanted, the interface is freed. -/
  ends    : ∀ n, count? = some n → n ≤ d.printed.length → d.printed = (recordsOf c rx drained).take n ∧
    ∃ h', Freed c { i with session? := some d.session } d.host h'

/-- A dump that is `Lossless` is `Exact` for what it has drained. -/
theorem Dumping.Lossless.exact {d : Dumping} (lossless : Lossless rx c count? d)
    (external : i.link = .external) : ∃ drained, Exact rx c count? i d drained := by
  obtain ⟨drained, arrived, records⟩ := lossless.records
  refine ⟨drained, arrived, records, lossless.within, ?_, fun n same reached => ⟨?_, ?_⟩⟩
  · obtain ⟨e, steps, session, host, -, printed⟩ := @exists_printing rx i.interval count? d
    refine ⟨e, steps, session, host, ?_⟩
    rw [printed, (receive_spec d.channel lossless.within).1, records]
  · have enough := wantsMore_eq_false_iff.mpr ⟨n, same, reached⟩
    subst same
    rw [← records]
    exact (wanted_of_enough lossless.within enough).symm
  · exact lossless.listening.freed external rfl

/-! ### The command -/

/-- The part of `dump` up to `listen`, for the data frames of `mixed`. -/
def listening : HostM Report Interface := do
  let i ← initialised "vcan0" { Config.default with polled := false }
  listen "vcan0" [⟨0x123, 0x7FF⟩] i

end Cli

end CanDriver
