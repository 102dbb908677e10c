import CanDriver.Host.Call
import CanDriver.Proofs.Sockets.Ledger

namespace CanDriver

/-!
# The numbers that sockets get

The kernel here gives out descriptors one after the other, and `Ledger` does not ask for that.  What
follows from the numbers is kept apart from it.

* `Kernel.ledger` — the open sockets; `Kernel.books` — with the descriptor of the next one;
* `Kernel.Sound` — the open descriptors ascend, up to the next one: none is open twice
  (`Kernel.Sound.nodup`), and the next one is not open (`Kernel.Sound.fresh`);
* `Issued n fds n'` — `fds` are given out where the next descriptor is `n` before and `n'` after;
* `Kernel.Booked k es k'` — the ledger books the effects `es` between two kernels, and their sockets get
  the next numbers;
* `Kernel.Booked.nodup_opened`, `Kernel.Booked.used` — no descriptor is given out twice, so that what an
  effect uses was opened and is not closed yet;
* `Kernel.books_setQueue`, … — the changes of a kernel: only `openSocket` and `closeSocket` touch its
  books.
-/

open Effect

/-- Two ascending lists with the same descriptors are the same. -/
theorem eq_of_perm_of_ascending {fds fds' : List Fd} (same : fds.Perm fds')
    (ascending : fds.Pairwise (· < ·)) (ascending' : fds'.Pairwise (· < ·)) : fds = fds' := by
  refine same.eq_of_pairwise ?_ ascending ascending'
  exact fun _ _ _ _ lt gt => absurd (Int.lt_trans lt gt) (Int.lt_irrefl _)

/-- The descriptors `fds` are given out in ascending order: the next one is `n` before, and
    `n'` after. -/
structure Issued (n : Fd) (fds : List Fd) (n' : Fd) : Prop where
  ascending : fds.Pairwise (· < ·)
  between   : ∀ fd ∈ fds, n ≤ fd ∧ fd < n'
  le        : n ≤ n'

namespace Issued

variable {n n₁ n' : Fd} {fds fds' : List Fd}

/-- `Issued` for no descriptors. -/
theorem refl (n : Fd) : Issued n [] n := ⟨.nil, nofun, Int.le_refl n⟩

/-- The descriptor `n` is given out where it is the next one. -/
theorem single (n : Fd) : Issued n [n] (n + 1) where
  ascending := List.pairwise_singleton ..
  between   := fun fd there => by
    obtain rfl := List.mem_singleton.mp there
    exact ⟨Int.le_refl fd, Int.lt_succ fd⟩
  le        := Int.le_of_lt (Int.lt_succ n)

/-- `Issued` first from `n` and then from `n₁`: what comes first lies below what comes later. -/
theorem append (first : Issued n fds n₁) (more : Issued n₁ fds' n') : Issued n (fds ++ fds') n' where
  ascending := List.pairwise_append.mpr ⟨first.ascending, more.ascending, fun fd early fd' late =>
    Int.lt_of_lt_of_le (first.between fd early).2 (more.between fd' late).1⟩
  between   := fun fd there => by
    rcases List.mem_append.mp there with early | late
    · obtain ⟨above, below⟩ := first.between fd early
      exact ⟨above, Int.lt_of_lt_of_le below more.le⟩
    · obtain ⟨above, below⟩ := more.between fd late
      exact ⟨Int.le_trans first.le above, below⟩
  le        := Int.le_trans first.le more.le

/-- Descriptors that are `Issued` are distinct. -/
theorem nodup (issued : Issued n fds n') : fds.Nodup := issued.ascending.imp fun lt => Int.ne_of_lt lt

end Issued

namespace Kernel

variable {k k₁ k' : Kernel} {e : Effect} {es fs : List Effect}

/-- The open sockets of a kernel, as a `Ledger`. -/
def ledger (k : Kernel) : Ledger := ⟨k.openFds⟩

/-- The open descriptors and the next one. -/
def books (k : Kernel) : List Fd × Fd := (k.openFds, k.nextFd)

/-- The open descriptors are in the order in which they were given out, and the next one is
    above them. -/
structure Sound (k : Kernel) : Prop where
  ascending : k.openFds.Pairwise (· < ·)
  issued    : ∀ fd ∈ k.openFds, 0 ≤ fd ∧ fd < k.nextFd
  positive  : 0 ≤ k.nextFd

namespace Sound

/-- No descriptor of `openFds` is open twice. -/
theorem nodup (sound : k.Sound) : k.openFds.Nodup := sound.ascending.imp fun lt => Int.ne_of_lt lt

/-- The descriptor `nextFd` is not open. -/
theorem fresh (sound : k.Sound) : k.nextFd ∉ k.openFds := fun live =>
  Int.lt_irrefl _ (sound.issued _ live).2

/-- `Sound` is about the books alone. -/
theorem of_books (sound : k.Sound) (same : k'.books = k.books) : k'.Sound := by
  obtain ⟨live, next⟩ := Prod.mk.inj same
  exact ⟨live ▸ sound.ascending, live ▸ next ▸ sound.issued, next ▸ sound.positive⟩

end Sound

/-! ### Changes of a kernel -/

/-- `openSocket` puts the next descriptor behind the open ones. -/
theorem openFds_openSocket : k.openSocket.openFds = k.openFds ++ [k.nextFd] := by
  simp [openFds, openSocket]

/-- `closeSocket` takes one descriptor out of the open ones. -/
theorem openFds_closeSocket {fd : Fd} : (k.closeSocket fd).openFds = k.openFds.filter (· ≠ fd) := by
  simp [openFds, closeSocket, List.filter_map, Function.comp_def]

/-- `Kernel.openSocket` keeps `Sound`: the next descriptor is above the open ones. -/
theorem Sound.openSocket (sound : k.Sound) : k.openSocket.Sound := by
  refine ⟨?_, ?_, Int.le_add_one sound.positive⟩
  · rw [openFds_openSocket]
    refine List.pairwise_append.mpr ⟨sound.ascending, List.pairwise_singleton .., ?_⟩
    intro fd live fd' new
    obtain rfl := List.mem_singleton.mp new
    exact (sound.issued fd live).2
  · rw [openFds_openSocket]
    intro fd there
    rcases List.mem_append.mp there with live | new
    · obtain ⟨positive, below⟩ := sound.issued fd live
      exact ⟨positive, Int.lt_add_one_of_le (Int.le_of_lt below)⟩
    · obtain rfl := List.mem_singleton.mp new
      exact ⟨sound.positive, Int.lt_succ _⟩

/-- `Kernel.closeSocket` keeps `Sound`: a part of the open descriptors ascends. -/
theorem Sound.closeSocket (sound : k.Sound) (fd : Fd) : (k.closeSocket fd).Sound := by
  refine ⟨?_, ?_, sound.positive⟩
  · rw [openFds_closeSocket]
    exact sound.ascending.filter _
  · rw [openFds_closeSocket]
    exact fun fd' there => sound.issued fd' (List.mem_of_mem_filter there)

/-- A `change` of one socket that keeps its descriptor leaves the books alone. -/
theorem books_modifySocket {fd : Fd} {change : Socket → Socket} (keeps : ∀ s, (change s).fd = s.fd) :
    (k.modifySocket fd change).books = k.books := by
  have same : (k.modifySocket fd change).openFds = k.openFds := by
    unfold openFds modifySocket
    rw [List.map_map]
    refine List.map_congr_left fun s _ => ?_
    simp only [Function.comp_apply]
    split
    · exact keeps s
    · rfl
  rw [books, books, same]
  rfl

@[simp] theorem books_setQueue {fd : Fd} {q : List Item} : (k.setQueue fd q).books = k.books :=
  books_modifySocket fun _ => rfl

@[simp] theorem books_enqueue {fd : Fd} {item : Item} : (k.enqueue fd item).books = k.books :=
  books_modifySocket fun _ => rfl

@[simp] theorem books_applyOption {fd : Fd} {option : SocketOption} {value : OptionValue} :
    (k.modifySocket fd (applyOption option value)).books = k.books := by
  refine books_modifySocket fun s => ?_
  unfold applyOption
  split <;> rfl

@[simp] theorem books_bindSocket {fd : Fd} : (k.bindSocket fd).books = k.books := by
  unfold bindSocket
  split
  · rfl
  · exact books_modifySocket (k := k) fun _ => rfl

@[simp] theorem books_dropOverrides {fds : List Fd} : (k.dropOverrides fds).books = k.books := by
  have same : (k.dropOverrides fds).openFds = k.openFds := by
    unfold openFds dropOverrides
    rw [List.map_map]
    refine List.map_congr_left fun s _ => ?_
    simp only [Function.comp_apply]
    split <;> rfl
  rw [books, books, same]
  rfl

/-! ### Effects between two kernels -/

/-- The ledger books the effects `es` on the way from `k` to `k'`, and the sockets that they open
    get the next descriptors. -/
structure Booked (k : Kernel) (es : List Effect) (k' : Kernel) : Prop where
  run    : k.ledger.run es = some k'.ledger
  issued : Issued k.nextFd (opened es) k'.nextFd

namespace Booked

/-- `Booked` without effects, where the books stay as they are. -/
theorem of_books (same : k'.books = k.books) : k.Booked [] k' := by
  obtain ⟨live, next⟩ := Prod.mk.inj same
  refine ⟨?_, next ▸ .refl k.nextFd⟩
  rw [Ledger.run_nil, ledger, ledger, live]

/-- `Booked` for effects that open nothing, where the ledger stays as it is. -/
theorem of_still (silent : opened es = []) (run : k.ledger.run es = some k.ledger) : k.Booked es k :=
  ⟨run, silent ▸ .refl k.nextFd⟩

theorem append (first : k.Booked es k₁) (more : k₁.Booked fs k') : k.Booked (es ++ fs) k' where
  run    := by
    rw [Ledger.run_append, first.run]
    exact more.run
  issued := by
    rw [opened, List.filterMap_append]
    exact first.issued.append more.issued

/-- `Booked` for `Kernel.openSocket` and its call. -/
theorem openSocket (sound : k.Sound) : k.Booked [.call (.socket (.ok k.nextFd))] k.openSocket where
  run    := by
    have opens := Ledger.step_open (l := k.ledger) sound.fresh
    have books : k.openSocket.ledger = ⟨k.ledger.live ++ [k.nextFd]⟩ := congrArg _ openFds_openSocket
    rw [Ledger.run, opens, Option.bind_some, Ledger.run_nil, books]
  issued := .single k.nextFd

/-- `Booked` for `Kernel.closeSocket` and its call, where `fd` is open. -/
theorem closeSocket {fd : Fd} (live : fd ∈ k.openFds) : k.Booked [.call (.close fd)] (k.closeSocket fd) where
  run    := by
    have closes := Ledger.step_close (l := k.ledger) live
    have books : (k.closeSocket fd).ledger = ⟨k.ledger.live.filter (· ≠ fd)⟩ :=
      congrArg _ openFds_closeSocket
    rw [Ledger.run, closes, Option.bind_some, Ledger.run_nil, books]
  issued := .refl k.nextFd

/-- What was open or was opened was closed or is open: `Ledger.conserved`. -/
theorem conserved (sound : k.Sound) (booked : k.Booked es k') :
    (k.openFds ++ opened es).Perm (closed es ++ k'.openFds) := Ledger.conserved sound.nodup booked.run

/-- **No descriptor is given out twice**, nor one that is open: those that are `Issued` ascend from
    `nextFd`, which is above the open ones. -/
theorem nodup_opened (sound : k.Sound) (booked : k.Booked es k') : (k.openFds ++ opened es).Nodup := by
  refine List.nodup_append.mpr ⟨sound.nodup, booked.issued.nodup, ?_⟩
  intro fd live fd' new same
  have below : fd < fd' := Int.lt_of_lt_of_le (sound.issued fd live).2 (booked.issued.between fd' new).1
  exact Int.ne_of_lt below same

/-- No socket that is open at the end was closed on the way. -/
theorem not_closed (sound : k.Sound) (booked : k.Booked es k') {fd : Fd} (live : fd ∈ k'.openFds) :
    fd ∉ closed es := fun gone =>
  have once := (booked.conserved sound).nodup_iff.mp (booked.nodup_opened sound)
  (List.nodup_append.mp once).2.2 fd gone fd live rfl

/-- **What an effect uses was opened before and is not closed yet.** `Ledger.uses_open` counts one
    opening more than closings, and no descriptor is opened twice. -/
theorem used (sound : k.Sound) (booked : k.Booked es k') {pre post : List Effect}
    (here : es = pre ++ e :: post) : ∀ fd ∈ e.uses, fd ∈ k.openFds ++ opened pre ∧ fd ∉ closed pre := by
  intro fd uses
  have counts := Ledger.uses_open sound.nodup booked.run here uses
  -- It was opened once more often than it was closed, and it was opened once at most.
  have once : (k.openFds ++ opened pre).Nodup := by
    have all := booked.nodup_opened sound
    rw [here, opened, List.filterMap_append, ← List.append_assoc] at all
    exact (List.nodup_append.mp all).1
  have most : (k.openFds ++ opened pre).count fd ≤ 1 := List.nodup_iff_count_le_one.mp once fd
  change (k.openFds ++ opened pre).count fd = (closed pre).count fd + 1 at counts
  exact ⟨List.count_pos_iff.mp (by omega), List.count_eq_zero.mp (by omega)⟩

end Booked

end Kernel

end CanDriver
