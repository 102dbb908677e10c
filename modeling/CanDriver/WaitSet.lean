import CanDriver.Event

namespace CanDriver

/-!
# The wait-set

The descriptors that a poll waits for: the receive sockets in ascending order, then the transmit
socket.

* `insert`, `remove`, `setTx`, `clear` — changes; `take` — the receive socket with its removal;
* `descriptors extra` — what to wait for, with one more descriptor at the end if given;
* `max` — the largest descriptor, `-1` if there is none.
-/

/-- The descriptors that a poll waits for: the transmit socket, and the receive sockets `rx`,
    which ascend. -/
structure WaitSet where
  tx        : Option Fd
  rx        : List Fd
  ascending : rx.Pairwise (· < ·)
  deriving DecidableEq, Repr

namespace WaitSet

/-- The wait-set of no socket. -/
def empty : WaitSet := ⟨none, [], .nil⟩

instance : Inhabited WaitSet := ⟨empty⟩

/-- Puts `fd` at its place in an ascending list, once. -/
def insertSorted (fd : Fd) : List Fd → List Fd
  | [] => [fd]
  | x :: xs =>
    if fd < x then fd :: x :: xs
    else if fd = x then x :: xs
    else x :: insertSorted fd xs

/-- The members of `insertSorted fd xs` are `fd` and those of `xs`. -/
@[simp] theorem mem_insertSorted {fd x : Fd} {xs : List Fd} :
    x ∈ insertSorted fd xs ↔ x = fd ∨ x ∈ xs := by
  induction xs with
  | nil => simp [insertSorted]
  | cons y ys ih =>
    simp only [insertSorted]
    split
    · simp
    · split
      · next h => simp [h]
      · simp only [List.mem_cons, ih]
        exact or_left_comm

/-- `insertSorted fd` keeps an ascending list ascending. -/
theorem insertSorted_ascending {fd : Fd} {xs : List Fd} (h : xs.Pairwise (· < ·)) :
    (insertSorted fd xs).Pairwise (· < ·) := by
  induction xs with
  | nil => simp [insertSorted]
  | cons y ys ih =>
    obtain ⟨hy, hys⟩ := List.pairwise_cons.mp h
    unfold insertSorted
    split
    · next hlt =>
      -- `fd` goes in front of `y`, below which nothing lies.
      have below : ∀ z ∈ y :: ys, fd < z := by
        intro z hz
        rcases List.mem_cons.mp hz with rfl | hz
        · exact hlt
        · exact Int.lt_trans hlt (hy z hz)
      exact .cons below h
    · split
      · exact h
      · next hlt hne =>
        -- `fd` goes behind `y`, which stays the least.
        have above : ∀ z ∈ insertSorted fd ys, y < z := by
          intro z hz
          rcases mem_insertSorted.mp hz with rfl | hz
          · exact Int.lt_iff_le_and_ne.mpr ⟨Int.not_lt.mp hlt, Ne.symm hne⟩
          · exact hy z hz
        exact .cons above (ih hys)

/-- No receive socket stands twice in `rx`. -/
theorem nodup (w : WaitSet) : w.rx.Nodup := w.ascending.imp fun lt => Int.ne_of_lt lt

/-- Adds `fd` to the receive sockets. -/
def insert (fd : Fd) (w : WaitSet) : WaitSet :=
  { w with rx := insertSorted fd w.rx, ascending := insertSorted_ascending w.ascending }

/-- Takes `fd` out of the receive sockets; the same set if it is not among them. -/
def remove (fd : Fd) (w : WaitSet) : WaitSet :=
  { w with rx := w.rx.filter (· ≠ fd), ascending := w.ascending.filter _ }

/-- `fd` is one of the receive sockets. -/
def hasRx (fd : Fd) (w : WaitSet) : Bool := w.rx.contains fd

/-- Hands back `fd` if it is a receive socket, and the set that `remove` leaves. -/
def take (fd : Fd) (w : WaitSet) : Option Fd × WaitSet :=
  (if w.hasRx fd then some fd else none, w.remove fd)

/-- Makes `fd` the transmit socket, in place of any other. -/
def setTx (fd : Fd) (w : WaitSet) : WaitSet := { w with tx := some fd }

/-- Neither receive sockets nor a transmit socket: `empty`. -/
def clear (_ : WaitSet) : WaitSet := empty

/-- What to wait for, in order: the receive sockets, the transmit socket and `extra`. -/
def descriptors (extra : Option Fd) (w : WaitSet) : List Fd :=
  w.rx ++ w.tx.toList ++ extra.toList

/-- The transmit socket is none of the receive sockets in `rx`. -/
def Apart (w : WaitSet) : Prop := ∀ fd ∈ w.rx, w.tx ≠ some fd

/-- Where `Apart` holds, no descriptor is waited for twice. -/
theorem Apart.nodup {w : WaitSet} (apart : w.Apart) : (w.descriptors none).Nodup := by
  unfold descriptors
  rw [Option.toList_none, List.append_nil]
  refine List.nodup_append.mpr ⟨w.nodup, by cases w.tx <;> simp, ?_⟩
  intro fd hfd fd' hfd' same
  exact apart fd hfd (by simpa [same] using hfd')

/-- The largest of the `descriptors none`, `-1` if there is none. -/
def max (w : WaitSet) : Fd :=
  Max.max (w.rx.getLast?.getD (-1)) (w.tx.getD (-1))

end WaitSet

end CanDriver
