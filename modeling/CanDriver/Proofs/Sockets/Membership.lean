import CanDriver.WaitSet
import Mathlib.Data.List.Induction
import Mathlib.Order.Bounds.Basic
import Mathlib.Order.MinMax

namespace CanDriver

/-!
# Wait-sets after any changes

What a wait-set lists is told by the changes that it went through.

* `WaitSet.Change` — the four changes; `WaitSet.after` — what they make of an empty wait-set;
* `Change.Stands` — a change was carried out and nothing has undone it since; `Change.stands_concat` —
  one change more;
* `WaitSet.Listens`, `WaitSet.Transmits` — the history of a receive socket and of the transmit socket;
  `WaitSet.mem_rx_after`, `WaitSet.tx_after` — the wait-set has just those;
* `WaitSet.max_isGreatest` — the largest descriptor;
* `WaitSet.take_of_not_mem`, `WaitSet.take_of_mem` — what a removal hands back;
* `WaitSet.lists_history` — all of this after any changes.
-/

namespace WaitSet

/-! ### Changes -/

/-- The four changes of a wait-set. -/
inductive Change
  | insert (fd : Fd)
  | remove (fd : Fd)
  | setTx (fd : Fd)
  | clear
  deriving DecidableEq, Repr

/-- Makes a change. -/
def apply : Change → WaitSet → WaitSet
  | .insert fd, w => w.insert fd
  | .remove fd, w => (w.take fd).2
  | .setTx fd, w  => w.setTx fd
  | .clear, w     => w.clear

/-- An empty wait-set behind the changes `cs`. -/
def after (cs : List Change) : WaitSet := cs.foldl (fun w c => apply c w) empty

theorem after_concat (cs : List Change) (c : Change) : after (cs ++ [c]) = apply c (after cs) := by
  rw [after, List.foldl_append]
  rfl

/-- `made` is one of `cs`, and no change behind it `undoes` it. -/
def Change.Stands (made : Change) (undoes : Change → Prop) (cs : List Change) : Prop :=
  ∃ before later, cs = before ++ made :: later ∧ ∀ c ∈ later, ¬ undoes c

namespace Change

variable {made : Change} {undoes : Change → Prop}

theorem not_stands_nil : ¬ made.Stands undoes [] := by
  rintro ⟨before, later, whole, -⟩
  exact List.append_ne_nil_of_right_ne_nil before (List.cons_ne_nil made later) whole.symm

/-- `Stands` behind one change more: that change is `made`, or does not undo it. -/
theorem stands_concat {cs : List Change} {c : Change} :
    made.Stands undoes (cs ++ [c]) ↔ c = made ∨ made.Stands undoes cs ∧ ¬ undoes c := by
  constructor
  -- Whether something stands behind `made` tells which of the two it is.
  · rintro ⟨before, later, whole, kept⟩
    rcases later.eq_nil_or_concat with rfl | ⟨rest, last, rfl⟩
    · exact .inl (List.singleton_inj.mp (List.append_inj' whole rfl).2)
    · rw [List.concat_eq_append, ← List.cons_append, ← List.append_assoc] at whole
      obtain ⟨front, back⟩ := List.append_inj' whole rfl
      obtain rfl : c = last := List.singleton_inj.mp back
      refine .inr ⟨⟨before, rest, front, fun c' member => kept c' ?_⟩, kept c ?_⟩
      · exact List.concat_eq_append ▸ List.mem_append_left _ member
      · exact List.concat_eq_append ▸ List.mem_append_right _ List.mem_cons_self
  · rintro (rfl | ⟨⟨before, later, rfl, kept⟩, keeps⟩)
    · exact ⟨cs, [], rfl, fun c member => absurd member List.not_mem_nil⟩
    · refine ⟨before, later ++ [c], by simp, fun c' member => ?_⟩
      rcases List.mem_append.mp member with earlier | last
      · exact kept c' earlier
      · rwa [List.mem_singleton.mp last]

end Change

/-- The receive socket `fd` was inserted, and neither removed nor cleared since. -/
def Listens (fd : Fd) : List Change → Prop :=
  (Change.insert fd).Stands fun c => c = .remove fd ∨ c = .clear

/-- The transmit socket was set to `fd`, and neither set nor cleared since. -/
def Transmits (fd : Fd) : List Change → Prop :=
  (Change.setTx fd).Stands fun c => (∃ other, c = .setTx other) ∨ c = .clear

variable {w : WaitSet} {cs : List Change} {fd : Fd}

/-! ### One change -/

theorem mem_remove_iff {other : Fd} : other ∈ (w.remove fd).rx ↔ other ∈ w.rx ∧ other ≠ fd := by
  rw [remove, List.mem_filter, decide_eq_true_eq]

theorem apply_remove : apply (.remove fd) w = w.remove fd := rfl

/-- The receive sockets behind a change. -/
theorem mem_rx_apply {c : Change} :
    fd ∈ (apply c w).rx ↔ c = .insert fd ∨ fd ∈ w.rx ∧ ¬ (c = .remove fd ∨ c = .clear) := by
  cases c with
  | insert other => simp [apply, insert, eq_comm]
  | remove other => simp [apply_remove, mem_remove_iff, eq_comm]
  | setTx other  => simp [apply, setTx]
  | clear        => simp [apply, clear, empty]

/-- The transmit socket behind a change. -/
theorem tx_apply {c : Change} :
    (apply c w).tx = some fd ↔
      c = .setTx fd ∨ w.tx = some fd ∧ ¬ ((∃ other, c = .setTx other) ∨ c = .clear) := by
  cases c with
  | insert other => simp [apply, insert]
  | remove other => simp [apply_remove, remove]
  | setTx other  => simp [apply, setTx]
  | clear        => simp [apply, clear, empty]

/-! ### Any changes -/

/-- The receive sockets of `after cs` are those that `Listens`. -/
theorem mem_rx_after : fd ∈ (after cs).rx ↔ Listens fd cs := by
  induction cs using List.reverseRecOn with
  | nil => exact iff_of_false List.not_mem_nil Change.not_stands_nil
  | append_singleton cs c ih => rw [after_concat, mem_rx_apply, ih, Listens, Change.stands_concat]

/-- The transmit socket of `after cs` is the one that `Transmits`. -/
theorem tx_after : (after cs).tx = some fd ↔ Transmits fd cs := by
  induction cs using List.reverseRecOn with
  | nil => exact iff_of_false (Option.some_ne_none fd ∘ Eq.symm) Change.not_stands_nil
  | append_singleton cs c ih => rw [after_concat, tx_apply, ih, Transmits, Change.stands_concat]

/-! ### The largest descriptor -/

theorem mem_descriptors_none : fd ∈ w.descriptors none ↔ fd ∈ w.rx ∨ w.tx = some fd := by
  rw [descriptors, Option.toList_none, List.append_nil, List.mem_append, Option.mem_toList]

/-- No receive socket is above the last. -/
theorem le_getLast? {d : Fd} (member : fd ∈ w.rx) : fd ≤ w.rx.getLast?.getD d := by
  have ascending := w.ascending
  rcases w.rx.eq_nil_or_concat with none | ⟨front, last, whole⟩
  · rw [none] at member
    exact absurd member List.not_mem_nil
  · rw [whole, List.concat_eq_append] at member ascending ⊢
    rw [List.getLast?_concat, Option.getD_some]
    rcases List.mem_append.mp member with below | top
    · exact Int.le_of_lt ((List.pairwise_append.mp ascending).2.2 fd below last List.mem_cons_self)
    · exact Int.le_of_eq (List.mem_singleton.mp top)

/-- No descriptor of a wait-set is above `max`. -/
theorem le_max (member : fd ∈ w.rx ∨ w.tx = some fd) : fd ≤ w.max := by
  rcases member with receives | transmits
  · exact Int.le_trans (le_getLast? receives) (Int.le_max_left _ _)
  · rw [max, transmits, Option.getD_some]
    exact Int.le_max_right _ _

/-- `max` is one of the descriptors, or `-1`. -/
theorem max_mem (w : WaitSet) : w.max = -1 ∨ w.max ∈ w.rx ∨ w.tx = some w.max := by
  have receives : w.rx.getLast?.getD (-1) = -1 ∨ w.rx.getLast?.getD (-1) ∈ w.rx := by
    cases last : w.rx.getLast? with
    | none    => exact .inl rfl
    | some fd => exact .inr (List.mem_of_getLast? last)
  have transmits : w.tx.getD (-1) = -1 ∨ w.tx = some (w.tx.getD (-1)) := by
    cases w.tx with
    | none    => exact .inl rfl
    | some fd => exact .inr rfl
  rcases max_choice (w.rx.getLast?.getD (-1)) (w.tx.getD (-1)) with left | right
  · rw [max, left]
    exact receives.imp_right .inl
  · rw [max, right]
    exact transmits.imp_right .inr

/-- `max` is the greatest of the descriptors, where there is one. -/
theorem max_isGreatest (member : fd ∈ w.rx ∨ w.tx = some fd) (descriptor : 0 ≤ fd) :
    IsGreatest {fd | fd ∈ w.rx ∨ w.tx = some fd} w.max := by
  refine ⟨(max_mem w).resolve_left fun none => ?_, fun other => le_max⟩
  have below : fd ≤ -1 := none ▸ le_max member
  exact absurd (Int.le_trans descriptor below) (by decide)

/-! ### Removals -/

theorem take_of_not_mem (foreign : fd ∉ w.rx) : w.take fd = (none, w) := by
  have same : w.rx.filter (· ≠ fd) = w.rx :=
    List.filter_eq_self.mpr fun other member => decide_eq_true fun same => foreign (same ▸ member)
  have none : w.hasRx fd = false := by rwa [hasRx, List.contains_eq_mem, decide_eq_false_iff_not]
  rw [take, none, if_neg Bool.false_ne_true]
  congr 1
  unfold remove
  congr 1

theorem take_of_mem (member : fd ∈ w.rx) : w.take fd = (some fd, w.remove fd) := by
  have there : w.hasRx fd = true := List.contains_iff_mem.mpr member
  rw [take, if_pos there]

/-! ### Histories -/

/-- **A wait-set is the set of its history, in order and with its maximum.** After any changes of an
    empty wait-set, what is waited for are the receive sockets that were inserted and neither
    removed nor cleared since, each once and ascending, then the transmit socket that was set last
    since the last clearing, then the extra descriptor. The maximum is the greatest of the receive
    sockets and the transmit socket, and `-1` if there are none. A removal hands back just the
    socket, if it is a receive socket, as the history with that removal has it; else nothing, and
    the wait-set is the same. When the transmit socket is none of the receive sockets, no descriptor
    is listed twice, and its removal hands back nothing. -/
theorem lists_history (cs : List Change) :
    (∀ extra, ∃ rx : List Fd, ∃ tx : Option Fd,
      (after cs).descriptors extra = rx ++ tx.toList ++ extra.toList ∧ rx.Pairwise (· < ·) ∧
        (∀ fd, fd ∈ rx ↔ Listens fd cs) ∧ ∀ fd, tx = some fd ↔ Transmits fd cs) ∧
    (∀ fd, Listens fd cs ∨ Transmits fd cs → 0 ≤ fd →
      IsGreatest {fd | Listens fd cs ∨ Transmits fd cs} (after cs).max) ∧
    ((∀ fd, ¬ Listens fd cs ∧ ¬ Transmits fd cs) → (after cs).max = -1) ∧
    (∀ fd, Listens fd cs → (after cs).take fd = (some fd, after (cs ++ [.remove fd]))) ∧
    (∀ fd, ¬ Listens fd cs → (after cs).take fd = (none, after cs)) ∧
    ((∀ fd, Transmits fd cs → ¬ Listens fd cs) → ((after cs).descriptors none).Nodup ∧
      ∀ fd, Transmits fd cs → (after cs).take fd = (none, after cs)) := by
  simp only [← mem_rx_after, ← tx_after]
  refine ⟨fun extra => ⟨(after cs).rx, (after cs).tx, rfl, (after cs).ascending, fun _ => .rfl,
    fun _ => .rfl⟩, fun fd => max_isGreatest, fun none => ?_, fun fd member => ?_,
    fun fd => take_of_not_mem, fun apart => ⟨?_, fun fd transmits => take_of_not_mem (apart fd transmits)⟩⟩
  · rcases max_mem (after cs) with nothing | receives | transmits
    · exact nothing
    · exact absurd receives (none _).1
    · exact absurd transmits (none _).2
  · rw [take_of_mem member, after_concat, apply_remove]
  · exact Apart.nodup fun fd member transmits => apart fd transmits member

/-- Two receive sockets, of which the larger is removed again, and one to transmit on: the maximum
    is the latter. -/
theorem lists_history_larger_removed :
    IsGreatest {fd | Listens fd [.insert 7, .insert 3, .setTx 5, .remove 7] ∨
      Transmits fd [.insert 7, .insert 3, .setTx 5, .remove 7]} 5 ∧ [(3 : Fd), 5].Nodup := by
  have transmits : Transmits 5 [.insert 7, .insert 3, .setTx 5, .remove 7] :=
    ⟨[.insert 7, .insert 3], [.remove 7], rfl, by simp⟩
  have apart (fd : Fd) (sends : Transmits fd [.insert 7, .insert 3, .setTx 5, .remove 7]) :
      ¬ Listens fd [.insert 7, .insert 3, .setTx 5, .remove 7] := by
    intro listens
    have last : some 5 = some fd := tx_after.mpr sends
    have member : fd ∈ [3] := mem_rx_after.mpr listens
    rw [← Option.some.inj last, List.mem_singleton] at member
    exact absurd member (by decide)
  exact ⟨(lists_history _).2.1 5 (.inr transmits) (by decide), ((lists_history _).2.2.2.2.2 apart).1⟩

end WaitSet

end CanDriver
