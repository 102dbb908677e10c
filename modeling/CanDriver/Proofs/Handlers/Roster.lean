import CanDriver.Delivery
import CanDriver.Proofs.Sockets.Handlers
import Mathlib.Data.List.Induction
import Mathlib.Data.PEquiv
import Mathlib.Data.Set.Finite.Basic

namespace CanDriver

/-!
# The registry as a map and a list

Two lists that are searched from the front, against what they stand for:

* `Registry.Change` — the four changes of a registry; `Change.run` — changes in order, with a log of
  what they answered, the latest first; `Change.since` — how long ago one was last carried out;
* `Roster` — a one-to-one finite map between receive handlers and sockets, and error handlers in
  order, none twice; `Roster.apply` — what the changes make of it;
* `Registry.Lists` — a registry lists the bindings and handlers of a roster; then it answers as the
  roster does, and `Lists.apply` — every change keeps it so;
* `Roster.Dated` — the error handlers of a roster are those that were added since they were last
  removed, in the order of the additions;
* `registry_lists_roster` — all of this after any changes of a new registry.
-/

namespace Registry

/-! ### Changes -/

/-- The four operations that change a `Registry`. -/
inductive Change
  | addRx (fd : Fd) (h : RxHandler)
  | removeRx (fd : Fd)
  | addError (h : ErrorHandler)
  | removeError (h : ErrorHandler)
  deriving DecidableEq, Repr

/-- What a change answers. -/
inductive Answer
  | done
  | refused (code : ErrorCode)
  /-- The receive handler that was unbound, if there was one. -/
  | unbound (h? : Option RxHandler)
  deriving DecidableEq, Repr

/-- The answer to a change that can be refused; a refusal leaves the registry as it is. -/
def settle (r : Registry) : Except ErrorCode Registry → Answer × Registry
  | .ok r'      => (.done, r')
  | .error code => (.refused code, r)

/-- A change of a registry, with its answer. -/
def apply : Change → Registry → Answer × Registry
  | .addRx fd h, r    => r.settle (r.addRx fd h)
  | .removeRx fd, r   => (.unbound (r.takeRx fd).1, (r.takeRx fd).2)
  | .addError h, r    => r.settle (r.addError h)
  | .removeError h, r => r.settle (r.removeError h)

namespace Change

/-- Carries out changes in order, of anything that `apply` changes. The log has the latest first. -/
def run {σ : Type} (apply : Change → σ → Answer × σ) (start : σ) (cs : List Change) :
    List (Change × Answer) × σ :=
  cs.foldl (fun (log, s) c => ((c, (apply c s).1) :: log, (apply c s).2)) ([], start)

theorem run_concat {σ : Type} (apply : Change → σ → Answer × σ) (start : σ) (cs : List Change)
    (c : Change) : run apply start (cs ++ [c]) =
      ((c, (apply c (run apply start cs).2).1) :: (run apply start cs).1,
        (apply c (run apply start cs).2).2) := by
  rw [run, List.foldl_append]
  rfl

/-- How many changes ago `c` was last carried out; as many as there are if it never was. -/
def since (c : Change) (log : List (Change × Answer)) : Nat := log.findIdx (· = (c, .done))

theorem since_cons (c : Change) (entry : Change × Answer) (log : List (Change × Answer)) :
    c.since (entry :: log) = if entry = (c, .done) then 0 else c.since log + 1 := by
  simp only [since, List.findIdx_cons, Bool.cond_decide]

end Change

/-- The registry after the changes `cs` of an empty one. -/
def after (cs : List Change) : Registry := (Change.run apply empty cs).2

/-- The answers to the changes `cs` of an empty registry. -/
def log (cs : List Change) : List (Change × Answer) := (Change.run apply empty cs).1

end Registry

open Registry (Change Answer)

/-! ### Rosters -/

/-- What a registry stands for: a one-to-one finite map between receive handlers and sockets, and
    error handlers in order, none twice. -/
structure Roster where
  bound    : RxHandler ≃. Fd
  finite   : {h | (bound h).isSome}.Finite
  enrolled : List ErrorHandler
  distinct : enrolled.Nodup

namespace Roster

def empty : Roster where
  bound    := ⊥
  finite   := by simp
  enrolled := []
  distinct := List.nodup_nil

/-- Neither `h` nor `fd` is bound. -/
def Free (h : RxHandler) (fd : Fd) (m : Roster) : Prop :=
  m.bound h = none ∧ m.bound.symm fd = none

instance (h : RxHandler) (fd : Fd) (m : Roster) : Decidable (m.Free h fd) :=
  inferInstanceAs (Decidable (_ ∧ _))

/-- The map with `h` and `fd` bound to each other, which `Free` makes possible. -/
def bind (h : RxHandler) (fd : Fd) (m : Roster) (free : m.Free h fd) : Roster where
  bound := {
    toFun  := Function.update m.bound h (some fd)
    invFun := Function.update m.bound.symm fd (some h)
    inv h' fd' := by
      by_cases handler : h' = h <;> by_cases socket : fd' = fd
      · simp [handler, socket]
      · have unbound : m.bound.symm fd' ≠ some h := by
          rw [ne_eq, m.bound.eq_some_iff, free.1]
          exact nofun
        simp [handler, socket, unbound, Ne.symm socket]
      · have unbound : m.bound h' ≠ some fd := by
          rw [ne_eq, ← m.bound.eq_some_iff, free.2]
          exact nofun
        simp [handler, socket, unbound, Ne.symm handler]
      · simp [handler, socket, m.bound.eq_some_iff] }
  finite := by
    refine (m.finite.insert h).subset fun h' there => ?_
    by_cases same : h' = h
    · exact .inl same
    · exact .inr (by simpa [same] using there)
  enrolled := m.enrolled
  distinct := m.distinct

/-- The map without the socket `fd` and the handler that it is bound to. -/
def unbind (fd : Fd) (m : Roster) : Roster where
  bound    := m.bound.trans (.ofSet {fd}ᶜ)
  finite   := by
    refine m.finite.subset fun h there => ?_
    obtain ⟨fd', bound⟩ := Option.isSome_iff_exists.mp there
    obtain ⟨fd'', bound, -⟩ := (PEquiv.trans_eq_some _ _ _ _).mp bound
    exact Option.isSome_iff_exists.mpr ⟨fd'', bound⟩
  enrolled := m.enrolled
  distinct := m.distinct

/-- `h` behind the other error handlers. -/
def enrol (h : ErrorHandler) (m : Roster) (new : h ∉ m.enrolled) : Roster :=
  { m with
    enrolled := m.enrolled ++ [h]
    distinct := List.concat_eq_append .. ▸ m.distinct.concat new }

/-- The error handlers without `h`, the others in their order. -/
def strike (h : ErrorHandler) (m : Roster) : Roster :=
  { m with
    enrolled := m.enrolled.filter (· != h)
    distinct := m.distinct.filter _ }

/-- A change of a roster, with its answer. The conditions are the proofs that `bind` and
    `enrol` need. -/
def apply : Change → Roster → Answer × Roster
  | .addRx fd h, m    =>
    if free : m.Free h fd then (.done, m.bind h fd free) else (.refused .rxHandlerKnown, m)
  | .removeRx fd, m   => (.unbound (m.bound.symm fd), m.unbind fd)
  | .addError h, m    =>
    if known : h ∈ m.enrolled then (.refused .errorHandlerKnown, m) else (.done, m.enrol h known)
  | .removeError h, m =>
    if h ∈ m.enrolled then (.done, m.strike h) else (.refused .errorHandlerUnknown, m)

/-- The roster after the changes `cs` of an empty one. -/
def after (cs : List Change) : Roster := (Change.run apply empty cs).2

/-- The answers to the changes `cs` of an empty roster. -/
def log (cs : List Change) : List (Change × Answer) := (Change.run apply empty cs).1

end Roster

/-! ### Registries list rosters -/

namespace Registry

variable {r : Registry} {m : Roster} {fd : Fd}

/-- The refinement relation: `r` lists the bindings of `m`, each once, and its error handlers in
    their order. -/
structure Lists (r : Registry) (m : Roster) : Prop where
  distinct : r.Distinct
  bound    : ∀ fd h, (fd, h) ∈ r.rx ↔ m.bound h = some fd
  errors   : r.errors = m.enrolled

theorem empty_lists : empty.Lists .empty where
  distinct := ⟨List.nodup_nil, List.nodup_nil, List.nodup_nil⟩
  bound _ _ := iff_of_false List.not_mem_nil nofun
  errors := rfl

/-- `socketOf? h` finds the socket of the only entry that `h` has. -/
theorem Distinct.socketOf?_eq_some_iff (distinct : r.Distinct) {h : RxHandler} :
    r.socketOf? h = some fd ↔ (fd, h) ∈ r.rx := by
  refine ⟨mem_of_socketOf?, fun there => ?_⟩
  cases found : r.socketOf? h with
  | none     => exact absurd (List.mem_map_of_mem there) (not_mem_of_socketOf? found)
  | some fd' =>
    have same := List.inj_on_of_nodup_map distinct.handlers (mem_of_socketOf? found) there rfl
    exact congrArg some (Prod.mk.inj same).1

/-- `takeRx fd` gives back the handler of the only entry that `fd` has. -/
theorem Distinct.takeRx_eq_some_iff (distinct : r.Distinct) {h : RxHandler} :
    (r.takeRx fd).1 = some h ↔ (fd, h) ∈ r.rx := by
  rw [takeRx, Option.map_eq_some_iff]
  constructor
  · rintro ⟨⟨fd', h⟩, found, rfl⟩
    obtain rfl : fd' = fd := by simpa using List.find?_some found
    exact List.mem_of_find?_eq_some found
  · intro there
    have some_entry : (r.rx.find? fun e => e.1 = fd).isSome :=
      List.find?_isSome.mpr ⟨(fd, h), there, decide_eq_true rfl⟩
    obtain ⟨entry, found⟩ := Option.isSome_iff_exists.mp some_entry
    have own : entry.1 = fd := by simpa using List.find?_some found
    have same := List.inj_on_of_nodup_map distinct.sockets (List.mem_of_find?_eq_some found) there own
    exact ⟨entry, found, congrArg Prod.snd same⟩

namespace Lists

/-- `socketOf?` is the map of the roster. -/
theorem socketOf? (lists : r.Lists m) (h : RxHandler) : r.socketOf? h = m.bound h := by
  refine Option.ext fun fd => ?_
  exact lists.distinct.socketOf?_eq_some_iff.trans (lists.bound fd h)

/-- `takeRx` answers by the inverse of that map. -/
theorem takeRx (lists : r.Lists m) (fd : Fd) : (r.takeRx fd).1 = m.bound.symm fd := by
  refine Option.ext fun h => ?_
  exact lists.distinct.takeRx_eq_some_iff.trans ((lists.bound fd h).trans m.bound.eq_some_iff.symm)

/-- `handlersFor fd` has the handler that `fd` is bound to and no other. -/
theorem handlersFor (lists : r.Lists m) (fd : Fd) :
    r.handlersFor fd = (m.bound.symm fd).toList := by
  -- Both lists have no duplicates, so it is enough that they have the same elements.
  have entries : (r.rx.filter fun e => e.1 = fd).Perm ((m.bound.symm fd).toList.map (fd, ·)) := by
    refine (List.perm_ext_iff_of_nodup ?_ ?_).mpr fun entry => ?_
    · exact (List.Nodup.of_map _ lists.distinct.sockets).filter _
    · cases m.bound.symm fd with
      | none   => exact List.nodup_nil
      | some h => exact List.nodup_singleton _
    · obtain ⟨fd', h⟩ := entry
      simp only [List.mem_filter, decide_eq_true_eq, List.mem_map, Option.mem_toList, lists.bound,
        m.bound.eq_some_iff, Prod.mk.injEq]
      constructor
      · rintro ⟨bound, rfl⟩
        exact ⟨h, bound, rfl, rfl⟩
      · rintro ⟨_, bound, rfl, rfl⟩
        exact ⟨bound, rfl⟩
  rw [Registry.handlersFor]
  cases bound : m.bound.symm fd with
  | none   =>
    rw [bound] at entries
    rw [entries.eq_nil]
    rfl
  | some h =>
    rw [bound] at entries
    rw [List.perm_singleton.mp entries]
    rfl

/-- `hasSocket fd` tells whether the inverse is defined at `fd`. -/
theorem hasSocket (lists : r.Lists m) (fd : Fd) : r.hasSocket fd = (m.bound.symm fd).isSome := by
  rw [← lists.takeRx, Registry.takeRx, Option.isSome_map, List.isSome_find?, Registry.hasSocket]

/-- `addRx` is refused unless the pair is `Free`, and appends it otherwise. -/
theorem addRx (lists : r.Lists m) (fd : Fd) (h : RxHandler) :
    r.addRx fd h = if m.Free h fd then .ok { r with rx := r.rx ++ [(fd, h)] }
      else .error .rxHandlerKnown := by
  rw [Registry.addRx, lists.socketOf?, lists.hasSocket]
  by_cases free : m.Free h fd
  · rw [if_pos free, free.1, free.2]
    rfl
  · rw [if_neg free, if_pos]
    rw [Roster.Free, not_and_or, ← ne_eq, ← ne_eq, Option.ne_none_iff_isSome,
      Option.ne_none_iff_isSome] at free
    exact (Bool.or_eq_true _ _).mpr free

/-- Appending a free pair keeps `Lists`, with the roster after `bind`. -/
theorem bind (lists : r.Lists m) {h : RxHandler} (free : m.Free h fd) :
    { r with rx := r.rx ++ [(fd, h)] }.Lists (m.bind h fd free) where
  distinct := lists.distinct.addRx (by rw [lists.addRx, if_pos free])
  bound fd' h' := by
    rw [List.mem_append, lists.bound, List.mem_singleton, Prod.mk.injEq]
    by_cases same : h' = h
    · subst same
      simp [Roster.bind, free.1, eq_comm]
    · simp [Roster.bind, same]
  errors := lists.errors

/-- `removeRx` keeps `Lists`, with the roster after `unbind`. -/
theorem unbind (lists : r.Lists m) (fd : Fd) : (r.removeRx fd).Lists (m.unbind fd) where
  distinct := lists.distinct.removeRx
  bound fd' h := by
    rw [lists.distinct.removeRx_rx, List.mem_filter, lists.bound, Roster.unbind,
      PEquiv.trans_eq_some, decide_eq_true_iff]
    constructor
    · rintro ⟨bound, other⟩
      exact ⟨fd', bound, PEquiv.ofSet_eq_some_iff.mpr ⟨rfl, other⟩⟩
    · rintro ⟨_, bound, kept⟩
      obtain ⟨rfl, other⟩ := PEquiv.ofSet_eq_some_iff.mp kept
      exact ⟨bound, other⟩
  errors := lists.errors

theorem enrol (lists : r.Lists m) {h : ErrorHandler} (new : h ∉ m.enrolled) :
    { r with errors := r.errors ++ [h] }.Lists (m.enrol h new) where
  distinct := ⟨lists.distinct.sockets, lists.distinct.handlers,
    lists.errors ▸ (m.enrol h new).distinct⟩
  bound := lists.bound
  errors := congrArg (· ++ [h]) lists.errors

/-- `erase` takes out the first entry of an error handler, which is the only one, and so
    keeps `Lists`. -/
theorem strike (lists : r.Lists m) (h : ErrorHandler) :
    { r with errors := r.errors.erase h }.Lists (m.strike h) where
  distinct := ⟨lists.distinct.sockets, lists.distinct.handlers, lists.distinct.errors.erase h⟩
  bound := lists.bound
  errors := by
    rw [lists.errors, m.distinct.erase_eq_filter]
    rfl

/-- **Step: a change answers the same of the registry and of the roster**, and the one lists the
    other afterwards. -/
theorem apply (lists : r.Lists m) (c : Change) :
    (r.apply c).1 = (m.apply c).1 ∧ (r.apply c).2.Lists (m.apply c).2 := by
  cases c with
  -- The conditions of the two sides agree by `Lists.addRx`, and for error handlers by `listed`.
  | addRx fd h =>
    rw [Registry.apply, Roster.apply, lists.addRx]
    by_cases free : m.Free h fd
    · rw [if_pos free, dif_pos free]
      exact ⟨rfl, lists.bind free⟩
    · rw [if_neg free, dif_neg free]
      exact ⟨rfl, lists⟩
  | removeRx fd => exact ⟨congrArg Answer.unbound (lists.takeRx fd), lists.unbind fd⟩
  | addError h =>
    have listed : r.errors.contains h = true ↔ h ∈ m.enrolled :=
      lists.errors ▸ List.contains_iff_mem
    rw [Registry.apply, Roster.apply, addError]
    by_cases known : h ∈ m.enrolled
    · rw [if_pos (listed.mpr known), dif_pos known]
      exact ⟨rfl, lists⟩
    · rw [if_neg (mt listed.mp known), dif_neg known]
      exact ⟨rfl, lists.enrol known⟩
  | removeError h =>
    have listed : r.errors.contains h = true ↔ h ∈ m.enrolled :=
      lists.errors ▸ List.contains_iff_mem
    rw [Registry.apply, Roster.apply, removeError]
    by_cases known : h ∈ m.enrolled
    · rw [if_pos (listed.mpr known), if_pos known]
      exact ⟨rfl, lists.strike h⟩
    · rw [if_neg (mt listed.mp known), if_neg known]
      exact ⟨rfl, lists⟩

end Lists

/-- Run: after any changes the registry lists the roster, and the logs agree. By induction on the
    changes with `Lists.apply`. -/
theorem after_lists (cs : List Change) :
    log cs = Roster.log cs ∧ (after cs).Lists (Roster.after cs) := by
  unfold log after Roster.log Roster.after
  induction cs using List.reverseRecOn with
  | nil => exact ⟨rfl, empty_lists⟩
  | append_singleton cs c ih =>
    obtain ⟨answers, lists⟩ := ih
    obtain ⟨answer, next⟩ := lists.apply c
    rw [Change.run_concat, Change.run_concat, answers, answer]
    exact ⟨rfl, next⟩

end Registry

/-! ### The order of error handlers -/

namespace Roster

open Registry.Change

/-- The error handlers are those that were added since they were last removed, in the order in which
    that happened. -/
structure Dated (m : Roster) (log : List (Change × Answer)) : Prop where
  enrolled : ∀ h, h ∈ m.enrolled ↔ (addError h).since log < (removeError h).since log
  order    : m.enrolled.Pairwise fun g h => (addError h).since log < (addError g).since log

variable {m m' : Roster} {log : List (Change × Answer)} {entry : Change × Answer}

/-- A log entry about no error handler ages all changes alike, so it keeps `Dated`. -/
theorem Dated.unmoved (dated : m.Dated log) (kept : m'.enrolled = m.enrolled)
    (other : ∀ h, entry ≠ (addError h, .done) ∧ entry ≠ (removeError h, .done)) :
    m'.Dated (entry :: log) where
  enrolled h := by
    rw [kept, since_cons, since_cons, if_neg (other h).1, if_neg (other h).2, dated.enrolled]
    exact Nat.succ_lt_succ_iff.symm
  order := by
    rw [kept]
    refine dated.order.imp fun {g h} earlier => ?_
    rw [since_cons, since_cons, if_neg (other h).1, if_neg (other g).1]
    exact Nat.succ_lt_succ earlier

/-- `enrol` keeps `Dated`: the new handler is the latest. -/
theorem Dated.enrol (dated : m.Dated log) {h : ErrorHandler} (new : h ∉ m.enrolled) :
    (m.enrol h new).Dated ((addError h, .done) :: log) where
  enrolled g := by
    rw [since_cons, since_cons, if_neg (c := (addError h, Answer.done) = (removeError g, .done)) nofun]
    by_cases same : g = h
    · simp [Roster.enrol, same]
    · simp [Roster.enrol, same, Ne.symm same, dated.enrolled]
  order := by
    refine List.pairwise_append.mpr ⟨?_, List.pairwise_singleton _ _, fun g there h' last => ?_⟩
    · refine dated.order.imp_of_mem fun {f g} thereF thereG earlier => ?_
      have otherF : h ≠ f := fun same => new (same ▸ thereF)
      have otherG : h ≠ g := fun same => new (same ▸ thereG)
      simpa [since_cons, otherF, otherG] using earlier
    · have other : h ≠ g := fun same => new (same ▸ there)
      rw [List.mem_singleton.mp last]
      simp [since_cons, other]

/-- `strike` keeps `Dated`: the handler was removed later than it was added. -/
theorem Dated.strike (dated : m.Dated log) (h : ErrorHandler) :
    (m.strike h).Dated ((removeError h, .done) :: log) where
  enrolled g := by
    rw [since_cons, since_cons, if_neg (c := (removeError h, Answer.done) = (addError g, .done)) nofun]
    by_cases same : g = h
    · simp [Roster.strike, same]
    · simp [Roster.strike, same, Ne.symm same, dated.enrolled]
  order := by
    refine (dated.order.filter _).imp fun {f g} earlier => ?_
    simpa [since_cons] using earlier

theorem Dated.apply (dated : m.Dated log) (c : Change) :
    (m.apply c).2.Dated ((c, (m.apply c).1) :: log) := by
  cases c with
  -- Receive handlers, and changes that are refused, leave the error handlers alone.
  | addRx fd h =>
    rw [Roster.apply]
    split
    · exact dated.unmoved rfl fun _ => ⟨nofun, nofun⟩
    · exact dated.unmoved rfl fun _ => ⟨nofun, nofun⟩
  | removeRx fd => exact dated.unmoved rfl fun _ => ⟨nofun, nofun⟩
  | addError h =>
    rw [Roster.apply]
    split
    · exact dated.unmoved rfl fun _ => ⟨nofun, nofun⟩
    · next new => exact dated.enrol new
  | removeError h =>
    rw [Roster.apply]
    split
    · exact dated.strike h
    · exact dated.unmoved rfl fun _ => ⟨nofun, nofun⟩

theorem after_dated (cs : List Change) : (after cs).Dated (Roster.log cs) := by
  unfold after Roster.log
  induction cs using List.reverseRecOn with
  | nil => exact ⟨fun _ => iff_of_false List.not_mem_nil (Nat.lt_irrefl _), .nil⟩
  | append_singleton cs c ih =>
    rw [Change.run_concat]
    exact ih.apply c

end Roster

/-- **The registry is a one-to-one map and a list.** Whatever changes a new registry goes through,
    each answers as it does of a roster. Afterwards the questions about receive handlers are
    answered by the map of the roster, and its error handlers are those that were added since they
    were last removed, in the order in which that happened. Each of them is told of a notice once,
    in this order, up to the first that panics. -/
theorem registry_lists_roster (cs : List Change) :
    let r := Registry.after cs
    let m := Roster.after cs
    Registry.log cs = Roster.log cs ∧
    (∀ h, r.socketOf? h = m.bound h) ∧
    (∀ fd, r.hasSocket fd = (m.bound.symm fd).isSome) ∧
    (∀ fd, r.handlersFor fd = (m.bound.symm fd).toList) ∧
    r.errors = m.enrolled ∧
    (∀ h, h ∈ r.errors ↔
      (Change.addError h).since (Registry.log cs) < (Change.removeError h).since (Registry.log cs)) ∧
    r.errors.Pairwise (fun g h =>
      (Change.addError h).since (Registry.log cs) < (Change.addError g).since (Registry.log cs)) ∧
    ∀ made n, let told := m.enrolled.map (Callback.notice · n)
      (Callback.effectsOf made (r.announce n)).filterMap Effect.callback? = Callback.untilPanic made told ∧
      (Callback.anyPanics made told = false → Callback.untilPanic made told = told) := by
  obtain ⟨answers, lists⟩ := Registry.after_lists cs
  have dated := Roster.after_dated cs
  dsimp only
  rw [answers, lists.errors]
  refine ⟨rfl, lists.socketOf?, lists.hasSocket, lists.handlersFor, rfl, dated.enrolled, dated.order,
    fun made n => ⟨?_, Callback.untilPanic_eq_self⟩⟩
  rw [Callback.callbacks_effectsOf, Registry.announce, lists.errors]

end CanDriver
