import CanDriver.Proofs.Sessions.Operations
import CanDriver.Proofs.Sockets.Preparation

namespace CanDriver

/-!
# Sockets are configured before they are bound

* `Setups` — effects that are setups of sockets, one after the other, with others between;
* `Setups.bind_cases` — a socket that is bound has been opened and configured by the same setup;
* `Host.SetsUp P` — the way between two hosts is made of setups for what `P` tells;
* `Scenario.Commissions` — what a step sets up a socket for, and `Scenario.step_setsUp`.
-/

open Host Effect

/-! ### Setups in a row -/

/-- One of `es` is a `bind` of `fd` that did not fail. -/
def Effect.Bound (fd : Fd) (es : List Effect) : Prop := ∃ index, .call (.bind fd index none) ∈ es

/-- The descriptors that an effect waits for: those of `wait` and `watch`. -/
def Effect.awaits : Effect → List Fd
  | .call (.wait fds ..) => fds
  | .watch fds _         => fds
  | _                    => []

/-- A descriptor of `Effect.awaits` is one of `Effect.uses`. -/
theorem Effect.uses_of_awaits {e : Effect} {fd : Fd} (there : fd ∈ e.awaits) : fd ∈ e.uses := by
  cases e with
  | watch fds timeout => exact there
  | call c =>
    cases c with
    | wait fds timeout e? => exact there
    | _                   => exact absurd there List.not_mem_nil
  | callback c => exact absurd there List.not_mem_nil
  | record r => exact absurd there List.not_mem_nil

/-- Where `xs ++ ys` is split at `y`, the split is in `ys` or in `xs`. -/
theorem append_cons_cases {α : Type} {xs ys pre post : List α} {y : α} (here : xs ++ ys = pre ++ y :: post) :
    (∃ part, pre = xs ++ part ∧ ys = part ++ y :: post) ∨
      ∃ rest, xs = pre ++ y :: rest ∧ post = rest ++ ys := by
  obtain ⟨part, rfl, later⟩ | ⟨part, rfl, later⟩ := List.append_eq_append_iff.mp here
  · exact .inl ⟨part, rfl, later⟩
  · cases part with
    -- The element is the first of the second list.
    | nil => exact .inl ⟨[], by rw [List.append_nil, List.append_nil], later.symm⟩
    | cons z part =>
      obtain ⟨rfl, rfl⟩ := List.cons.inj later
      exact .inr ⟨part, rfl, rfl⟩

/-- Where `xs ++ [x]` is split at `y` and `y` is not in `xs`, then `y` is `x`. -/
theorem eq_of_concat_eq {α : Type} {xs pre post : List α} {x y : α} (fresh : y ∉ xs)
    (here : xs ++ [x] = pre ++ y :: post) : pre = xs ∧ y = x ∧ post = [] := by
  obtain ⟨part, rfl, last⟩ | ⟨rest, rfl, -⟩ := append_cons_cases here
  · cases part with
    | nil =>
      obtain ⟨rfl, rfl⟩ := List.cons.inj last
      exact ⟨List.append_nil _, rfl, rfl⟩
    | cons z part => cases part <;> cases last
  · exact absurd (List.mem_append_right _ List.mem_cons_self) fresh

namespace Commission

variable {c : Commission} {links : List NetworkLink} {fd fd' : Fd} {e : Effect} {es : List Effect}

section Prepares

variable (prepares : c.Prepares fd e)

include prepares

theorem Prepares.opens : e.opened? = none := by cases prepares <;> rfl

theorem Prepares.readies (at_ : e.readies? = some fd') : fd' = fd := by
  cases prepares <;> first | exact (Option.some.inj at_).symm | cases at_

theorem Prepares.unbound (index : Int32) : e ≠ .call (.bind fd' index none) := by
  rintro rfl
  cases prepares

theorem Prepares.awaits : e.awaits = [] := by cases prepares <;> rfl

end Prepares

namespace Attempt

variable (attempt : c.Attempt links fd es)

include attempt

/-- The effects of `Commission.Attempt`: its `socket`, what `Prepares` it, its `bind` and
    its `close`. -/
theorem mem_cases (there : e ∈ es) : e = .call (.socket (.ok fd)) ∨ c.Prepares fd e ∨
    (∃ index, e = .call (.bind fd index none)) ∨ e = .call (.close fd) := by
  cases attempt with
  | bound only ready =>
    rcases List.mem_cons.mp there with first | there
    · exact .inl first
    · rcases List.mem_append.mp there with there | last
      · exact .inr (.inl (only e there))
      · exact .inr (.inr (.inl ⟨_, List.mem_singleton.mp last⟩))
  | closed only =>
    rcases List.mem_cons.mp there with first | there
    · exact .inl first
    · rcases List.mem_append.mp there with there | last
      · exact .inr (.inl (only e there))
      · exact .inr (.inr (.inr (List.mem_singleton.mp last)))

/-- All effects of an attempt with `Effect.readies?` set up its own socket. -/
theorem readies (there : e ∈ es) (at_ : e.readies? = some fd') : fd' = fd := by
  obtain rfl | prepares | ⟨index, rfl⟩ | rfl := attempt.mem_cases there
  · cases at_
  · exact prepares.readies at_
  · exact (Option.some.inj at_).symm
  · cases at_

/-- No effect of an attempt waits. -/
theorem awaits (there : e ∈ es) : e.awaits = [] := by
  obtain rfl | prepares | ⟨index, rfl⟩ | rfl := attempt.mem_cases there
  · rfl
  · exact prepares.awaits
  · rfl
  · rfl

/-- An attempt opens its socket and no other. -/
theorem opened_eq : opened es = [fd] := by
  have quiet {fs : List Effect} (only : ∀ e ∈ fs, c.Prepares fd e) (last : Effect)
      (silent : last.opened? = none) : opened (fs ++ [last]) = [] := by
    refine List.filterMap_eq_nil_iff.mpr fun e there => ?_
    rcases List.mem_append.mp there with there | there
    · exact (only e there).opens
    · exact List.mem_singleton.mp there ▸ silent
  have first : opened? (.call (.socket (.ok fd))) = some fd := rfl
  cases attempt with
  | bound only ready => rw [opened, List.filterMap_cons_some first, ← opened, quiet only _ rfl]
  | closed only      => rw [opened, List.filterMap_cons_some first, ← opened, quiet only _ rfl]

/-- An attempt closes its socket or binds it. -/
theorem ends : fd ∈ Effect.closed es ∨ Bound fd es := by
  cases attempt with
  | bound only ready =>
    exact .inr ⟨_, List.mem_cons_of_mem _ (List.mem_append_right _ (List.mem_singleton_self _))⟩
  | closed only =>
    refine .inl (List.mem_filterMap.mpr ⟨.call (.close fd), ?_, rfl⟩)
    exact List.mem_cons_of_mem _ (List.mem_append_right _ (List.mem_singleton_self _))

/-- The `bind` of an attempt is the last of its effects, behind those that configure the socket. -/
theorem bind_cases {pre post : List Effect} {index : Int32}
    (here : es = pre ++ .call (.bind fd' index none) :: post) :
    ∃ prep, fd' = fd ∧ pre = .call (.socket (.ok fd)) :: prep ∧ post = [] ∧
      (∀ e ∈ prep, c.Prepares fd e) ∧ c.Configured links fd prep := by
  have unbound {prep : List Effect} (only : ∀ e ∈ prep, c.Prepares fd e) :
      .call (.bind fd' index none) ∉ .call (.socket (.ok fd)) :: prep := by
    intro there
    rcases List.mem_cons.mp there with same | there
    · cases same
    · exact (only _ there).unbound index rfl
  cases attempt with
  | @bound prep _ only ready =>
    obtain ⟨split, same, done⟩ := eq_of_concat_eq (unbound only) here
    cases same
    exact ⟨prep, rfl, split, done, only, ready⟩
  | closed only =>
    obtain ⟨-, same, -⟩ := eq_of_concat_eq (unbound only) here
    cases same

end Attempt

end Commission

/-- `es` are attempts for what `P` tells, one after the other, with `Inert` effects between them. -/
inductive Setups (links : List NetworkLink) (P : Commission → Prop) : List Effect → Prop
  | nil : Setups links P []
  | inert {e : Effect} {es : List Effect} (inert : e.Inert) (rest : Setups links P es) :
    Setups links P (e :: es)
  | setup {c : Commission} {fd : Fd} {es fs : List Effect} (asked : P c)
      (attempt : c.Attempt links fd es) (rest : Setups links P fs) : Setups links P (es ++ fs)

namespace Setups

variable {links : List NetworkLink} {P P' : Commission → Prop} {fd : Fd} {e : Effect}
  {es fs pre post : List Effect}

theorem of_inert (inert : ∀ e ∈ es, e.Inert) : Setups links P es := by
  induction es with
  | nil => exact .nil
  | cons e es ih =>
    obtain ⟨first, rest⟩ := List.forall_mem_cons.mp inert
    exact .inert first (ih rest)

theorem append (first : Setups links P es) (more : Setups links P fs) : Setups links P (es ++ fs) := by
  induction first with
  | nil => exact more
  | inert inert rest ih => exact .inert inert ih
  | setup asked attempt rest ih => exact List.append_assoc .. ▸ .setup asked attempt ih

theorem mono (setups : Setups links P es) (wider : ∀ c, P c → P' c) : Setups links P' es := by
  induction setups with
  | nil => exact .nil
  | inert inert rest ih => exact .inert inert ih
  | setup asked attempt rest ih => exact .setup (wider _ asked) attempt ih

/-- A socket that `Setups` set up was opened by them. -/
theorem opened_of_readies (setups : Setups links P es) (there : e ∈ es) (at_ : e.readies? = some fd) :
    fd ∈ opened es := by
  induction setups with
  | nil => cases there
  | inert inert rest ih =>
    rcases List.mem_cons.mp there with rfl | there
    · cases inert.readies.symm.trans at_
    · rw [opened, List.filterMap_cons_none inert.opens]
      exact ih there
  | setup asked attempt rest ih =>
    rw [opened, List.filterMap_append, ← opened, ← opened, attempt.opened_eq]
    rcases List.mem_append.mp there with there | there
    · obtain rfl := attempt.readies there at_
      exact List.mem_append_left _ (List.mem_singleton_self _)
    · exact List.mem_append_right _ (ih there)

/-- A socket that `Setups` opened was closed or bound by them. -/
theorem closed_or_bound (setups : Setups links P es) (there : fd ∈ opened es) :
    fd ∈ closed es ∨ Bound fd es := by
  -- On the setups: the socket is that of the first attempt, or of a later one.
  induction setups with
  | nil => cases there
  | @inert e es inert rest ih =>
    rw [opened, List.filterMap_cons_none inert.opens] at there
    rcases ih there with gone | ⟨index, bound⟩
    · obtain ⟨what, among, closes⟩ := List.mem_filterMap.mp gone
      exact .inl (List.mem_filterMap.mpr ⟨what, List.mem_cons_of_mem _ among, closes⟩)
    · exact .inr ⟨index, List.mem_cons_of_mem _ bound⟩
  | setup asked attempt rest ih =>
    rw [opened, List.filterMap_append, ← opened, ← opened, attempt.opened_eq] at there
    rw [closed, List.filterMap_append]
    rcases List.mem_append.mp there with own | there
    · obtain rfl := List.mem_singleton.mp own
      rcases attempt.ends with gone | ⟨index, bound⟩
      · exact .inl (List.mem_append_left _ gone)
      · exact .inr ⟨index, List.mem_append_left _ bound⟩
    · rcases ih there with gone | ⟨index, bound⟩
      · exact .inl (List.mem_append_right _ gone)
      · exact .inr ⟨index, List.mem_append_right _ bound⟩

/-- The effects before a wait are `Setups` themselves: no attempt is in the middle of it. -/
theorem before_wait (setups : Setups links P es) (here : es = pre ++ e :: post) (waits : e.awaits ≠ []) :
    Setups links P pre := by
  induction setups generalizing pre with
  | nil => exact absurd here (by simp)
  | inert inert rest ih =>
    cases pre with
    | nil => exact .nil
    | cons e' pre =>
      obtain ⟨rfl, later⟩ := List.cons.inj here
      exact .inert inert (ih later)
  | @setup c fd es fs asked attempt rest ih =>
    obtain ⟨part, rfl, later⟩ | ⟨part, rfl, -⟩ := append_cons_cases here
    -- The wait comes after the setup, since a setup waits for nothing.
    · exact .setup asked attempt (ih later)
    · exact absurd (attempt.awaits (List.mem_append_right _ List.mem_cons_self)) waits

/-- **A socket that is bound was opened and configured by the same attempt**, and the effects before
    and behind the attempt are `Setups`. -/
theorem bind_cases {index : Int32} (setups : Setups links P es)
    (here : es = pre ++ .call (.bind fd index none) :: post) :
    ∃ c before prep, P c ∧ pre = before ++ .call (.socket (.ok fd)) :: prep ∧
      (∀ e ∈ prep, c.Prepares fd e) ∧ c.Configured links fd prep ∧
      Setups links P before ∧ Setups links P post := by
  induction setups generalizing pre with
  | nil => exact absurd here (by simp)
  | @inert e es inert rest ih =>
    cases pre with
    | nil =>
      obtain ⟨rfl, -⟩ := List.cons.inj here
      exact nomatch inert.readies
    | cons e' pre =>
      obtain ⟨rfl, later⟩ := List.cons.inj here
      obtain ⟨c, before, prep, asked, split, only, ready, first, more⟩ := ih later
      exact ⟨c, e :: before, prep, asked, congrArg (e :: ·) split, only, ready, .inert inert first, more⟩
  | @setup c fd' es fs asked attempt rest ih =>
    -- The socket is bound in a later setup, or as the last thing of this one.
    obtain ⟨part, rfl, later⟩ | ⟨part, whole, rfl⟩ := append_cons_cases here
    · obtain ⟨c', before, prep, asked', split, only, ready, first, more⟩ := ih later
      refine ⟨c', es ++ before, prep, asked', ?_, only, ready, .setup asked attempt first, more⟩
      rw [split, List.append_assoc]
    · obtain ⟨prep, rfl, split, rfl, only, ready⟩ := attempt.bind_cases whole
      exact ⟨c, [], prep, asked, split, only, ready, .nil, rest⟩

end Setups

/-! ### Operations that set up sockets -/

/-- The effects between `h` and `h'` are `Setups` for what `P` tells, and the links stay. -/
def Host.SetsUp (P : Commission → Prop) (h h' : Host) : Prop :=
  ∃ es, Leads es h h' ∧ Setups h.kernel.links P es

instance {P : Commission → Prop} : IsPreorder Host (SetsUp P) where
  refl _ := ⟨[], .of_same rfl rfl, .nil⟩
  trans _ _ _ := by
    rintro ⟨es, first, setups⟩ ⟨fs, more, setups'⟩
    exact ⟨es ++ fs, first.trans more, setups.append (first.links ▸ setups')⟩

/-- `Along (SetsUp P)` for a computation whose effects are `Inert`. -/
theorem Emits.setsUp {ε α : Type} {P : Commission → Prop} {m : HostM ε α} (course : Emits Inert m) :
    Along (SetsUp P) m :=
  course.mono fun _ _ ⟨es, way, inert⟩ => ⟨es, way, .of_inert inert⟩

theorem Host.log_setsUp {ε : Type} {P : Commission → Prop} {level : Log.Level} {target : Log.Target}
    {text : String} : Along (SetsUp P) (log level target text : HostM ε Unit) :=
  (Emits.line fun _ => ⟨rfl, rfl⟩).setsUp

namespace Setup

variable {P : Commission → Prop}

theorem openSocket_setsUp {c : Commission} (asked : P c) (index : UInt32) :
    Along (SetsUp P) (Setup.openSocket c.name c.role (c.preparation ++ [.bind]) index) := by
  intro h
  obtain ⟨es, way, inert⟩ | ⟨fd, es, way, attempt⟩ := openSocket_attempt c index h rfl
  · exact ⟨es, way, .of_inert inert⟩
  · have setups : Setups h.kernel.links P (es ++ []) := .setup asked attempt .nil
    exact ⟨es, way, (List.append_nil es).subst setups⟩

theorem openTx_setsUp {name : String} {c : Config} (asked : P (.transmit name c)) :
    Along (SetsUp P) (openTx name c) := by
  unfold openTx
  rw [Commission.txSteps_eq name c]
  exact (openSocket_setsUp asked 0).bind fun _ => log_setsUp.bind fun _ => .pure

theorem openRx_setsUp {name : String} {c : Config} {fs : List Filter} (asked : P (.receive name c fs))
    (index : UInt32) : Along (SetsUp P) (openRx name c index fs) := by
  unfold openRx
  rw [Commission.rxSteps_eq name c fs]
  exact (openSocket_setsUp asked index).bind fun _ => log_setsUp.bind fun _ => .pure

end Setup

namespace Session

variable {P : Commission → Prop} {s : Session} {fs : List Filter}
  (asked : P (.receive s.name s.config fs))

include asked

theorem addSocket_setsUp : Along (SetsUp P) (s.addSocket fs) :=
  (Setup.openRx_setsUp asked s.index).bind fun _ => .pure

/-- `Session.registerRx` sets up its socket for `P`, where `P` holds of the settings of
    the session. -/
theorem registerRx_setsUp {x : RxHandler} : Along (SetsUp P) (s.registerRx x fs) := by
  refine lock_emits.inert.setsUp.bind fun _ => ?_
  split
  · exact log_setsUp.bind fun _ => .throw
  · refine (addSocket_setsUp asked).bind ?_
    rintro ⟨s₁, fd⟩
    dsimp only
    split
    · exact Emits.closeSocket.inert.setsUp.bind fun _ => .throw
    · exact log_setsUp.bind fun _ => .pure

/-- `Session.openRx` sets up its socket for `P`, where `P` holds of the settings of the session. -/
theorem openRx_setsUp : Along (SetsUp P) (s.openRx fs) :=
  lock_emits.inert.setsUp.bind fun _ =>
    (addSocket_setsUp asked).bind fun _ => log_setsUp.bind fun _ => .pure

end Session

namespace Interface

variable {P : Commission → Prop} {i : Interface} {c : Config}

/-- `Interface.start` sets up the transmit socket for `P`, where `P` holds of the settings `c`. -/
theorem start_setsUp (asked : P (.transmit i.name c)) :
    Along (SetsUp P) (i.start c : HostM Empty (Interface × Except Failure Unit)) := by
  have lines (r : Log.Record) : (Effect.record r).Inert := ⟨rfl, rfl⟩
  have ends (fd : Fd) : (Effect.call (.close fd)).Inert := ⟨rfl, rfl⟩
  exact start_along (fun _ => log_setsUp) (startLink_emits lines fun _ _ => ⟨rfl, rfl⟩).setsUp
    (Setup.openTx_setsUp asked) (fun _ => (allocateWorker_emits lines ends).setsUp)
    fun _ => (startWorker_emits lines ends).setsUp

/-- `Interface.init` sets up the transmit socket for `P`, where `P` holds of the settings `c`. -/
theorem init_setsUp (asked : P (.transmit i.name c)) :
    Along (SetsUp P) (i.init c : HostM Empty (Interface × Except Failure Unit)) := by
  intro h
  refine Along.bind_at (release_emits.inert.setsUp h) ?_
  rintro r h₁ run
  obtain rfl := release_answer run
  dsimp only
  split
  · exact (log_setsUp.bind fun _ => start_setsUp (i := { i with session? := none }) asked) h₁
  · exact start_setsUp (i := { i with session? := none }) asked h₁

end Interface

/-! ### Steps -/

namespace Scenario

/-- What an operation sets up a socket for: an initialisation for its own settings, and a receive
    socket for those of the session with its own filters. -/
def Commissions (x : Scenario) : Operation → Commission → Prop
  | .request (.init config), c      => ∃ i, x.interface? = some i ∧ c = .transmit i.name config
  | .request (.registerRx _ fs), c  => ∃ s, x.session? = some s ∧ c = .receive s.name s.config fs
  | .request (.openRx fs), c        => ∃ s, x.session? = some s ∧ c = .receive s.name s.config fs
  | _, _                            => False

variable {x : Scenario} {i : Interface} {ts : List Thread} {h : Host} {P : Commission → Prop}

/-- `Scenario.onSession` is in the relation `R`, from the wake and from the action in every session
    that is `Alike`: with the same name, settings and sockets. -/
theorem onSession_along {R : Host → Host → Prop} [IsPreorder Host R] (coherent : i.Coherent)
    (holds : h.Holds (i.estate ts)) (wakes : ∀ s : Session, Along R (s.wake : HostM Empty Session))
    {action : Session → HostM Empty (Session × Reply)}
    (course : ∀ s s', i.session? = some s → s.Alike s' → Along R (action s')) :
    R h (left (onSession i action h)) := by
  unfold onSession
  cases there : i.session? with
  | none   => exact refl_of _ h
  | some s =>
    have sound := coherent s there
    rw [Interface.estate_of_session there] at holds
    refine Along.bind_at (wakes s h) fun s₁ h₁ run => ?_
    have held : s.HeldBy (s.estate ts) := sound.heldBy
    obtain ⟨s', _, run', -, _, -, -, polled⟩ := (Session.wake_steady (ε := Empty) held).answers holds
    obtain rfl : s' = s₁ := (EStateM.Result.ok.inj (run'.symm.trans run)).1
    exact ((course s s' there polled.alike).bind fun _ => .pure) h₁

/-- `Scenario.onSessionFd` sets up a socket for the settings of the session, where its
    action does. -/
theorem onSessionFd_setsUp (coherent : i.Coherent) (holds : h.Holds (i.estate ts)) {fs : List Filter}
    (asked : ∀ s, i.session? = some s → P (.receive s.name s.config fs))
    {action : Session → HostM Failure (Session × Fd)}
    (course : ∀ s, P (.receive s.name s.config fs) → Along (SetsUp P) (action s)) :
    SetsUp P h (left ((onSessionFd i action : HostM Empty (Interface × Reply)) h)) := by
  unfold onSessionFd
  refine onSession_along coherent holds (fun _ => Session.wake_emits.inert.setsUp) ?_
  intro s s' there alike
  have same := asked s there
  rw [← alike.name, ← alike.config] at same
  exact change_along ((course s' same).bind fun _ => .pure)

/-- `Scenario.answer` sets up sockets for the `Commissions` of its request, and no others. -/
theorem answer_setsUp (coherent : i.Coherent) (holds : h.Holds (i.estate ts)) (event : Event)
    (q : Request) : SetsUp ((⟨some i, event⟩ : Scenario).Commissions (.request q)) h
      (left ((answer event i q : HostM Empty (Scenario × Reply)) h)) := by
  -- The event stays as it is, whatever is done.
  have keeps {P : Commission → Prop} {action : HostM Empty (Interface × Reply)}
      (course : SetsUp P h (left (action h))) : SetsUp P h (left (keep event action h)) :=
    Along.bind_at course fun _ h₁ _ => refl_of _ h₁
  cases q with
  | init c =>
    have starts : Along (SetsUp ((⟨some i, event⟩ : Scenario).Commissions (.request (.init c))))
        (i.init c : HostM Empty (Interface × Except Failure Unit)) :=
      Interface.init_setsUp ⟨i, rfl, rfl⟩
    exact keeps ((starts.bind fun _ => .pure) h)
  | registerRx x fs =>
    exact keeps (onSessionFd_setsUp coherent holds (fun s there => ⟨s, there, rfl⟩) fun s asked =>
      Session.registerRx_setsUp asked)
  | openRx fs =>
    exact keeps (onSessionFd_setsUp coherent holds (fun s there => ⟨s, there, rfl⟩) fun s asked =>
      Session.openRx_setsUp asked)
  | _ => exact (answer_emits rfl).setsUp h

/-- **`Scenario.step` sets up sockets for the `Commissions` of its operation**, and no others. -/
theorem step_setsUp (coherent : x.Coherent) (holds : h.Holds (x.estate ts)) (op : Operation) :
    SetsUp (x.Commissions op) h (left ((x.step op : HostM Empty (Scenario × Reply)) h)) := by
  have performs : SetsUp (x.Commissions op) h
      (left ((x.perform op : HostM Empty (Scenario × Reply)) h)) := by
    cases op with
    | incident what => exact (incident_emits what).inert.setsUp h
    | request q =>
      obtain ⟨i?, event⟩ := x
      cases i? with
      | none   => exact refl_of _ h
      | some i => exact answer_setsUp coherent holds event q
  refine Along.bind_at performs fun r h₁ _ => ?_
  have settles : Along (SetsUp (x.Commissions op)) (r.1.settle : HostM Empty Scenario) :=
    (settle_emits fun _ _ _ _ => trivial).inert.setsUp
  exact (settles.bind fun _ => .pure) h₁

end Scenario

end CanDriver
