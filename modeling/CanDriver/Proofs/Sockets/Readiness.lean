import CanDriver.Proofs.Sessions.Settings
import CanDriver.Proofs.Sockets.Configuration

namespace CanDriver

/-!
# No socket receives before it is configured

* `Effect.filtersOf`, `Effect.maskOf` — the filters and the error classes of a socket;
  `Effect.LetsIn` — the frames that can be queued on it at a moment;
* `Scenario.During` — a moment of a history falls into one of its steps;
* `Scenario.Composed` — a history is made of setups, each of them for what its step comes with;
* `Scenario.ConfiguredFirst` — what comes before and after every bind, and what is waited for;
* `sockets_configured_first` — this is so after every history.
-/

open Host Effect

/-! ### What a socket lets in -/

/-- A data frame passes where one of `fs` admits it, and an error frame where its class is
    in `mask`. -/
def Filter.Passes (fs : List Filter) (mask : Nat) (word : UInt32) : Prop :=
  if word &&& errorFlag = 0 then ∃ f ∈ fs, f.admits word
  else (word &&& extendedMask).toNat &&& mask ≠ 0

namespace Effect

/-- The filters that the effect installs on `fd`. -/
def filters? (fd : Fd) : Effect → Option (List Filter)
  | .call (.setOption fd' .rawFilter (.filters fs) none) => if fd' = fd then some fs else none
  | _                                                    => none

/-- The error classes that the effect enables on `fd`. -/
def mask? (fd : Fd) : Effect → Option Nat
  | .call (.setOption fd' .errorFilter (.word n) none) => if fd' = fd then some n else none
  | _                                                  => none

/-- The filters of `fd` behind `es`: those that were installed last, and `[.all]` for a
    new socket. -/
def filtersOf (fd : Fd) (es : List Effect) : List Filter :=
  (es.filterMap (filters? fd)).getLastD [.all]

/-- The error classes of `fd` behind `es`: those that were enabled last, and 0 for a new socket. -/
def maskOf (fd : Fd) (es : List Effect) : Nat := (es.filterMap (mask? fd)).getLastD 0

/-- A frame with the identifier `word` can be queued on `fd` behind `es`: the socket is bound and
    not closed, and the frame passes its filters. -/
structure LetsIn (es : List Effect) (fd : Fd) (word : UInt32) : Prop where
  bound    : Bound fd es
  unclosed : fd ∉ closed es
  passes   : Filter.Passes (filtersOf fd es) (maskOf fd es) word

end Effect

theorem Effect.filters?_eq_some {fd : Fd} {e : Effect} {fs : List Filter} :
    e.filters? fd = some fs ↔ e = .call (.setOption fd .rawFilter (.filters fs) none) := by
  constructor
  · intro installs
    unfold filters? at installs
    split at installs
    · split at installs
      · next same => rw [same, Option.some.inj installs]
      · cases installs
    · cases installs
  · rintro rfl
    exact if_pos rfl

theorem Effect.mask?_eq_some {fd : Fd} {e : Effect} {n : Nat} :
    e.mask? fd = some n ↔ e = .call (.setOption fd .errorFilter (.word n) none) := by
  constructor
  · intro asks
    unfold mask? at asks
    split at asks
    · split at asks
      · next same => rw [same, Option.some.inj asks]
      · cases asks
    · cases asks
  · rintro rfl
    exact if_pos rfl

/-- The last element of a list whose elements are all `x`. -/
theorem getLastD_of_all {α : Type} {xs : List α} {x d : α} (all : ∀ y ∈ xs, y = x)
    (some_ : xs = [] → d = x) : xs.getLastD d = x := by
  cases xs with
  | nil => exact some_ rfl
  | cons y ys =>
    rw [List.getLastD_cons]
    exact all _ (List.getLastD_mem_cons ..)

/-- `filtersOf` is `fs` where `fs` and no other filters were installed. -/
theorem filtersOf_eq {fd : Fd} {es : List Effect} {fs : List Filter}
    (only : ∀ e ∈ es, ∀ fs', e.filters? fd = some fs' → fs' = fs)
    (installed : .call (.setOption fd .rawFilter (.filters fs) none) ∈ es) : filtersOf fd es = fs := by
  have there : fs ∈ es.filterMap (filters? fd) :=
    List.mem_filterMap.mpr ⟨_, installed, filters?_eq_some.mpr rfl⟩
  refine getLastD_of_all ?_ fun none_ => absurd (none_ ▸ there) List.not_mem_nil
  intro fs' member
  obtain ⟨e, among, installs⟩ := List.mem_filterMap.mp member
  exact only e among fs' installs

/-- `maskOf` is `mask` where `mask` and no other classes were enabled. -/
theorem maskOf_eq {fd : Fd} {es : List Effect} {mask : Nat}
    (only : ∀ e ∈ es, ∀ n, e.mask? fd = some n → n = mask)
    (wanted : mask ≠ 0 → .call (.setOption fd .errorFilter (.word mask) none) ∈ es) :
    maskOf fd es = mask := by
  refine getLastD_of_all ?_ fun none_ => ?_
  · intro n member
    obtain ⟨e, among, asks⟩ := List.mem_filterMap.mp member
    exact only e among n asks
  · by_contra nonzero
    have there : mask ∈ es.filterMap (mask? fd) :=
      List.mem_filterMap.mpr ⟨_, wanted (Ne.symm nonzero), mask?_eq_some.mpr rfl⟩
    exact absurd (none_ ▸ there) List.not_mem_nil

namespace Commission

variable {c : Commission} {links : List NetworkLink} {fd fd' : Fd} {e : Effect}

/-- The filters that `Prepares` installs are those of the commission. -/
theorem Prepares.filters_eq (prepares : c.Prepares fd e) {fs : List Filter}
    (installs : e.filters? fd' = some fs) : fs = c.filters := by
  obtain rfl := filters?_eq_some.mp installs
  cases prepares with
  | option allowed => exact OptionValue.filters.inj (allowed.1 rfl)

/-- The error classes that `Prepares` enables are those of the settings. -/
theorem Prepares.mask_eq (prepares : c.Prepares fd e) {n : Nat} (asks : e.mask? fd' = some n) :
    n = c.config.errorMask.toNat := by
  obtain rfl := mask?_eq_some.mp asks
  cases prepares with
  | option allowed => exact OptionValue.word.inj (allowed.2 rfl)

/-- The filters and error classes of the commission let the frame pass. -/
def Wants (c : Commission) (word : UInt32) : Prop :=
  Filter.Passes c.filters c.config.errorMask.toNat word

/-- `fd` was configured between its opening and its `bind`; behind that nothing of it is set, and it
    keeps its filters and its error classes. -/
structure Fulfilled (c : Commission) (links : List NetworkLink) (fd : Fd) (index : Int32)
    (pre post : List Effect) : Prop where
  configured : ∃ before prep, pre = before ++ .call (.socket (.ok fd)) :: prep ∧
    c.Configured links fd prep
  settled    : ∀ e ∈ post, e.readies? ≠ some fd
  filters    : ∀ later, later <+: post →
    filtersOf fd (pre ++ .call (.bind fd index none) :: later) = c.filters
  mask       : ∀ later, later <+: post →
    maskOf fd (pre ++ .call (.bind fd index none) :: later) = c.config.errorMask.toNat

/-- `Fulfilled` for a socket that one attempt has set up, between other `Setups`. -/
theorem Fulfilled.of_setups {before prep post : List Effect} {index : Int32}
    (once : (opened (before ++ .call (.socket (.ok fd)) :: prep ++
      .call (.bind fd index none) :: post)).Nodup)
    (first : Setups links (fun _ => True) before) (more : Setups links (fun _ => True) post)
    (only : ∀ e ∈ prep, c.Prepares fd e) (ready : c.Configured links fd prep) :
    c.Fulfilled links fd index (before ++ .call (.socket (.ok fd)) :: prep) post := by
  -- The descriptor was given out once, so that no other setup is about this socket.
  have apart : fd ∉ opened before ∧ fd ∉ opened post := by
    have whole : opened (before ++ .call (.socket (.ok fd)) :: prep ++
        .call (.bind fd index none) :: post) = opened before ++ fd :: (opened prep ++ opened post) := by
      have silent : opened? (.call (.bind fd index none)) = none := rfl
      simp [opened, opened?, List.filterMap_cons_none silent]
    rw [whole] at once
    obtain ⟨-, later, distinct⟩ := List.nodup_append.mp once
    refine ⟨fun there => distinct fd there fd List.mem_cons_self rfl, fun there => ?_⟩
    exact (List.nodup_cons.mp later).1 (List.mem_append_right _ there)
  have settled : ∀ e ∈ post, e.readies? ≠ some fd := fun e there at_ =>
    apart.2 (more.opened_of_readies there at_)
  -- What is set on the socket up to a later moment is set by its preparation.
  have own {later : List Effect} (part : later <+: post) {e : Effect}
      (there : e ∈ before ++ .call (.socket (.ok fd)) :: prep ++ .call (.bind fd index none) :: later)
      (at_ : e.readies? = some fd) : e ∈ prep ∨ e = .call (.bind fd index none) := by
    rcases List.mem_append.mp there with there | there
    · rcases List.mem_append.mp there with there | there
      · exact absurd (first.opened_of_readies there at_) apart.1
      · rcases List.mem_cons.mp there with rfl | there
        · cases at_
        · exact .inl there
    · rcases List.mem_cons.mp there with same | there
      · exact .inr same
      · exact absurd at_ (settled e (part.subset there))
  have among {later : List Effect} {e : Effect} (there : e ∈ prep) :
      e ∈ before ++ .call (.socket (.ok fd)) :: prep ++ .call (.bind fd index none) :: later :=
    List.mem_append_left _ (List.mem_append_right _ (List.mem_cons_of_mem _ there))
  refine ⟨⟨before, prep, rfl, ready⟩, settled, fun later part => ?_, fun later part => ?_⟩
  · refine filtersOf_eq (fun e there fs installs => ?_) (among ready.filters)
    have at_ : e.readies? = some fd := filters?_eq_some.mp installs ▸ rfl
    rcases own part there at_ with prepares | rfl
    · exact (only e prepares).filters_eq installs
    · cases installs
  · refine maskOf_eq (fun e there n asks => ?_) fun wanted => among (ready.errors fun none_ => ?_)
    · have at_ : e.readies? = some fd := mask?_eq_some.mp asks ▸ rfl
      rcases own part there at_ with prepares | rfl
      · exact (only e prepares).mask_eq asks
      · cases asks
    · exact wanted (congrArg UInt32.toNat none_)

end Commission

/-! ### Histories -/

namespace Scenario

variable {name : String} {link : Link} {first : Host} {ops : List Operation} {x : Scenario} {h : Host}

/-- The effect behind the first `n` of a history is one of the step of `op` from `x₀`, whose
    session, if any, has the settings of the last initialisation before. -/
def During (name : String) (link : Link) (first : Host) (ops : List Operation) (n : Nat)
    (x₀ : Scenario) (op : Operation) : Prop :=
  ∃ before after h₀ x₁ h₁, ops = before ++ op :: after ∧
    (∀ s, x₀.session? = some s → settings? before = some s.config) ∧
    history name link before first = .ok x₀ h₀ ∧
    history name link (before ++ [op]) first = .ok x₁ h₁ ∧
    h₀.journal.size ≤ n ∧ n < h₁.journal.size

/-- `During` for a history with one more operation. -/
theorem During.concat {n : Nat} {x₀ : Scenario} {op : Operation}
    (during : During name link first ops n x₀ op) (more : Operation) :
    During name link first (ops ++ [more]) n x₀ op := by
  obtain ⟨before, after, h₀, x₁, h₁, rfl, rest⟩ := during
  exact ⟨before, after ++ [more], h₀, x₁, h₁, by rw [List.append_assoc, List.cons_append], rest⟩

/-- The effects of a history are `Setups`, and each socket that is bound was set up for the
    `Commissions` of its step. -/
structure Composed (name : String) (link : Link) (first : Host) (ops : List Operation) (x : Scenario)
    (h : Host) : Prop where
  links    : h.kernel.links = first.kernel.links
  settings : ∀ s, x.session? = some s → settings? ops = some s.config
  setups   : Setups first.kernel.links (fun _ => True) h.journal.toList
  bound    : ∀ pre fd index post, h.journal.toList = pre ++ .call (.bind fd index none) :: post →
    ∃ x₀ op c before prep, During name link first ops pre.length x₀ op ∧ x₀.Commissions op c ∧
      pre = before ++ .call (.socket (.ok fd)) :: prep ∧
      Setups first.kernel.links (fun _ => True) before ∧ (∀ e ∈ prep, c.Prepares fd e) ∧
      c.Configured first.kernel.links fd prep

/-- `Composed` for the history without operations, which sets up no socket. -/
theorem Composed.start (empty : first.journal = #[])
    (run : history name link [] first = .ok x h) : Composed name link first [] x h := by
  have course : Emits Inert (history name link []) :=
    (Interface.named_emits name link).bind fun _ => .pure
  obtain ⟨es, way, inert⟩ := course first
  rw [run] at way
  have journal : h.journal.toList = es := by
    rw [show h.journal.toList = first.journal.toList ++ es from way.journal, empty]
    rfl
  refine ⟨way.links, fun s there => ?_, ?_, fun pre fd index post here => ?_⟩
  · -- There is no session yet.
    obtain ⟨i, h₁, named, done⟩ := of_bind_ok run
    obtain ⟨rfl, -⟩ := EStateM.Result.ok.inj done
    obtain ⟨rfl, -⟩ := EStateM.Result.ok.inj named
    cases there
  · rw [journal]
    exact .of_inert inert
  · have member : .call (.bind fd index none) ∈ es := by
      rw [← journal, here]
      exact List.mem_append_right _ List.mem_cons_self
    exact nomatch (inert _ member).readies

/-- `Scenario.step` keeps `Composed`. -/
theorem Composed.step {op : Operation} {r : Scenario × Reply} {h' : Host}
    (traced : Traced name link first ops x h) (composed : Composed name link first ops x h)
    (step : (x.step op : HostM Empty (Scenario × Reply)) h = .ok r h') :
    Composed name link first (ops ++ [op]) r.1 h' := by
  have sets := step_setsUp traced.coherent traced.holds op
  rw [step] at sets
  obtain ⟨es, way, setups⟩ := sets
  rw [composed.links] at setups
  refine ⟨way.links.trans composed.links, ?_, ?_, fun pre fd index post here => ?_⟩
  · exact fun s there => traced.settings_step composed.settings step there
  · rw [show h'.journal.toList = h.journal.toList ++ es from way.journal]
    exact composed.setups.append (setups.mono fun _ _ => trivial)
  · rw [show h'.journal.toList = h.journal.toList ++ es from way.journal] at here
    obtain ⟨part, rfl, later⟩ | ⟨rest, old, -⟩ := append_cons_cases here
    · -- The socket is bound in this step.
      obtain ⟨c, before, prep, asked, rfl, only, ready, first', -⟩ := setups.bind_cases later
      have setups' := composed.setups.append (first'.mono fun _ _ => trivial)
      refine ⟨x, op, c, h.journal.toList ++ before, prep, ⟨ops, [], h, r.1, h', rfl, composed.settings,
        traced.run, ?_, ?_, ?_⟩, asked,
        (List.append_assoc ..).symm, setups', only, ready⟩
      · rw [history_append traced.run, steps_cons step]
        rfl
      · rw [List.length_append, Array.length_toList]
        exact Nat.le_add_right ..
      · rw [← Array.length_toList, show h'.journal.toList = h.journal.toList ++ es from way.journal, later]
        simp
    -- It was bound in an earlier one.
    · obtain ⟨x₀, op₀, c, before, prep, during, rest⟩ := composed.bound pre fd index rest old
      exact ⟨x₀, op₀, c, before, prep, during.concat op, rest⟩

/-- Every history is `Composed`. -/
theorem exists_composed (links : List NetworkLink) (faults : Faults) (traffic : List Item)
    (name : String) (link : Link) (ops : List Operation) :
    ∃ x h, Traced name link (.start links faults traffic) ops x h ∧
      Composed name link (.start links faults traffic) ops x h := by
  induction ops using List.reverseRecOn with
  | nil =>
    obtain ⟨x, h, traced⟩ : ∃ x h, Traced name link (.start links faults traffic) [] x h :=
      Traced.start links faults traffic
    exact ⟨x, h, traced, .start rfl traced.run⟩
  | append_singleton ops op ih =>
    obtain ⟨x, h, traced, composed⟩ := ih
    obtain ⟨r, h', run, -, -, more⟩ := traced.step op
    exact ⟨r.1, h', more, .step traced composed run⟩

/-- In a history, sockets are configured before anything can be queued on them. -/
structure ConfiguredFirst (name : String) (link : Link) (first : Host) (ops : List Operation)
    (x : Scenario) (h : Host) : Prop where
  /-- Every `bind` is `Fulfilled`, for the `Commissions` of the step in which it is made. -/
  binds   : ∀ pre fd index post, h.journal.toList = pre ++ .call (.bind fd index none) :: post →
    ∃ x₀ op c, During name link first ops pre.length x₀ op ∧ x₀.Commissions op c ∧
      c.Fulfilled first.kernel.links fd index pre post
  /-- Whatever can be queued on a socket at any moment is wanted by the commission that it was
      bound for. -/
  frames  : ∀ moment fd word, moment <+: h.journal.toList → LetsIn moment fd word →
    ∃ pre index post x₀ op c, moment = pre ++ .call (.bind fd index none) :: post ∧
      During name link first ops pre.length x₀ op ∧ x₀.Commissions op c ∧ c.Wants word
  /-- What is waited for is bound. -/
  waits   : ∀ pre what post, h.journal.toList = pre ++ what :: post →
    ∀ fd ∈ what.awaits, Bound fd pre
  waitSet : ∀ s, x.session? = some s → ∀ fd ∈ s.waitSet.descriptors none, Bound fd h.journal.toList

/-- `Composed` gives `ConfiguredFirst`. -/
theorem Composed.configuredFirst {links : List NetworkLink} {faults : Faults} {traffic : List Item}
    (traced : Traced name link (.start links faults traffic) ops x h)
    (composed : Composed name link (.start links faults traffic) ops x h) :
    ConfiguredFirst name link (.start links faults traffic) ops x h := by
  have accounts := traced.accounts
  have binds : ∀ pre fd index post, h.journal.toList = pre ++ .call (.bind fd index none) :: post →
      ∃ x₀ op c, During name link (.start links faults traffic) ops pre.length x₀ op ∧
        x₀.Commissions op c ∧ c.Fulfilled links fd index pre post := by
    intro pre fd index post here
    obtain ⟨-, -, -, -, -, -, -, -, more⟩ := composed.setups.bind_cases here
    obtain ⟨x₀, op, c, before, prep, during, asked, rfl, setups, only, ready⟩ :=
      composed.bound pre fd index post here
    have once := accounts.once
    rw [here] at once
    exact ⟨x₀, op, c, during, asked, .of_setups once setups more only ready⟩
  -- What is let in behind a bind is decided there: `Fulfilled` keeps filters and error classes.
  refine ⟨binds, ?_, ?_, ?_⟩
  · rintro moment fd word ⟨rest, whole⟩ letsIn
    obtain ⟨index, bound⟩ := letsIn.bound
    obtain ⟨pre, later, rfl⟩ := List.append_of_mem bound
    obtain ⟨x₀, op, c, during, asked, fulfilled⟩ := binds pre fd index (later ++ rest) (by
      rw [← whole, List.append_assoc, List.cons_append])
    have part : later <+: later ++ rest := List.prefix_append ..
    have passes := letsIn.passes
    rw [fulfilled.filters later part, fulfilled.mask later part] at passes
    exact ⟨pre, index, later, x₀, op, c, rfl, during, asked, passes⟩
  · intro pre what post here fd there
    have setups := composed.setups.before_wait here (List.ne_nil_of_mem there)
    obtain ⟨opened, unclosed⟩ := accounts.used pre what post here fd (uses_of_awaits there)
    exact (setups.closed_or_bound opened).resolve_left unclosed
  · intro s there fd member
    have own : fd ∈ x.sockets := by
      rw [sockets, there]
      exact (traced.coherent s there).mem_descriptors.mp member
    have live : fd ∈ h.kernel.openFds := accounts.live.mem_iff.mpr (List.mem_append_left _ own)
    have opened : fd ∈ opened h.journal.toList :=
      accounts.balance.mem_iff.mpr (List.mem_append_right _ live)
    -- What is open was not closed: nothing is twice in the balance.
    have apart := List.nodup_append.mp (accounts.balance.nodup_iff.mp accounts.once)
    exact (composed.setups.closed_or_bound opened).resolve_left fun gone => apart.2.2 fd gone fd live rfl

end Scenario

/-- **No socket receives before it is configured.** Take an interface after any steps at all, under
    any settings, filters and failures. Every socket that was bound was bound in the step that
    opened it, and between the two it was made non-blocking; with FD, its link was asked for the
    size of its frames, which is 72, and FD frames were enabled; it got the error classes of the
    settings, if there are any, and its filters: none at all for the transmit socket of an
    initialisation, and those that the caller gave, in order, for a receive socket, which also got
    time stamps of the kind in the settings and a drop counter if headers are processed. No option
    is set after the bind, so that at no moment a frame can be queued on a socket that its filters
    and error classes keep out; and what is waited for, or stands in the wait-set, is bound. -/
theorem sockets_configured_first (links : List NetworkLink) (faults : Faults) (traffic : List Item)
    (name : String) (link : Link) (ops : List Operation) :
    ∃ x h, Scenario.history name link ops (.start links faults traffic) = .ok x h ∧
      Scenario.ConfiguredFirst name link (.start links faults traffic) ops x h := by
  obtain ⟨x, h, traced, composed⟩ := Scenario.exists_composed links faults traffic name link ops
  exact ⟨x, h, traced.run, composed.configuredFirst traced⟩

-- What is done to a receive socket with time stamps and error frames, up to its bind.
example :
    let config : Config := { Config.default with
      polled := true, processHeader := true, errorMask := 0x20 }
    let ops : List Operation := [.request (.init config), .request (.openRx [.standard 0x123])]
    let h := left (Scenario.history "can0" .external ops (.start [⟨"can0", 3, 16⟩] .none []))
    h.journal.toList.filter (fun e => e.readies? = some 101) =
      [.call (.nonblocking 101 none), .call (.setOption 101 .timestamp (.word 1) none),
       .call (.setOption 101 .dropCounter (.word 1) none),
       .call (.setOption 101 .errorFilter (.word 0x20) none),
       .call (.setOption 101 .rawFilter (.filters [.standard 0x123]) none),
       .call (.bind 101 3 none)] := by
  cbv

end CanDriver
