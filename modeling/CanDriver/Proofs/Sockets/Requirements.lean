import CanDriver.Proofs.Sockets.Answers
import CanDriver.Proofs.Sockets.Preparation

namespace CanDriver

/-!
# What a setup requires of the kernel

A setup puts one query after the other to the kernel, up to the first that fails.

* `Setup.Query` — a call that a setup makes; `Query.ask` — what a kernel answers;
* `Query.failure?` — the failure that an answer is reported as; a size beyond the limit of the system
  may be refused;
* `Setup.Put` — queries that were put one after the other; `Setup.Follows` — which ones are put of those
  that are required;
* `Follows.unique` — a kernel lets the same requirements come to the same end;
* `Commission.required` — the queries for a socket, in order;
* `Commission.bounded`, `Commission.measured` — the size that is asked for, and the size that was granted.
-/

open Host

namespace Setup

/-! ### Queries -/

/-- A call that a setup makes for its socket. -/
inductive Query
  /-- The index of the link. -/
  | index
  | nonblocking
  /-- The size of the frames of the link. -/
  | mtu
  | set (option : SocketOption) (value : OptionValue)
  /-- The size of the buffer that was granted. -/
  | size
  | bind
  deriving DecidableEq

/-- A query, its answer, and the calls that were recorded of it. -/
structure Asked where
  query  : Query
  answer : Except Errno Int
  calls  : List KernelCall

namespace Query

/-- Makes the call of the query, whose answer is 0 where it only succeeds or fails. -/
def put (s : Subject) (p : Progress) : Query → HostM Errno Int
  | .index            => do return (← interfaceIndex s.name).toNat
  | .nonblocking      => do setNonblocking s.fd; return 0
  | .mtu              => linkMtu s.fd s.name
  | .set option value => do setOption s.fd option value; return 0
  | .size             => do return (← getBuffer s.fd s.role : Nat)
  | .bind             => do bindSocket s.fd p.index; return 0

/-- The query as the kernel `k` answers it (`Host.alone`), and the kernel behind it. -/
def ask (s : Subject) (p : Progress) (q : Query) (k : Kernel) : Asked × Kernel :=
  let r := Host.alone (q.put s p) k
  (⟨q, r.answer, r.calls⟩, r.kernel)

/-- The progress of a setup behind the answer `n`. -/
def learn (n : Int) (p : Progress) : Query → Progress
  | .index => { p with index := UInt32.ofNat n.toNat }
  | .size  => { p with granted := n.toNat }
  | _      => p

/-- The code of a failure of the query; `none` for the size beyond the limit of the system, which
    may be refused. -/
def code? (role : SocketRole) : Query → Option ErrorCode
  | .index                      => some .interfaceIndex
  | .nonblocking                => some .setNonblocking
  | .mtu                        => some .linkMtu
  | .set .rawFilter _           => some .setRawFilter
  | .set .errorFilter _         => some .setErrorFilter
  | .set .fdFrames _            => some .setFdFrames
  | .set .timestamp _           => some .setTimestamp
  | .set .timestamping _        => some .setTimestamp
  | .set .dropCounter _         => some .setDropCounter
  | .set .sendBuffer _          => some .setSendBuffer
  | .set .receiveBuffer _       => some .setReceiveBuffer
  | .set .forcedSendBuffer _    => none
  | .set .forcedReceiveBuffer _ => none
  | .size                       => some role.getBufferCode
  | .bind                       => some role.bindCode

/-- The failure that the answer is reported as: the code of the query with the number of the call,
    or `fdNotSupported` for a link whose frames have another size. -/
def failure? (role : SocketRole) (q : Query) : Except Errno Int → Option Failure
  | .error e => (q.code? role).map (.os · e)
  | .ok n    => if q = .mtu ∧ n ≠ fdSize then some (.ofCode .fdNotSupported) else none

end Query

/-- `Query.failure?` of the answer. -/
def Asked.failure? (role : SocketRole) (a : Asked) : Option Failure := a.query.failure? role a.answer

/-- `Query.learn` of the answer; a failure tells nothing. -/
def Asked.learn (a : Asked) (p : Progress) : Progress :=
  match a.answer with
  | .ok n    => a.query.learn n p
  | .error _ => p

/-- The queries `made` are put one after the other, from `p` and `k` to `p'` and `k'`; what one of
    them tells is known to the next. -/
inductive Put (s : Subject) : List Asked → Progress → Kernel → Progress → Kernel → Prop
  | nil {p : Progress} {k : Kernel} : Put s [] p k p k
  | cons {a : Asked} {made : List Asked} {p p' : Progress} {k k₁ k' : Kernel}
      (asked : a.query.ask s p k = (a, k₁)) (more : Put s made (a.learn p) k₁ p' k') :
    Put s (a :: made) p k p' k'

/-- Which queries are `made` of those that are required, up to the first failure. Where a size
    beyond the limit of the system is refused, the plain request is required in its place. -/
inductive Follows (role : SocketRole) : List Query → List Asked → Option Failure → Prop
  | done : Follows role [] [] none
  | met {a : Asked} {n : Int} {qs : List Query} {made : List Asked} {f? : Option Failure}
      (answered : a.answer = .ok n) (fits : a.failure? role = none) (more : Follows role qs made f?) :
    Follows role (a.query :: qs) (a :: made) f?
  | waived {a : Asked} {value : OptionValue} {e : Errno} {qs : List Query} {made : List Asked}
      {f? : Option Failure} (forced : a.query = .set role.forcedBufferOption value)
      (refused : a.answer = .error e) (more : Follows role (.set role.bufferOption value :: qs) made f?) :
    Follows role (a.query :: qs) (a :: made) f?
  | failed {a : Asked} {f : Failure} {qs : List Query} (fails : a.failure? role = some f) :
    Follows role (a.query :: qs) [a] (some f)

/-! ### Queries in a row -/

section Course

variable {s : Subject} {p p' p'' : Progress} {q : Query} {qs qs' : List Query} {made made' : List Asked}
  {f? f?' : Option Failure} {k k' k'' : Kernel}

/-- `Query.put` is `Host.Blind`. -/
theorem Query.put_blind (s : Subject) (p : Progress) (q : Query) : Blind (q.put s p) := by
  cases q with
  | index       => exact .bind (.interfaceIndex _) fun _ => .pure _
  | nonblocking => exact .bind (.setNonblocking _) fun _ => .pure _
  | mtu         => exact .linkMtu _ _
  | set         => exact .bind (.setOption _ _ _) fun _ => .pure _
  | size        => exact .bind (.getBuffer _ _) fun _ => .pure _
  | bind        => exact .bind (.bindSocket _ _) fun _ => .pure _

/-- **`Query.put` has the answer of `Query.ask`**, and adds its calls to the journal. -/
theorem Query.put_cases (s : Subject) (p : Progress) (q : Query) (h : Host) :
    ∃ a h₁, a.query = q ∧ q.ask s p h.kernel = (a, h₁.kernel) ∧
      h₁.journal.calls = h.journal.calls ++ a.calls ∧
      q.put s p h = match a.answer with
        | .ok n    => .ok n h₁
        | .error e => .error e h₁ := by
  obtain ⟨h₁, kernel, calls, course⟩ := (q.put_blind s p).cases h
  refine ⟨(q.ask s p h.kernel).1, h₁, rfl, Prod.ext rfl kernel.symm, calls, course.trans ?_⟩
  have same : (q.ask s p h.kernel).1.answer = (alone (q.put s p) h.kernel).answer := rfl
  rw [same]
  cases (alone (q.put s p) h.kernel).answer <;> rfl

theorem Put.append (first : Put s made p k p' k') {p'' : Progress} (more : Put s made' p' k' p'' k'') :
    Put s (made ++ made') p k p'' k'' := by
  induction first with
  | nil             => exact more
  | cons asked _ ih => exact .cons asked (ih more)

theorem Follows.append {role : SocketRole} {f? : Option Failure} (first : Follows role qs made none)
    (more : Follows role qs' made' f?) : Follows role (qs ++ qs') (made ++ made') f? := by
  generalize none? : (none : Option Failure) = f at first
  induction first with
  | done                    => exact more
  | met answered fits _ ih  => exact .met answered fits (ih none?)
  | waived forced refused _ ih => exact .waived forced refused (ih none?)
  | failed _                => exact nomatch none?

/-- `Follows` that ends with a failure does not see what would be required behind it. -/
theorem Follows.append_error {role : SocketRole} {f : Failure} (fails : Follows role qs made (some f)) :
    Follows role (qs ++ qs') made (some f) := by
  generalize some? : some f = f? at fails
  induction fails with
  | done                    => exact nomatch some?
  | met answered fits _ ih  => exact .met answered fits (ih some?)
  | waived forced refused _ ih => exact .waived forced refused (ih some?)
  | failed fails            => exact .failed fails

/-- The refusal of a size beyond the limit is no failure. -/
theorem failure?_forced {role : SocketRole} {a : Asked} {value : OptionValue} {e : Errno}
    (forced : a.query = .set role.forcedBufferOption value) (refused : a.answer = .error e) :
    a.failure? role = none := by
  rw [Asked.failure?, forced, refused]
  cases role <;> rfl

/-- What becomes of the first requirement `q`: it is granted, or replaced by the plain request, or
    the last. -/
theorem Follows.cons_cases {role : SocketRole} {q : Query} (follows : Follows role (q :: qs) made f?) :
    ∃ a rest, made = a :: rest ∧ a.query = q ∧
      ((∃ n, a.answer = .ok n ∧ a.failure? role = none ∧ Follows role qs rest f?) ∨
        (∃ value e, q = .set role.forcedBufferOption value ∧ a.answer = .error e ∧
          Follows role (.set role.bufferOption value :: qs) rest f?) ∨
        ∃ f, a.failure? role = some f ∧ f? = some f) := by
  generalize all : q :: qs = required at follows
  cases follows with
  | done => exact nomatch all
  | met answered fits more =>
    obtain ⟨rfl, rfl⟩ := List.cons.inj all
    exact ⟨_, _, rfl, rfl, .inl ⟨_, answered, fits, more⟩⟩
  | waived forced refused more =>
    obtain ⟨rfl, rfl⟩ := List.cons.inj all
    exact ⟨_, _, rfl, rfl, .inr (.inl ⟨_, _, forced, refused, more⟩)⟩
  | failed fails =>
    obtain ⟨rfl, rfl⟩ := List.cons.inj all
    exact ⟨_, _, rfl, rfl, .inr (.inr ⟨_, fails, rfl⟩)⟩

/-- The same query to the same kernel has the same answer, so that both go on from one kernel. -/
theorem Put.first_unique {a a' : Asked} (put : Put s (a :: made) p k p' k')
    (put' : Put s (a' :: made') p k p'' k'') (query : a'.query = a.query) :
    a' = a ∧ ∃ k₁, Put s made (a.learn p) k₁ p' k' ∧ Put s made' (a.learn p) k₁ p'' k'' := by
  cases put with
  | cons asked more =>
    cases put' with
    | cons asked' more' =>
      rw [query, asked] at asked'
      obtain ⟨rfl, rfl⟩ := Prod.mk.inj asked'
      exact ⟨rfl, _, more, more'⟩

/-- **The same requirements come to the same end** with the same kernel. -/
theorem Follows.unique (follows : Follows s.role qs made f?) (put : Put s made p k p' k')
    (follows' : Follows s.role qs made' f?') (put' : Put s made' p k p'' k'') : f? = f?' := by
  -- On one course; the first query of the other is the same, and so is its answer.
  induction follows generalizing p k made' with
  | done =>
    cases follows'
    rfl
  | met answered fits _ ih =>
    obtain ⟨a', rest, rfl, query, course⟩ := follows'.cons_cases
    obtain ⟨rfl, k₁, more, more'⟩ := put.first_unique put' query
    obtain ⟨_, _, _, follows'⟩ | ⟨_, _, _, refused, _⟩ | ⟨_, fails, _⟩ := course
    · exact ih more follows' more'
    · exact nomatch answered.symm.trans refused
    · exact nomatch fits.symm.trans fails
  | waived forced refused _ ih =>
    obtain ⟨a', rest, rfl, query, course⟩ := follows'.cons_cases
    obtain ⟨rfl, k₁, more, more'⟩ := put.first_unique put' query
    obtain ⟨_, answered, _⟩ | ⟨_, _, forced', _, follows'⟩ | ⟨_, fails, _⟩ := course
    · exact nomatch answered.symm.trans refused
    · obtain ⟨-, rfl⟩ := Query.set.inj (forced.symm.trans forced')
      exact ih more follows' more'
    · exact nomatch (failure?_forced forced refused).symm.trans fails
  | failed fails =>
    obtain ⟨a', rest, rfl, query, course⟩ := follows'.cons_cases
    obtain ⟨rfl, k₁, more, more'⟩ := put.first_unique put' query
    obtain ⟨_, _, fits, _⟩ | ⟨_, _, forced, refused, _⟩ | ⟨_, fails', rfl⟩ := course
    · exact nomatch fits.symm.trans fails
    · exact nomatch (failure?_forced forced refused).symm.trans fails
    · exact fails.symm.trans fails'

/-- What is put is required, or is the plain request in the place of one that is. -/
theorem Follows.query_mem {role : SocketRole} (follows : Follows role qs made f?) {a : Asked}
    (there : a ∈ made) :
    a.query ∈ qs ∨
      ∃ value, a.query = .set role.bufferOption value ∧ .set role.forcedBufferOption value ∈ qs := by
  -- On the course; only `waived` adds a requirement.
  induction follows with
  | done => exact absurd there List.not_mem_nil
  | met _ _ _ ih =>
    obtain rfl | there := List.mem_cons.mp there
    · exact .inl List.mem_cons_self
    · exact (ih there).imp (List.mem_cons_of_mem _) fun ⟨value, same, first⟩ =>
        ⟨value, same, List.mem_cons_of_mem _ first⟩
  | @waived _ value _ _ _ _ forced _ _ ih =>
    obtain rfl | there := List.mem_cons.mp there
    · exact .inl List.mem_cons_self
    · -- The plain request itself comes from the one that was refused.
      obtain required | ⟨value', same, first⟩ := ih there
      · obtain plain | required := List.mem_cons.mp required
        · exact .inr ⟨value, plain, forced ▸ List.mem_cons_self⟩
        · exact .inl (List.mem_cons_of_mem _ required)
      · obtain same' | first := List.mem_cons.mp first
        · have apart : role.forcedBufferOption ≠ role.bufferOption := by cases role <;> decide
          exact absurd (Query.set.inj same').1 apart
        · exact .inr ⟨value', same, List.mem_cons_of_mem _ first⟩
  | failed _ =>
    obtain rfl := List.mem_singleton.mp there
    exact .inl List.mem_cons_self

/-- Where nothing fails, all that is required is answered, but for a size beyond the limit. -/
theorem Follows.exists_answer {role : SocketRole} (follows : Follows role qs made none) {q : Query}
    (there : q ∈ qs) (unforced : ∀ value, q ≠ .set role.forcedBufferOption value) :
    ∃ a ∈ made, a.query = q ∧ ∃ n, a.answer = .ok n := by
  generalize none? : (none : Option Failure) = f? at follows
  induction follows with
  | done => exact absurd there List.not_mem_nil
  | @met a n qs made _ answered _ _ ih =>
    obtain rfl | there := List.mem_cons.mp there
    · exact ⟨a, List.mem_cons_self, rfl, n, answered⟩
    · obtain ⟨a, member, found⟩ := ih there none?
      exact ⟨a, List.mem_cons_of_mem _ member, found⟩
  | waived forced _ _ ih =>
    obtain rfl | there := List.mem_cons.mp there
    · exact absurd forced (unforced _)
    · obtain ⟨a, member, found⟩ := ih (List.mem_cons_of_mem _ there) none?
      exact ⟨a, List.mem_cons_of_mem _ member, found⟩
  | failed _ => exact nomatch none?

/-- The answer to `.size` is not negative. -/
theorem Query.ask_size {a : Asked} {n : Int} (size : a.query = .size) (asked : a.query.ask s p k = (a, k'))
    (answered : a.answer = .ok n) : (n.toNat : Int) = n := by
  have put : (Query.size).put s p = getBuffer s.fd s.role >>= fun granted => pure (granted : Int) := rfl
  rw [size, Query.ask, put, Host.alone] at asked
  cases read : getBuffer s.fd s.role ⟨k, #[]⟩ with
  | ok granted h =>
    rw [bind_ok read] at asked
    obtain ⟨rfl, rfl⟩ := Prod.mk.inj asked
    obtain rfl := Except.ok.inj answered
    rfl
  | error e h =>
    rw [bind_error read] at asked
    obtain ⟨rfl, rfl⟩ := Prod.mk.inj asked
    exact nomatch answered

/-- **The size that is known in the end** is the answer to a `.size` query, or was known before. By
    induction on the queries that were put. -/
theorem Put.granted (put : Put s made p k p' k') :
    (p'.granted = p.granted ∧ ∀ a ∈ made, ∀ n, a.answer = .ok n → a.query ≠ .size) ∨
      ∃ a ∈ made, a.query = .size ∧ a.answer = .ok p'.granted := by
  -- On the queries: a size that a later one tells stands, otherwise that of the first.
  induction put with
  | nil => exact .inl ⟨rfl, nofun⟩
  | @cons a made p _ _ _ _ asked _ ih =>
    obtain ⟨same, others⟩ | ⟨b, there, found⟩ := ih
    · cases answer : a.answer with
      | error e =>
        have learned : a.learn p = p := by rw [Asked.learn, answer]
        rw [learned] at same
        refine .inl ⟨same, List.forall_mem_cons.mpr ⟨fun _ answered => ?_, others⟩⟩
        cases answer.symm.trans answered
      | ok n =>
        have learned : a.learn p = a.query.learn n p := by rw [Asked.learn, answer]
        rw [learned] at same
        by_cases size : a.query = .size
        · rw [size] at same
          refine .inr ⟨a, List.mem_cons_self, size, answer.trans (congrArg _ ?_)⟩
          rw [same, Query.learn, Query.ask_size size asked answer]
        · refine .inl ⟨same.trans ?_, List.forall_mem_cons.mpr ⟨fun _ _ => size, others⟩⟩
          cases query : a.query <;> first | rfl | exact absurd query size
    · exact .inr ⟨b, List.mem_cons_of_mem _ there, found⟩

end Course

end Setup

/-! ### Requirements -/

namespace Commission

open Setup

variable {c : Commission} {index : UInt32}

/-- The size of the buffer in the settings; 0 where none is asked for. -/
def size (c : Commission) : Nat :=
  match c.role with
  | .transmit => c.config.txBuffer
  | .receive  => c.config.rxBuffer

/-- The queries that the settings require for the socket, in order. -/
def required (c : Commission) : List Query :=
  let header := if c.config.processHeader then
      [.set (timestampOption c.config.hwTimestamp).1 (timestampOption c.config.hwTimestamp).2,
       .set .dropCounter (.word 1)]
    else []
  let fd := if c.config.fd then [.mtu, .set .fdFrames (.word 1)] else []
  let filters := [.set .rawFilter (.filters c.filters)]
  let buffer := if 0 < c.size then
      [.set c.role.forcedBufferOption (.word (min c.size maxInt32)), .size]
    else []
  let errors := if c.config.errorMask = 0 then [] else [.set .errorFilter (.word c.config.errorMask.toNat)]
  match c.role with
  | .transmit => [.index, .nonblocking] ++ fd ++ filters ++ buffer ++ errors ++ [.bind]
  | .receive  => [.nonblocking] ++ header ++ fd ++ buffer ++ errors ++ filters ++ [.bind]

/-- The subject of the setup whose socket is `fd`. -/
def subject (c : Commission) (fd : Fd) : Subject := ⟨c.name, c.role, fd⟩

/-- `granted` is the answer to a `.size` query where a size was asked for, and 0 otherwise. -/
def Measured (c : Commission) (made : List Asked) (granted : Nat) : Prop :=
  if 0 < c.size then ∃ a ∈ made, a.query = .size ∧ a.answer = .ok granted else granted = 0

/-- `.size` is required exactly where a size is asked for. -/
theorem size_mem_required : .size ∈ c.required ↔ 0 < c.size := by
  obtain ⟨name, role, config, fs⟩ := c
  cases role <;> simp [required]

/-- The request for a size among `required` is the one beyond the limit, for `size` or the largest
    signed word. -/
theorem value_of_mem_required {option : SocketOption} {value : OptionValue}
    (there : .set option value ∈ c.required)
    (buffer : option = c.role.forcedBufferOption ∨ option = c.role.bufferOption) :
    option = c.role.forcedBufferOption ∧ value = .word (min c.size maxInt32) := by
  obtain ⟨name, role, config, fs⟩ := c
  have stamps : (timestampOption config.hwTimestamp).1 = .timestamping ∨
      (timestampOption config.hwTimestamp).1 = .timestamp := by
    cases config.hwTimestamp <;> simp [timestampOption]
  cases role <;>
    simp only [required, SocketRole.forcedBufferOption, SocketRole.bufferOption, List.mem_append,
      List.mem_cons, List.mem_ite_nil_left, List.mem_ite_nil_right, List.not_mem_nil, or_false,
      Query.set.injEq, reduceCtorEq]
      at there buffer ⊢ <;>
    grind

/-- **Every size that is asked for is `min c.size maxInt32`.** -/
theorem bounded {made : List Asked} {f? : Option Failure} (follows : Follows c.role c.required made f?)
    {a : Asked} (there : a ∈ made) {option : SocketOption} {value : OptionValue}
    (sets : a.query = .set option value)
    (buffer : option = c.role.forcedBufferOption ∨ option = c.role.bufferOption) :
    value = .word (min c.size maxInt32) := by
  obtain required | ⟨value', plain, forced⟩ := follows.query_mem there
  · exact (value_of_mem_required (sets ▸ required) buffer).2
  · obtain ⟨-, rfl⟩ := Query.set.inj (sets.symm.trans plain)
    exact (value_of_mem_required forced (.inl rfl)).2

/-- The size that is known behind all that is required is `Measured`. -/
theorem measured {fd : Fd} {made : List Asked} {p : Progress} {k k' : Kernel}
    (put : Put (c.subject fd) made ⟨index, 0⟩ k p k') (follows : Follows c.role c.required made none) :
    c.Measured made p.granted := by
  have unforced (value : OptionValue) : Query.size ≠ .set c.role.forcedBufferOption value := nofun
  unfold Measured
  split
  · next wanted =>
    obtain ⟨a, there, size, n, answered⟩ := follows.exists_answer (size_mem_required.mpr wanted) unforced
    obtain ⟨-, others⟩ | found := put.granted
    · exact absurd size (others a there n answered)
    · exact found
  · next unwanted =>
    obtain ⟨same, -⟩ | ⟨a, there, size, -⟩ := put.granted
    · exact same
    · obtain required | ⟨value, plain, -⟩ := follows.query_mem there
      · exact absurd (size_mem_required.mp (size ▸ required)) unwanted
      · exact nomatch size.symm.trans plain

end Commission

end CanDriver
