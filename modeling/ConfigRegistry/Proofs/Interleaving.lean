import Mathlib.Data.List.Nodup
import ConfigRegistry.Proofs.Serving
import ConfigRegistry.Proofs.World

set_option autoImplicit false

/-!
Requests that share a store and take their steps in any order. Main statements: every answer is that of the store as
one of the request's own steps found it; where no request writes over what it has read once that has changed, the
answers and the store are those of the answered requests one after the other, in an order that keeps to the time.
-/
namespace ConfigRegistry.Concurrent

open Session (Product)
open Solitary (Names Serves)
open Store (Call Memory Outcome)
open Work (Process)

-- Requests with their numbers over a store that never fails. None of them is cancelled.
inductive Interleaving (requests : Nat → Process Product) (start : Memory) : List Event → World → Prop where
  | start : Interleaving requests start [] (.idle start)
  | step {events : List Event} {world after : World} {event : Event}
      (earlier : Interleaving requests start events world)
      (last : Step Faultless (fun process => ∀ number, event = .began number → process = requests number)
        world event after)
      (whole : ∀ number, event ≠ .cancelled number) : Interleaving requests start (event :: events) after

-- The task that takes the step.
def Event.number : Event → Nat
  | began number | called number _ _ _ | moved number | started number | handed number _ _ | deferred number _ _
  | lost number _ | resumed number _ | cancelled number => number

def World.answer? (world : World) (number : Nat) : Option (Except String Product) :=
  (world.tasks number).bind fun task => task.stage.outcome?

-- What a request has read last, and where.
def lastRead (number : Nat) : List Event → Option (String × Option Bytes)
  | [] => none
  | .called other _ (.get key) (.ok found) :: earlier =>
      if other = number then some (key, found) else lastRead number earlier
  | _ :: earlier => lastRead number earlier

-- The store that the calls of a run leave behind.
def written (start : Memory) : List Event → Memory
  | [] => start
  | .called _ _ call _ :: earlier => ((written start earlier).perform call).2
  | _ :: earlier => written start earlier

-- A request that writes after it has read writes while the store still holds what it has found.
def Timely (start : Memory) (events : List Event) : Prop :=
  ∀ number role key value outcome earlier read found,
    .called number role (.put key value) outcome :: earlier <:+ events →
      lastRead number earlier = some (read, found) → (written start earlier).get? read = found

-- All steps of the first request lie before the second begins.
def Precedes (events : List Event) (first second : Nat) : Prop :=
  ∃ later earlier, events = later ++ .began second :: earlier ∧ .began first ∈ earlier ∧
    ∀ event ∈ later, event.number ≠ first

def InTime (events : List Event) (order : List (Nat × Except String Product)) : Prop :=
  order.Pairwise fun one other => ¬ Precedes events other.1 one.1

-- Requests that are served one after the other, with what each of them is answered.
def Serial (requests : Nat → Process Product) : List (Nat × Except String Product) → Memory → Memory → Prop
  | [], start, last => last = start
  | (number, answer) :: rest, start, last =>
      ∃ between, Serves (requests number) start answer between ∧ Serial requests rest between last

structure Linearization (requests : Nat → Process Product) (start : Memory) (events : List Event) (world : World)
    (order : List (Nat × Except String Product)) : Prop where
  once : (order.map Prod.fst).Nodup
  answers : ∀ number answer, (number, answer) ∈ order ↔ world.answer? number = some answer
  serial : Serial requests order start world.memory
  timed : InTime events order

-- A request that has its answer of the store as one of its own steps found it, and that wrote what it made of it
-- in that step or later on.
def AsFound (request : Process Product) (number : Nat) (start : Memory) (events : List Event)
    (answer : Except String Product) : Prop :=
  ∃ later event earlier after, events = later ++ event :: earlier ∧ event.number = number ∧
    Serves request (written start earlier) answer after ∧
      (after = written start (event :: earlier) ∨ ∃ key value, after = (written start earlier).insert key value ∧
        .called number .request (.put key value) (.ok ()) ∈ later)

-- A process that writes once, and then has its answer.
def Writes {ρ : Type} : Process ρ → Prop
  | .fresh next => ∀ id, Writes (next id)
  | .ask _ (.put _ _) next => ∃ result, next (.ok ()) = .done result
  | _ => False

-- A process that has its answer after one call, or else reads with it and then writes.
def Edits {ρ : Type} : Process ρ → Prop
  | .done _ => True
  | .fresh next => ∀ id, Edits (next id)
  | .ask _ call next => ∀ answer, (∃ result, next (.ok answer) = .done result) ∨
      (∃ key, call = .get key) ∧ Writes (next (.ok answer))
  | _ => False

section Shapes

variable {ρ σ : Type} {post : ρ → Prop} {process : Process ρ} {next : ρ → Process σ} {memory after : Memory}
  {ending : Except String ρ}

theorem names_writes (names : Names post process) (rest : ∀ result, post result → Writes (next result)) :
    Writes (process.bind next) := by
  induction process with
  | done result => exact rest result names
  | fresh following ih => exact fun id => ih id (names id)
  | _ => exact names.elim

theorem names_edits (names : Names post process) (rest : ∀ result, post result → Edits (next result)) :
    Edits (process.bind next) := by
  induction process with
  | done result => exact rest result names
  | fresh following ih => exact fun id => ih id (names id)
  | _ => exact names.elim

theorem writes_then (writes : Writes process) (ends : ∀ result, ∃ last, next result = .done last) :
    Writes (process.bind next) := by
  induction process with
  | fresh following ih => exact fun id => ih id (writes id)
  | ask guard call following _ =>
      cases call with
      | put key value =>
          obtain ⟨result, done⟩ := writes
          obtain ⟨last, same⟩ := ends result
          exact ⟨last, (congrArg (Process.bind next) done).trans same⟩
      | _ => exact writes.elim
  | _ => exact writes.elim

theorem edits_then (edits : Edits process) (ends : ∀ result, ∃ last, next result = .done last) :
    Edits (process.bind next) := by
  induction process with
  | done result =>
      obtain ⟨last, same⟩ := ends result
      rw [Process.bind, same]
      trivial
  | fresh following ih => exact fun id => ih id (edits id)
  | ask guard call following _ =>
      intro answer
      rcases edits answer with ⟨result, done⟩ | ⟨reads, writes⟩
      · obtain ⟨last, same⟩ := ends result
        exact .inl ⟨last, (congrArg (Process.bind next) done).trans same⟩
      · exact .inr ⟨reads, writes_then writes ends⟩
  | _ => exact edits.elim

theorem writes_rescue (writes : Writes process) (f : String → ρ) : Writes (process.rescue f) := by
  induction process with
  | fresh following ih => exact fun id => ih id (writes id)
  | ask guard call following _ =>
      cases call with
      | put key value =>
          obtain ⟨result, done⟩ := writes
          exact ⟨result, congrArg (Process.rescue f) done⟩
      | _ => exact writes.elim
  | _ => exact writes.elim

theorem edits_rescue (edits : Edits process) (f : String → ρ) : Edits (process.rescue f) := by
  induction process with
  | done result => trivial
  | fresh following ih => exact fun id => ih id (edits id)
  | ask guard call following _ =>
      intro answer
      rcases edits answer with ⟨result, done⟩ | ⟨reads, writes⟩
      · exact .inl ⟨result, congrArg (Process.rescue f) done⟩
      · exact .inr ⟨reads, writes_rescue writes f⟩
  | _ => exact edits.elim

theorem writes_serves (writes : Writes process) (serves : Serves process memory ending after) :
    ∃ result, ending = .ok result := by
  induction process generalizing memory with
  | fresh following ih =>
      obtain ⟨id, serves⟩ := serves
      exact ih id (writes id) serves
  | ask guard call following _ =>
      cases call with
      | put key value =>
          obtain ⟨result, done⟩ := writes
          change Serves (following (.ok ())) _ _ _ at serves
          rw [done] at serves
          exact ⟨result, serves.1⟩
      | _ => exact writes.elim
  | _ => exact writes.elim

theorem edits_serves (edits : Edits process) (serves : Serves process memory ending after) :
    ∃ result, ending = .ok result := by
  induction process generalizing memory with
  | done result => exact ⟨result, serves.1⟩
  | fresh following ih =>
      obtain ⟨id, serves⟩ := serves
      exact ih id (edits id) serves
  | ask guard call following _ =>
      rw [Serves] at serves
      rcases edits (memory.perform call).1 with ⟨result, done⟩ | ⟨-, writes⟩
      · rw [done] at serves
        exact ⟨result, serves.1⟩
      · exact writes_serves writes serves
  | _ => exact edits.elim

end Shapes

-- A request that has read, at most, and does from here what it would do if it began now.
structure Pending (request : Process Product) (read : Option (String × Option Bytes)) (process : Process Product) :
    Prop where
  undone : ∀ result, process ≠ .done result
  edits : read = none → Edits process
  writes : ∀ key found, read = some (key, found) → Writes process
  faithful : ∀ memory answer after, (∀ key found, read = some (key, found) → memory.get? key = found) →
    Serves process memory answer after → Serves request memory answer after

inductive Standing (request : Process Product) (read : Option (String × Option Bytes)) : Task → Prop where
  | pending {process : Process Product} (pending : Pending request read process) :
      Standing request read ⟨.request, .active process⟩
  | answered {product : Product} : Standing request read ⟨.request, .active (.done product)⟩

structure Afoot (requests : Nat → Process Product) (start : Memory) (events : List Event) (world : World) : Prop where
  memory : written start events = world.memory
  standing : ∀ number task, world.tasks number = some task →
    Standing (requests number) (lastRead number events) task
  unread : ∀ number, world.tasks number = none → lastRead number events = none

-- How a step leaves the request that takes it: still without an answer, or with that of the store as it is, or with
-- that of what it had read.
inductive Advance (request : Process Product) (number : Nat) (events : List Event) (memory : Memory) :
    Event → Memory → Process Product → Prop where
  | pending {event : Event} {process : Process Product}
      (pending : Pending request (lastRead number (event :: events)) process) :
      Advance request number events memory event memory process
  | told {event : Event} {after : Memory} {product : Product} (serves : Serves request memory (.ok product) after) :
      Advance request number events memory event after (.done product)
  | wrote {event : Event} {key place : String} {value : Bytes} {found : Option Bytes} {product : Product}
      (writes : event = .called number .request (.put key value) (.ok ()))
      (read : lastRead number events = some (place, found))
      (serves : ∀ held : Memory, held.get? place = found → Serves request held (.ok product) (held.insert key value)) :
      Advance request number events memory event (memory.insert key value) (.done product)

inductive Advanced (requests : Nat → Process Product) (start : Memory) (events : List Event) (world : World)
    (event : Event) : World → Prop where
  | on {memory : Memory} {process : Process Product} (unanswered : world.answer? event.number = none)
      (wrote : written start (event :: events) = memory)
      (advance : Advance (requests event.number) event.number events world.memory event memory process) :
      Advanced requests start events world event
        (World.put { world with memory } event.number ⟨.request, .active process⟩)

section Orders

variable {requests : Nat → Process Product} {start memory last : Memory} {events : List Event} {event : Event}
  {order : List (Nat × Except String Product)} {number other : Nat}

theorem serial_append {more : List (Nat × Except String Product)} :
    Serial requests (order ++ more) start last ↔
      ∃ between, Serial requests order start between ∧ Serial requests more between last := by
  induction order generalizing start with
  | nil => simp [Serial]
  | cons first rest ih =>
      obtain ⟨number, answer⟩ := first
      simp only [List.cons_append, Serial, ih]
      constructor
      · rintro ⟨one, serves, two, front, back⟩
        exact ⟨two, ⟨one, serves, front⟩, back⟩
      · rintro ⟨two, ⟨one, serves, front⟩, back⟩
        exact ⟨one, serves, two, front, back⟩

theorem last_read_other (apart : event.number ≠ number) :
    lastRead number (event :: events) = lastRead number events := by
  cases event with
  | called caller role call outcome =>
      cases call with
      | get key =>
          cases outcome with
          | ok found => exact if_neg apart
          | _ => rfl
      | _ => rfl
  | _ => rfl

theorem precedes_later (apart : event ≠ .began other) (precedes : Precedes (event :: events) number other) :
    Precedes events number other := by
  obtain ⟨later, earlier, split, begun, quiet⟩ := precedes
  cases later with
  | nil => exact absurd (List.cons.inj split).1 apart
  | cons first later =>
      refine ⟨later, earlier, (List.cons.inj split).2, begun, fun event among => ?_⟩
      exact quiet event (List.mem_cons_of_mem _ among)

theorem own_step_last (own : event.number = number) (apart : event ≠ .began other) :
    ¬ Precedes (event :: events) number other := by
  rintro ⟨later, earlier, split, -, quiet⟩
  cases later with
  | nil => exact apart (List.cons.inj split).1
  | cons first later =>
      obtain ⟨rfl, -⟩ := List.cons.inj split
      exact quiet event List.mem_cons_self own

theorem timely_earlier (timely : Timely start (event :: events)) : Timely start events :=
  fun number role key value outcome earlier read found among =>
    timely number role key value outcome earlier read found (among.trans (List.suffix_cons _ _))

end Orders

section Steps

variable {requests : Nat → Process Product} {start memory : Memory} {events : List Event} {event : Event}
  {order : List (Nat × Except String Product)} {number : Nat} {world after : World} {process : Process Product}
  {product : Product} {read : Option (String × Option Bytes)}

theorem pending_shape {request : Process Product} (pending : Pending request read process) :
    Edits process ∨ Writes process := by
  cases read with
  | none => exact .inl (pending.edits rfl)
  | some found => exact .inr (pending.writes _ _ rfl)

theorem pending_unanswered {request : Process Product} (pending : Pending request read process) :
    Stage.outcome? (.active process) = none := by
  cases process with
  | done product => exact absurd rfl (pending.undone product)
  | crash message => rcases pending_shape pending with edits | writes <;> contradiction
  | _ => rfl

-- A request that has only taken ids so far may have its answer, too.
theorem unread_advance {request : Process Product} (unread : lastRead number (event :: events) = none)
    (edits : Edits process)
    (faithful : ∀ memory answer after, Serves process memory answer after → Serves request memory answer after) :
    Advance request number events memory event memory process := by
  by_cases done : ∃ product, process = .done product
  · obtain ⟨product, rfl⟩ := done
    exact .told (faithful _ _ _ ⟨rfl, rfl⟩)
  · refine .pending ⟨fun product same => done ⟨product, same⟩, fun _ => edits, ?_, ?_⟩
    · simp [unread]
    · exact fun memory answer after _ => faithful memory answer after

theorem call_advance {request : Process Product} {guard : Option String} {call : Call}
    {next : Outcome call.Answer → Process Product}
    (pending : Pending request (lastRead number events) (.ask guard call next)) :
    Advance request number events memory (.called number .request call (.ok (memory.perform call).1))
      (memory.perform call).2 (next (.ok (memory.perform call).1)) := by
  cases read : lastRead number events with
  | none =>
      rcases pending.edits read (memory.perform call).1 with ⟨product, done⟩ | ⟨⟨key, rfl⟩, writes⟩
      · rw [done]
        refine .told (pending.faithful _ _ _ (by simp [read]) ?_)
        rw [Serves, done]
        exact ⟨rfl, rfl⟩
      · have found : lastRead number (.called number .request (.get key) (.ok (memory.get? key)) :: events) =
            some (key, memory.get? key) := if_pos rfl
        refine .pending ⟨?_, ?_, fun _ _ _ => writes, ?_⟩
        · intro product same
          rw [same] at writes
          exact writes
        · intro unread
          cases found.symm.trans unread
        · intro held answer after holds serves
          refine pending.faithful held answer after (by simp [read]) ?_
          have same : held.get? key = memory.get? key := holds key _ found
          rw [Serves, Memory.perform, same]
          exact serves
  | some found =>
      have writes := pending.writes found.1 found.2 read
      cases call with
      | put key value =>
          obtain ⟨product, done⟩ := writes
          change Advance _ _ _ _ _ _ (next (.ok ()))
          rw [done]
          refine .wrote rfl read fun held holds => pending.faithful _ _ _ ?_ ?_
          · intro place bytes same
            cases read.symm.trans same
            exact holds
          · change Serves (next (.ok ())) _ _ _
            rw [done]
            exact ⟨rfl, rfl⟩
      | _ => exact writes.elim

theorem fresh_advance {request : Process Product} {next : String → Process Product}
    (pending : Pending request (lastRead number events) (.fresh next)) (id : String) :
    Advance request number events memory (.moved number) memory (next id) := by
  cases read : lastRead number events with
  | none =>
      refine unread_advance read (pending.edits read id) ?_
      exact fun memory answer after serves => pending.faithful _ _ _ (by simp [read]) ⟨id, serves⟩
  | some found =>
      have writes := pending.writes found.1 found.2 read id
      refine .pending ⟨?_, ?_, fun _ _ _ => writes, ?_⟩
      · intro product same
        rw [same] at writes
        exact writes
      · intro unread
        cases read.symm.trans unread
      · exact fun memory answer after holds serves => pending.faithful _ _ _ holds ⟨id, serves⟩

theorem unanswered_pending {role : Role} {stage : Stage} (afoot : Afoot requests start events world)
    (present : world.tasks number = some ⟨role, stage⟩) (unanswered : stage.outcome? = none) :
    role = .request ∧ world.answer? number = none ∧
      ∃ process, stage = .active process ∧ Pending (requests number) (lastRead number events) process := by
  have silent : world.answer? number = none := by
    rw [World.answer?, present]
    exact unanswered
  cases afoot.standing number _ present with
  | pending pending => exact ⟨rfl, silent, _, rfl, pending⟩
  | answered => cases unanswered

theorem step_advances (edits : ∀ number, Edits (requests number)) (afoot : Afoot requests start events world)
    (step : Step Faultless (fun process => ∀ number, event = .began number → process = requests number)
      world event after)
    (whole : ∀ number, event ≠ .cancelled number) : Advanced requests start events world event after := by
  cases step with
  | @begin number process free admitted =>
      obtain rfl := admitted number rfl
      have silent : world.answer? number = none := by
        rw [World.answer?, free]
        rfl
      refine .on silent afoot.memory (unread_advance (afoot.unread number free) (edits number) ?_)
      exact fun _ _ _ serves => serves
  | call present allowed =>
      cases allowed with
      | answered =>
          obtain ⟨rfl, silent, _, same, pending⟩ := unanswered_pending afoot present rfl
          cases same
          refine .on silent ?_ (call_advance pending)
          rw [written, afoot.memory]
  | fresh id present =>
      obtain ⟨rfl, silent, _, same, pending⟩ := unanswered_pending afoot present rfl
      cases same
      exact .on silent afoot.memory (fresh_advance pending id)
  | cancel present left => exact absurd rfl (whole _)
  -- Nothing that is under way does anything but ask and take ids.
  | wait present | start present | settle present free | abandon present free | lose present =>
      obtain ⟨-, -, _, same, pending⟩ := unanswered_pending afoot present rfl
      cases same
      rcases pending_shape pending with edits | writes
      · exact edits.elim
      · exact writes.elim
  | resume present ended ending =>
      obtain ⟨-, -, _, same, -⟩ := unanswered_pending afoot present rfl
      cases same

theorem advanced_afoot (afoot : Afoot requests start events world)
    (advanced : Advanced requests start events world event after) : Afoot requests start (event :: events) after := by
  obtain ⟨-, wrote, advance⟩ := advanced
  refine ⟨wrote, fun number task present => ?_, fun number absent => ?_⟩
  · by_cases self : number = event.number
    · subst self
      rw [World.put_tasks_self] at present
      cases present
      cases advance with
      | pending pending => exact .pending pending
      | told | wrote => exact .answered
    · rw [World.put_tasks_other _ _ _ _ self] at present
      rw [last_read_other (Ne.symm self)]
      exact afoot.standing number task present
  · have different : number ≠ event.number := by
      rintro rfl
      rw [World.put_tasks_self] at absent
      cases absent
    rw [World.put_tasks_other _ _ _ _ different] at absent
    rw [last_read_other different.symm]
    exact afoot.unread number absent

theorem idle_afoot (requests : Nat → Process Product) (start : Memory) : Afoot requests start [] (.idle start) where
  memory := rfl
  standing _ _ present := by cases present
  unread _ _ := rfl

theorem run_afoot (edits : ∀ number, Edits (requests number)) (run : Interleaving requests start events world) :
    Afoot requests start events world := by
  induction run with
  | start => exact idle_afoot requests start
  | step _ last whole ih => exact advanced_afoot ih (step_advances edits ih last whole)

end Steps

section Answers

variable {requests : Nat → Process Product} {start memory : Memory} {events : List Event} {event : Event}
  {order : List (Nat × Except String Product)} {number : Nat} {world after : World} {process : Process Product}
  {product : Product}

theorem put_answer (world : World) (number : Nat) (process : Process Product) :
    (world.put number ⟨.request, .active process⟩).answer? number = Stage.outcome? (.active process) := by
  rw [World.answer?, World.put_tasks_self]
  rfl

theorem put_answer_other {other : Nat} (task : Task) (apart : other ≠ number) :
    (world.put number task).answer? other = world.answer? other := by
  rw [World.answer?, World.answer?, World.put_tasks_other _ _ _ _ apart]

-- A step of a request that is not in the order leaves those that are where they are.
theorem still_timed (timed : InTime events order) (unlisted : ∀ answer, (event.number, answer) ∉ order) :
    InTime (event :: events) order := by
  refine List.Pairwise.imp_of_mem ?_ timed
  rintro ⟨one, answer⟩ ⟨other, answer'⟩ listed - apart precedes
  refine apart (precedes_later ?_ precedes)
  rintro rfl
  exact unlisted answer listed

theorem pending_linear (linear : Linearization requests start events world order)
    (unanswered : world.answer? event.number = none) (outcome : Stage.outcome? (.active process) = none) :
    Linearization requests start (event :: events) (world.put event.number ⟨.request, .active process⟩) order where
  once := linear.once
  serial := linear.serial
  timed := still_timed linear.timed fun answer listed => by cases unanswered.symm.trans ((linear.answers _ _).mp listed)
  answers number answer := by
    by_cases self : number = event.number
    · rw [self, put_answer, outcome, linear.answers, unanswered]
    · rw [put_answer_other _ self, linear.answers]

theorem answered_linear (linear : Linearization requests start events world order)
    (unanswered : world.answer? event.number = none)
    (serves : Serves (requests event.number) world.memory (.ok product) memory) :
    Linearization requests start (event :: events)
      (World.put { world with memory } event.number ⟨.request, .active (.done product)⟩)
      (order ++ [(event.number, .ok product)]) := by
  have unlisted (answer : Except String Product) : (event.number, answer) ∉ order := fun listed => by
    cases unanswered.symm.trans ((linear.answers _ _).mp listed)
  constructor
  case once =>
    rw [List.map_append]
    refine List.nodup_append.mpr ⟨linear.once, List.nodup_singleton _, ?_⟩
    rintro _ among _ alone rfl
    obtain ⟨⟨other, answer⟩, listed, rfl⟩ := List.mem_map.mp among
    obtain rfl : other = event.number := List.mem_singleton.mp alone
    exact unlisted answer listed
  case answers =>
    intro number answer
    by_cases self : number = event.number
    · subst self
      rw [put_answer, List.mem_append, List.mem_singleton]
      simp [unlisted, Stage.outcome?, eq_comm]
    · rw [put_answer_other _ self]
      exact Iff.trans (by simp [self]) (linear.answers number answer)
  case serial => exact serial_append.mpr ⟨world.memory, linear.serial, memory, serves, rfl⟩
  case timed =>
    refine List.pairwise_append.mpr ⟨still_timed linear.timed unlisted, List.pairwise_singleton _ _, ?_⟩
    rintro ⟨one, answer⟩ listed _ alone
    cases List.mem_singleton.mp alone
    refine own_step_last rfl ?_
    rintro rfl
    exact unlisted answer listed

theorem advanced_linear (afoot : Afoot requests start events world)
    (linear : Linearization requests start events world order) (timely : Timely start (event :: events))
    (advanced : Advanced requests start events world event after) :
    ∃ longer, Linearization requests start (event :: events) after longer := by
  obtain ⟨unanswered, wrote, advance⟩ := advanced
  cases advance with
  | pending pending => exact ⟨order, pending_linear linear unanswered (pending_unanswered pending)⟩
  | told serves => exact ⟨_, answered_linear linear unanswered serves⟩
  | @wrote key place value found product writes read serves =>
      have among : .called event.number .request (.put key value) (.ok ()) :: events <:+ event :: events :=
        writes ▸ List.suffix_refl _
      have holds := timely _ _ key value _ events place found among read
      rw [afoot.memory] at holds
      exact ⟨_, answered_linear linear unanswered (serves world.memory holds)⟩

theorem idle_linear (requests : Nat → Process Product) (start : Memory) :
    Linearization requests start [] (.idle start) [] where
  once := List.nodup_nil
  answers _ _ := ⟨fun listed => (by cases listed), fun told => (by cases told)⟩
  serial := rfl
  timed := .nil

theorem linearizes (edits : ∀ number, Edits (requests number)) (run : Interleaving requests start events world)
    (timely : Timely start events) : ∃ order, Linearization requests start events world order := by
  induction run with
  | start => exact ⟨[], idle_linear requests start⟩
  | step earlier last whole ih =>
      obtain ⟨order, linear⟩ := ih (timely_earlier timely)
      have afoot := run_afoot edits earlier
      exact advanced_linear afoot linear timely (step_advances edits afoot last whole)

-- What a request has read was in the store when it read it.
theorem last_read_found {key : String} {found : Option Bytes} (edits : ∀ number, Edits (requests number))
    (run : Interleaving requests start events world) (read : lastRead number events = some (key, found)) :
    ∃ later event earlier, events = later ++ event :: earlier ∧ event.number = number ∧
      (written start earlier).get? key = found := by
  induction run with
  | start => cases read
  | @step events world after event earlier last whole ih =>
      by_cases reads : ∃ role, event = .called number role (.get key) (.ok found)
      · obtain ⟨role, rfl⟩ := reads
        cases last with
        | call present allowed =>
            cases allowed with
            | answered =>
                refine ⟨[], _, events, rfl, rfl, ?_⟩
                rw [(run_afoot edits earlier).memory]
                rfl
      · have before : lastRead number events = some (key, found) := by
          cases event with
          | called caller role call outcome =>
              cases call with
              | get place =>
                  cases outcome with
                  | ok seen =>
                      by_cases own : caller = number
                      · rw [lastRead, if_pos own] at read
                        cases read
                        exact absurd ⟨role, own ▸ rfl⟩ reads
                      · rwa [lastRead, if_neg own] at read
                  | _ => exact read
              | _ => exact read
          | _ => exact read
        obtain ⟨later, step, earlier, split, facts⟩ := ih before
        exact ⟨event :: later, step, earlier, congrArg (List.cons event) split, facts⟩

theorem found_later {request : Process Product} {answer : Except String Product}
    (before : AsFound request number start events answer) : AsFound request number start (event :: events) answer := by
  obtain ⟨later, step, earlier, left, rfl, own, serves, wrote⟩ := before
  refine ⟨event :: later, step, earlier, left, rfl, own, serves, wrote.imp_right ?_⟩
  rintro ⟨key, value, same, among⟩
  exact ⟨key, value, same, List.mem_cons_of_mem _ among⟩

-- An answer is of the store at the last step, or at the step that read; those given before stay as they are.
theorem answers_found (edits : ∀ number, Edits (requests number)) (run : Interleaving requests start events world) :
    ∀ number answer, world.answer? number = some answer → AsFound (requests number) number start events answer := by
  induction run with
  | start => exact fun _ _ told => by cases told
  | @step events world after event earlier last whole ih =>
      intro number answer told
      have afoot := run_afoot edits earlier
      obtain ⟨unanswered, wrote, advance⟩ := step_advances edits afoot last whole
      by_cases self : number = event.number
      · subst self
        rw [put_answer] at told
        cases advance with
        | pending pending => cases told.symm.trans (pending_unanswered pending)
        | told serves =>
            cases told
            rw [← afoot.memory] at serves
            exact ⟨[], event, events, _, rfl, rfl, serves, .inl wrote.symm⟩
        | wrote writes read serves =>
            cases told
            obtain ⟨later, step, before, rfl, own, holds⟩ := last_read_found edits earlier read
            refine ⟨event :: later, step, before, _, rfl, own, serves _ holds, .inr ⟨_, _, rfl, ?_⟩⟩
            exact writes ▸ List.mem_cons_self
      · rw [put_answer_other _ self] at told
        exact found_later (ih number answer told)

end Answers

section Runs

variable {requests : Nat → Process Product} {start : Memory} {events : List Event} {event : Event} {number : Nat}
  {world : World} {product : Product}

theorem timely_step (timely : Timely start events)
    (now : ∀ number role key value outcome read found, event = .called number role (.put key value) outcome →
      lastRead number events = some (read, found) → (written start events).get? read = found) :
    Timely start (event :: events) := by
  intro number role key value outcome earlier read found among known
  rcases List.suffix_cons_iff.mp among with same | before
  · obtain ⟨rfl, rfl⟩ := List.cons.inj same
    exact now number role key value outcome read found rfl known
  · exact timely number role key value outcome earlier read found before known

theorem unwritten_timely
    (unwritten : ∀ number role key value outcome, .called number role (.put key value) outcome ∉ events) :
    Timely start events := by
  intro number role key value outcome earlier _ _ among
  exact absurd (among.subset List.mem_cons_self) (unwritten number role key value outcome)

theorem begin_run (run : Interleaving requests start events world) (free : world.tasks number = none) :
    ∃ after, Interleaving requests start (.began number :: events) after ∧ after.memory = world.memory ∧
      after.tasks number = some ⟨.request, .active (requests number)⟩ ∧
        ∀ other, other ≠ number → after.tasks other = world.tasks other := by
  refine ⟨world.put number ⟨.request, .active (requests number)⟩, .step run (.begin free ?_) ?_, rfl,
    World.put_tasks_self _ _ _, fun other apart => World.put_tasks_other _ _ _ _ apart⟩
  · exact fun _ same => congrArg requests (Event.began.inj same)
  · exact fun _ same => by cases same

theorem call_run {call : Call} {guard : Option String} {next : Outcome call.Answer → Process Product}
    (run : Interleaving requests start events world)
    (present : world.tasks number = some ⟨.request, .active (.ask guard call next)⟩) :
    ∃ after, Interleaving requests start
        (.called number .request call (.ok (world.memory.perform call).1) :: events) after ∧
      after.memory = (world.memory.perform call).2 ∧
        after.tasks number = some ⟨.request, .active (next (.ok (world.memory.perform call).1))⟩ ∧
          ∀ other, other ≠ number → after.tasks other = world.tasks other :=
  ⟨_, .step run (.call present .answered) fun _ same => (by cases same), rfl, World.put_tasks_self _ _ _,
    fun _ apart => World.put_tasks_other _ _ _ _ apart⟩

-- Two requests that have both begun by reading the same.
theorem both_read {key : String} {found : Option Bytes} {one other : Nat}
    {first second : Outcome (Option Bytes) → Process Product} (holds : start.get? key = found) (apart : one ≠ other)
    (begins : requests one = .ask none (.get key) first) (follows : requests other = .ask none (.get key) second) :
    ∃ world, Interleaving requests start
        [.called other .request (.get key) (.ok found), .called one .request (.get key) (.ok found), .began other,
          .began one] world ∧
      world.memory = start ∧ world.tasks one = some ⟨.request, .active (first (.ok found))⟩ ∧
        world.tasks other = some ⟨.request, .active (second (.ok found))⟩ := by
  subst holds
  have idle : Interleaving requests start [] (.idle start) := .start
  obtain ⟨alone, run, empty, begun, free⟩ := begin_run idle (rfl : (World.idle start).tasks one = none)
  obtain ⟨both, run, same, began, kept⟩ := begin_run run (free other apart.symm)
  have before : both.memory = start := same.trans empty
  rw [begins] at begun
  rw [follows] at began
  obtain ⟨between, run, same, read, kept'⟩ := call_run run ((kept one apart).trans begun)
  have during : between.memory = start := same.trans before
  obtain ⟨after, run, same, read', kept''⟩ := call_run run ((kept' other apart.symm).trans began)
  rw [before] at run read
  rw [during] at run read'
  exact ⟨after, run, same.trans during, (kept'' one apart).trans read, read'⟩

-- The write with which a request ends.
theorem last_write {key : String} {value : Bytes} {next : Outcome Unit → Process Product}
    (run : Interleaving requests start events world)
    (present : world.tasks number = some ⟨.request, .active (.ask none (.put key value) next)⟩)
    (ends : next (.ok ()) = .done product) :
    ∃ after, Interleaving requests start (.called number .request (.put key value) (.ok ()) :: events) after ∧
      after.memory = world.memory.insert key value ∧ after.answer? number = some (.ok product) ∧
        ∀ other, other ≠ number → after.tasks other = world.tasks other := by
  obtain ⟨after, run, memory, done, others⟩ := call_run run present
  change after.tasks number = some ⟨.request, .active (next (.ok ()))⟩ at done
  refine ⟨after, run, memory, ?_, others⟩
  rw [World.answer?, done, ends]
  rfl

end Runs
end ConfigRegistry.Concurrent
