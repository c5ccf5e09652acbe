import ConfigRegistry.Session.Machine

set_option autoImplicit false

/-!
Tasks that share one memory store and take their steps in any order. The tasks run the same processes as those of
a session's machine, but nothing settles whose turn it is.
-/
namespace ConfigRegistry.Concurrent

open Store (Call Outcome Memory)
open Work (Process Settlement)
open Session (Product)

-- What a store may do with a call: the outcome of the call, and the memory after it.
abbrev Conduct := Memory → (call : Call) → Outcome call.Answer → Memory → Prop

-- A call takes effect and answers, or it fails or panics and has changed nothing.
inductive Atomic (memory : Memory) (call : Call) : Outcome call.Answer → Memory → Prop where
  | answered : Atomic memory call (.ok (memory.perform call).1) (memory.perform call).2
  | failed (failure : StoreFailure) : Atomic memory call (.failed failure) memory
  | panicked (message : String) : Atomic memory call (.panicked message) memory

inductive Faultless (memory : Memory) (call : Call) : Outcome call.Answer → Memory → Prop where
  | answered : Faultless memory call (.ok (memory.perform call).1) (memory.perform call).2

-- Tasks that finish the work of a request carry its number.
inductive Role where
  | request
  | settlement (origin : Nat)
  | cleanup (origin : Nat) (key : String)
deriving DecidableEq, Repr

def Role.origin (number : Nat) : Role → Nat
  | .request => number
  | .settlement origin => origin
  | .cleanup origin _ => origin

inductive Stage where
  | active (process : Process Product)
  | settling (child : Nat) (next : Except StoreFailure Unit → Process Product)

structure Task where
  role : Role
  stage : Stage

structure World where
  memory : Memory
  tasks : Nat → Option Task

namespace World

def idle (memory : Memory) : World := ⟨memory, fun _ => none⟩

def put (world : World) (number : Nat) (task : Task) : World :=
  { world with tasks := fun other => if other = number then some task else world.tasks other }

@[simp] theorem put_memory (world : World) (number : Nat) (task : Task) :
    (world.put number task).memory = world.memory := rfl

@[simp] theorem put_tasks_self (world : World) (number : Nat) (task : Task) :
    (world.put number task).tasks number = some task := if_pos rfl

theorem put_tasks_other (world : World) (number other : Nat) (task : Task) (different : other ≠ number) :
    (world.put number task).tasks other = world.tasks other := if_neg different

end World

-- The process of a settlement, and that of the deletion which an abandoned ownership leaves behind.
def settlementProcess (settlement : Settlement) : Process Product := (Dedup.carryOut settlement).map .verdict

def cleanupProcess (key : String) : Process Product := (Process.cleanup key).map fun _ => .nothing

-- What a cancelled request still does: an owner abandons its record.
def dropped : Option String → Process Product
  | some key => .abandon key (.done .nothing)
  | none => .done .nothing

-- A request can be cancelled wherever it waits, and nowhere else.
def Stage.dropped? : Stage → Option (Process Product)
  | .active (.ask guard _ _) => some (dropped guard)
  | .active (.wait guard _) => some (dropped guard)
  | .settling _ _ => some (dropped none)
  | _ => none

def Stage.outcome? : Stage → Option (Except String Product)
  | .active (.done product) => some (.ok product)
  | .active (.crash message) => some (.error message)
  | _ => none

-- A call and its result, where the store does not panic.
structure Exchange where
  call : Call
  result : Except StoreFailure call.Answer

-- What a task hears of a call.
def outcomeOf {α : Type} : Except StoreFailure α → Outcome α
  | .ok answer => .ok answer
  | .error failure => .failed failure

-- What a task hears of the settlement that it waits for.
def verdictOf (child : Nat) : Except String Product → Except StoreFailure Unit
  | .ok (.verdict value) => value
  | .ok _ => .ok ()
  | .error message => .error (Dedup.settlementCrash child message)

inductive Event where
  | began (number : Nat)
  | called (number : Nat) (role : Role) (call : Call) (outcome : Outcome call.Answer)
  | moved (number : Nat)
  | started (number : Nat)
  | handed (number child : Nat) (settlement : Settlement)
  | deferred (number child : Nat) (key : String)
  | lost (number : Nat) (key : String)
  | resumed (number child : Nat)
  | cancelled (number : Nat)

-- One step of one task. An abandoned ownership is lost where no task can be started to delete its record.
inductive Step (conduct : Conduct) (program : Process Product → Prop) (world : World) : Event → World → Prop where
  | begin {number : Nat} {process : Process Product} (free : world.tasks number = none)
      (admitted : program process) :
      Step conduct program world (.began number) (world.put number ⟨.request, .active process⟩)
  | call {number : Nat} {role : Role} {guard : Option String} {call : Call}
      {next : Outcome call.Answer → Process Product} {outcome : Outcome call.Answer} {memory : Memory}
      (present : world.tasks number = some ⟨role, .active (.ask guard call next)⟩)
      (allowed : conduct world.memory call outcome memory) :
      Step conduct program world (.called number role call outcome)
        (World.put { world with memory } number ⟨role, .active (next outcome)⟩)
  | wait {number : Nat} {role : Role} {guard : Option String} {next : Process Product}
      (present : world.tasks number = some ⟨role, .active (.wait guard next)⟩) :
      Step conduct program world (.moved number) (world.put number ⟨role, .active next⟩)
  | fresh {number : Nat} {role : Role} {next : String → Process Product} (id : String)
      (present : world.tasks number = some ⟨role, .active (.fresh next)⟩) :
      Step conduct program world (.moved number) (world.put number ⟨role, .active (next id)⟩)
  | start {number : Nat} {role : Role} {next : Process Product}
      (present : world.tasks number = some ⟨role, .active (.started next)⟩) :
      Step conduct program world (.started number) (world.put number ⟨role, .active next⟩)
  | settle {number child : Nat} {role : Role} {settlement : Settlement}
      {next : Except StoreFailure Unit → Process Product}
      (present : world.tasks number = some ⟨role, .active (.settle settlement next)⟩)
      (free : world.tasks child = none) :
      Step conduct program world (.handed number child settlement)
        ((world.put number ⟨role, .settling child next⟩).put child
          ⟨.settlement (role.origin number), .active (settlementProcess settlement)⟩)
  | abandon {number child : Nat} {role : Role} {key : String} {next : Process Product}
      (present : world.tasks number = some ⟨role, .active (.abandon key next)⟩)
      (free : world.tasks child = none) :
      Step conduct program world (.deferred number child key)
        ((world.put number ⟨role, .active next⟩).put child
          ⟨.cleanup (role.origin number) key, .active (cleanupProcess key)⟩)
  | lose {number : Nat} {role : Role} {key : String} {next : Process Product}
      (present : world.tasks number = some ⟨role, .active (.abandon key next)⟩) :
      Step conduct program world (.lost number key) (world.put number ⟨role, .active next⟩)
  | resume {number child : Nat} {role : Role} {next : Except StoreFailure Unit → Process Product} {task : Task}
      {outcome : Except String Product}
      (present : world.tasks number = some ⟨role, .settling child next⟩)
      (ended : world.tasks child = some task) (ending : task.stage.outcome? = some outcome) :
      Step conduct program world (.resumed number child)
        (world.put number ⟨role, .active (next (verdictOf child outcome))⟩)
  | cancel {number : Nat} {stage : Stage} {process : Process Product}
      (present : world.tasks number = some ⟨.request, stage⟩) (left : stage.dropped? = some process) :
      Step conduct program world (.cancelled number) (world.put number ⟨.request, .active process⟩)

-- The events of a run, the last one first.
inductive Run (conduct : Conduct) (program : Process Product → Prop) (start : World) : List Event → World → Prop where
  | start : Run conduct program start [] start
  | step {events : List Event} {world after : World} {event : Event}
      (earlier : Run conduct program start events world) (last : Step conduct program world event after) :
      Run conduct program start (event :: events) after

section Runs

variable {conduct : Conduct} {program : Process Product → Prop} {start world after : World}
  {events later : List Event} {event : Event}

theorem run_append (first : Run conduct program start events world) (second : Run conduct program world later after) :
    Run conduct program start (later ++ events) after := by
  induction second with
  | start => exact first
  | step _ last ih => exact .step ih last

theorem faultless_atomic (memory : Memory) (call : Call) (outcome : Outcome call.Answer) (after : Memory)
    (allowed : Faultless memory call outcome after) : Atomic memory call outcome after := by
  cases allowed with
  | answered => exact .answered

theorem step_widen {wide : Conduct}
    (widens : ∀ memory call outcome after, conduct memory call outcome after → wide memory call outcome after)
    (step : Step conduct program world event after) : Step wide program world event after := by
  cases step with
  | begin free admitted => exact .begin free admitted
  | call present allowed => exact .call present (widens _ _ _ _ allowed)
  | wait present => exact .wait present
  | fresh id present => exact .fresh id present
  | start present => exact .start present
  | settle present free => exact .settle present free
  | abandon present free => exact .abandon present free
  | lose present => exact .lose present
  | resume present ended ending => exact .resume present ended ending
  | cancel present left => exact .cancel present left

theorem run_widen {wide : Conduct}
    (widens : ∀ memory call outcome after, conduct memory call outcome after → wide memory call outcome after)
    (run : Run conduct program start events world) : Run wide program start events world := by
  induction run with
  | start => exact .start
  | step _ last ih => exact .step ih (step_widen widens last)

end Runs
end ConfigRegistry.Concurrent
