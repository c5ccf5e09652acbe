import ConfigRegistry.Proofs.Mirror

set_option autoImplicit false

/-!
What a machine does in its turns, the world does in some order of steps.
-/
namespace ConfigRegistry.Concurrent

open Store (Call Outcome)
open Work (Process)
open Session (Product Machine Mode)

section

variable {program : Process Product → Prop} {number : Nat} {machine : Machine} {world : World} {role : Role}

-- A store that forgets nothing answers as it should, or fails and has changed nothing.
theorem call_outcome_atomic (machine : Machine) {mode : Mode} (lasts : mode ≠ .absent) (call : Call) :
    Atomic machine.memory call (machine.callOutcome mode call).1 (machine.callOutcome mode call).2.memory ∧
      (machine.callOutcome mode call).2 = { machine with memory := (machine.callOutcome mode call).2.memory } := by
  cases mode with
  | normal => exact ⟨.answered, rfl⟩
  | hold => exact ⟨.answered, rfl⟩
  | fail => exact ⟨.failed _, rfl⟩
  | corrupt => exact ⟨.failed _, rfl⟩
  | panic => exact ⟨.panicked _, rfl⟩
  | absent => exact absurd rfl lasts

-- What the world does in some steps and the machine at once.
def Follows (program : Process Product → Prop) (world : World) (machine : Machine) : Prop :=
  ∃ events after, Run Atomic program world events after ∧ Mirrors none machine after

theorem follows_after {after : World} {event : Event} (step : Step Atomic program world event after)
    (follows : Follows program after machine) : Follows program world machine := by
  obtain ⟨events, last, run, mirrors⟩ := follows
  exact ⟨events ++ [event], last, run_append (.step .start step) run, mirrors⟩

-- The task that waits for another, and what it does once it has heard of it.
def waiter? (child : Nat) (outcome : Except String Product) (task : Session.Task) : Option (Nat × Process Product) :=
  match task.stage with
  | .settling other next => if other = child then some (task.number, next (verdictOf child outcome)) else none
  | _ => none

def goOn (machine : Machine) (parent : Nat × Process Product) : Machine :=
  { machine.setStage parent.1 (.ready parent.2) with queue := machine.queue ++ [parent.1] }

theorem finish_eq (machine : Machine) (number : Nat) (outcome : Except String Product) :
    machine.finish number outcome = List.foldl goOn (machine.setStage number (.ended outcome))
      ((machine.setStage number (.ended outcome)).tasks.filterMap (waiter? number outcome)) := by
  rcases outcome with _ | (_ | _ | _) <;> rfl

theorem waiter_settling {outcome : Except String Product} {task : Session.Task} {parent : Nat × Process Product}
    (waits : waiter? number outcome task = some parent) :
    parent.1 = task.number ∧
      ∃ next, task.stage = .settling number next ∧ parent.2 = next (verdictOf number outcome) := by
  cases stage : task.stage with
  | settling other next =>
      simp only [waiter?, stage] at waits
      split at waits
      case isTrue same =>
        cases waits
        exact ⟨rfl, next, by rw [same], rfl⟩
      case isFalse => cases waits
  | ready _ | released _ | held _ | waiting _ | ended _ => simp [waiter?, stage] at waits

-- Every task that waits for the one that has ended goes on, one after the other.
theorem waiting_follow {ended : Task} {outcome : Except String Product} (mirrors : Mirrors none machine world)
    (closed : world.tasks number = some ended) (ending : ended.stage.outcome? = some outcome)
    (waiting : List (Nat × Process Product)) (apart : waiting.Pairwise fun first second => first.1 ≠ second.1)
    (settling : ∀ parent ∈ waiting, ∃ role next,
      world.tasks parent.1 = some ⟨role, .settling number next⟩ ∧ parent.2 = next (verdictOf number outcome)) :
    Follows program world (waiting.foldl goOn machine) := by
  induction waiting generalizing machine world with
  | nil => exact ⟨[], world, .start, mirrors⟩
  | cons parent waiting ih =>
      obtain ⟨role, next, present, goes⟩ := settling parent List.mem_cons_self
      obtain ⟨first, rest⟩ := List.pairwise_cons.mp apart
      have different : number ≠ parent.1 := by
        intro same
        rw [← same, closed, Option.some.injEq] at present
        simp [present, Stage.outcome?] at ending
      refine follows_after (.resume present closed ending) (ih ?_ ?_ rest ?_)
      · have moved := mirrors_advance (mirrors_driven mirrors parent.1) present
          ⟨role, .active (next (verdictOf number outcome))⟩
        rw [← goes] at moved ⊢
        exact { mirrors_stage (.ready parent.2) moved (World.put_tasks_self _ _ _) with }
      · rw [World.put_tasks_other _ _ _ _ different]
        exact closed
      · intro other member
        obtain ⟨role, next, present, goes⟩ := settling other (List.mem_cons_of_mem _ member)
        refine ⟨role, next, ?_, goes⟩
        rw [World.put_tasks_other _ _ _ _ (first other member).symm]
        exact present

theorem finish_follows {outcome : Except String Product} (mirrors : Mirrors (some number) machine world)
    (present : world.tasks number = some ⟨role, imageOf (.ended outcome)⟩) :
    Follows program world (machine.finish number outcome) := by
  have ended := mirrors_stage (.ended outcome) mirrors present
  have ending : (imageOf (.ended outcome)).outcome? = some outcome := by cases outcome <;> rfl
  rw [finish_eq]
  refine waiting_follow ended present ending _ ?_ ?_
  · refine List.pairwise_filterMap.mpr (ended.apart.imp fun {first second} different => ?_)
    intro parent waits other awaits
    rw [(waiter_settling waits).1, (waiter_settling awaits).1]
    exact different
  · intro parent member
    obtain ⟨task, among, waits⟩ := List.mem_filterMap.mp member
    obtain ⟨same, next, stage, goes⟩ := waiter_settling waits
    obtain ⟨role, present⟩ := ended.tasks task among (by simp)
    rw [stage] at present
    exact ⟨role, next, same ▸ present, goes⟩

theorem ask_follows {guard : Option String} {call : Call} {next : Outcome call.Answer → Process Product} {mode : Mode}
    {letOn : Bool} (mirrors : Mirrors (some number) machine world) (lasts : mode ≠ .absent)
    (present : world.tasks number = some ⟨role, .active (.ask guard call next)⟩)
    (driven : ∀ outcome {machine : Machine} {world : World}, Mirrors (some number) machine world →
      world.tasks number = some ⟨role, .active (next outcome)⟩ →
      Follows program world (Machine.drive number letOn (next outcome) machine)) :
    Follows program world (Machine.drive number letOn (next (machine.callOutcome mode call).1)
      (machine.callOutcome mode call).2) := by
  obtain ⟨atomic, only⟩ := call_outcome_atomic machine lasts call
  rw [← mirrors.memory] at atomic
  refine follows_after (.call present atomic) (driven _ ?_ (World.put_tasks_self _ _ _))
  rw [only]
  exact mirrors_put mirrors present _ _

theorem drive_follows (process : Process Product) (letOn : Bool) (mirrors : Mirrors (some number) machine world)
    (present : world.tasks number = some ⟨role, .active process⟩) :
    Follows program world (Machine.drive number letOn process machine) := by
  induction process generalizing machine world with
  | done product => exact finish_follows mirrors present
  | crash message => exact finish_follows mirrors present
  | ask guard call next ih =>
      have logged : Mirrors (some number) { machine with log := call.line :: machine.log } world := { mirrors with }
      obtain ⟨met, lasts⟩ := mirrors_meet logged call.operation
      rw [Machine.drive]
      dsimp only
      split
      · exact ⟨[], world, .start, mirrors_stage (.held (.ask guard call next)) met present⟩
      · exact ask_follows met lasts present fun outcome _ _ mirrors present => ih outcome mirrors present
  | wait guard next ih =>
      rw [Machine.drive]
      split
      · exact follows_after (.wait present) (ih (mirrors_advance mirrors present _) (World.put_tasks_self _ _ _))
      · exact ⟨[], world, .start, mirrors_stage (.waiting (.wait guard next)) mirrors present⟩
  | fresh next ih =>
      refine follows_after (.fresh (Session.idText (machine.idCount + 1)) present)
        (ih _ { mirrors_advance mirrors present _ with } (World.put_tasks_self _ _ _))
  | started next ih =>
      exact follows_after (.start present)
        (ih { mirrors_advance mirrors present _ with } (World.put_tasks_self _ _ _))
  | settle settlement next _ =>
      have bound := present_below mirrors present
      have free := mirrors.free (machine.taskCount + 1) (Nat.lt_succ_self _)
      refine follows_after (.settle present free) ⟨[], _, .start, ?_⟩
      have handed := mirrors_spawn (mirrors_advance mirrors present ⟨role, .settling (machine.taskCount + 1) next⟩)
        (.settlement (role.origin number)) (settlementProcess settlement)
      have still : ((world.put number ⟨role, .settling (machine.taskCount + 1) next⟩).put (machine.taskCount + 1)
          ⟨.settlement (role.origin number), .active (settlementProcess settlement)⟩).tasks number =
          some ⟨role, imageOf (.settling (machine.taskCount + 1) next)⟩ := by
        rw [World.put_tasks_other _ _ _ _ (by omega), World.put_tasks_self]
        rfl
      exact mirrors_stage _ handed still
  | abandon key next ih =>
      have bound := present_below mirrors present
      have free := mirrors.free (machine.taskCount + 1) (Nat.lt_succ_self _)
      refine follows_after (.abandon present free) (ih (mirrors_spawn (mirrors_advance mirrors present _) _ _) ?_)
      rw [World.put_tasks_other _ _ _ _ (by omega), World.put_tasks_self]

-- The released ask differs from a ready one only in that no fault is looked at.
theorem turn_follows {task : Session.Task} (mirrors : Mirrors none machine world) (member : task ∈ machine.tasks) :
    Follows program world (machine.turn task) := by
  obtain ⟨role, present⟩ := mirrors.tasks task member (by simp)
  have driven := mirrors_driven mirrors task.number
  cases stage : task.stage with
  | ready process =>
      rw [stage] at present
      simp only [Machine.turn, stage]
      exact drive_follows process task.letOn driven present
  | released process =>
      rw [stage] at present
      cases process with
      | ask guard call next =>
          simp only [Machine.turn, stage]
          have lasts : Mode.normal ≠ .absent := by simp
          exact ask_follows driven lasts present fun outcome _ _ mirrors present =>
            drive_follows (next outcome) task.letOn mirrors present
      | done _ | crash _ | wait _ _ | fresh _ | started _ | settle _ _ | abandon _ _ =>
          simp only [Machine.turn, stage]
          exact drive_follows _ task.letOn driven present
  | held _ | waiting _ | settling _ _ | ended _ =>
      simp only [Machine.turn, stage]
      exact ⟨[], world, .start, mirrors⟩

theorem follows_then {next : Machine} (follows : Follows program world machine)
    (goes : ∀ after, Mirrors none machine after → Follows program after next) : Follows program world next := by
  obtain ⟨events, after, run, mirrors⟩ := follows
  obtain ⟨later, last, rest, mirrored⟩ := goes after mirrors
  exact ⟨later ++ events, last, run_append run rest, mirrored⟩

theorem run_for_follows (turns : Nat) (mirrors : Mirrors none machine world) :
    Follows program world (machine.runFor turns) := by
  induction turns generalizing machine world with
  | zero => exact ⟨[], world, .start, mirrors⟩
  | succ turns ih =>
      rw [Machine.runFor]
      cases queued : machine.queue with
      | nil => exact ⟨[], world, .start, mirrors⟩
      | cons number queue =>
          have rest : Mirrors none { machine with queue } world := { mirrors with }
          dsimp only
          cases found : Machine.task? { machine with queue } number with
          | none => exact ih rest
          | some task => exact follows_then (turn_follows rest (List.mem_of_find?_eq_some found)) fun _ => ih

end
end ConfigRegistry.Concurrent
