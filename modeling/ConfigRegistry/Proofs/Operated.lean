import ConfigRegistry.Proofs.SoleOwner
import ConfigRegistry.Proofs.Turns

set_option autoImplicit false

/-!
Main statement: whatever is done with a session's machine, as long as its store forgets nothing, is one order of
steps among those of the world. So what holds in every order holds of the machine.
-/
namespace ConfigRegistry.Concurrent

open Store (Memory)
open Work (Process)
open Session (Product Machine Fault)

section

variable {program : Process Product → Prop} {number : Nat} {machine : Machine} {world : World}

theorem mirrors_unhold (mirrors : Mirrors none machine world) : Mirrors none machine.unhold world := by
  refine mirrors_map mirrors _ _ (fun task => ?_) fun task _ => ?_
  · cases stage : task.stage <;> rfl
  · cases stage : task.stage <;> simp [stage, imageOf]

theorem let_go_mirrors (mirrors : Mirrors none machine world) (number : Nat) :
    Mirrors none (machine.letGo number) world := by
  rw [Machine.letGo]
  cases found : machine.task? number with
  | none => exact mirrors
  | some task =>
      have same : task.number = number := by simpa using List.find?_some found
      obtain ⟨role, present⟩ := mirrors.tasks task (List.mem_of_find?_eq_some found) (by simp)
      refine mirrors_map mirrors _ _ (fun other => ?_) fun other member => ?_
      · split <;> rfl
      · split
        case isFalse => rfl
        case isTrue alike =>
          obtain ⟨role', present'⟩ := mirrors.tasks other member (by simp)
          rw [alike, ← same, present, Option.some.injEq, Task.mk.injEq] at present'
          rw [← present'.2]
          cases task.stage <;> rfl

-- The key whose record a stage leaves behind when its task is cancelled.
def guardOf : Session.Stage → Option String
  | .held process | .waiting process | .ready process | .released process => process.guard?
  | _ => none

theorem cancel_eq {task : Session.Task} (found : machine.task? number = some task) :
    machine.cancel number =
      let removed := { machine with tasks := machine.tasks.filter fun other => other.number != number }
      match guardOf task.stage with
      | some key => removed.spawnCleanup key
      | none => removed := by
  rw [Machine.cancel, found]
  rfl

theorem guard_dropped (stage : Session.Stage) :
    (imageOf stage).dropped? = some (dropped (guardOf stage)) ∨
      (imageOf stage).dropped? = none ∧ guardOf stage = none := by
  cases stage with
  | ready process | released process | held process | waiting process =>
      cases process with
      | ask guard _ _ => exact .inl rfl
      | wait guard _ => exact .inl rfl
      | done _ | crash _ | fresh _ | started _ | settle _ _ | abandon _ _ => exact .inr ⟨rfl, rfl⟩
  | settling child next => exact .inl rfl
  | ended outcome => cases outcome <;> exact .inr ⟨rfl, rfl⟩

theorem cancel_follows {stage : Stage} (mirrors : Mirrors none machine world)
    (asked : world.tasks number = some ⟨.request, stage⟩) : Follows program world (machine.cancel number) := by
  cases found : machine.task? number with
  | none =>
      rw [Machine.cancel, found]
      exact ⟨[], world, .start, mirrors⟩
  | some task =>
      have same : task.number = number := by simpa using List.find?_some found
      obtain ⟨role, present⟩ := mirrors.tasks task (List.mem_of_find?_eq_some found) (by simp)
      rw [same, asked, Option.some.injEq, Task.mk.injEq] at present
      obtain ⟨-, rfl⟩ := present
      have removed := mirrors_filter mirrors fun other => other.number != number
      have apart : ∀ other ∈ machine.tasks.filter fun other => other.number != number, number ≠ other.number :=
        fun other member => by simpa using Ne.symm (by simpa using (List.mem_filter.mp member).2)
      have moved (task : Task) := mirrors_absent (mirrors_advance (mirrors_driven removed number) asked task) apart
      rw [cancel_eq found]
      cases guarded : guardOf task.stage with
      | none =>
          rcases guard_dropped task.stage with left | ⟨-, -⟩
          · exact follows_after (.cancel asked left) ⟨[], _, .start, moved _⟩
          · exact ⟨[], world, .start, removed⟩
      | some key =>
          rcases guard_dropped task.stage with left | ⟨-, unguarded⟩
          · rw [guarded] at left
            have bound := present_below mirrors asked
            have free :
                (world.put number ⟨.request, .active (dropped (some key))⟩).tasks (machine.taskCount + 1) = none := by
              rw [World.put_tasks_other _ _ _ _ (by omega)]
              exact mirrors.free _ (Nat.lt_succ_self _)
            refine follows_after (.cancel asked left)
              (follows_after (.abandon (World.put_tasks_self _ _ _) free) ⟨[], _, .start, ?_⟩)
            rw [World.put_put]
            exact mirrors_spawn (moved _) _ (cleanupProcess key)
          · rw [guarded] at unguarded
            cases unguarded

-- What is done with a machine, and the tasks that were started from outside.
inductive Operated (program : Process Product → Prop) (memory : Memory) : List Nat → Machine → Prop where
  | start : Operated program memory [] { memory }
  | spawn {asked : List Nat} {machine : Machine} {process : Process Product}
      (earlier : Operated program memory asked machine) (admitted : program process) :
      Operated program memory ((machine.spawn process).1 :: asked) (machine.spawn process).2
  | run {asked : List Nat} {machine : Machine} (earlier : Operated program memory asked machine) :
      Operated program memory asked machine.run
  | unhold {asked : List Nat} {machine : Machine} (earlier : Operated program memory asked machine) :
      Operated program memory asked machine.unhold
  | letGo {asked : List Nat} {machine : Machine} (number : Nat) (earlier : Operated program memory asked machine) :
      Operated program memory asked (machine.letGo number)
  | cancel {asked : List Nat} {machine : Machine} {number : Nat} (earlier : Operated program memory asked machine)
      (among : number ∈ asked) : Operated program memory asked (machine.cancel number)
  | tidy {asked : List Nat} {machine : Machine} (kept : List Nat) (earlier : Operated program memory asked machine) :
      Operated program memory asked (machine.tidy kept)
  | misbehave {asked : List Nat} {machine : Machine} (faults : List Fault)
      (lasting : ∀ fault ∈ faults, fault.mode ≠ .absent) (earlier : Operated program memory asked machine) :
      Operated program memory asked { machine with faults }

theorem run_keeps_role {conduct : Conduct} {start : World} {events : List Event} {task : Task}
    (run : Run conduct program start events world) (found : start.tasks number = some task) :
    ∃ stage, world.tasks number = some ⟨task.role, stage⟩ := by
  induction run with
  | start => exact ⟨task.stage, found⟩
  | step _ last ih =>
      obtain ⟨stage, present⟩ := ih
      have kept := step_keeps_role last present
      exact kept

-- Some order of steps that begins exactly the tasks started from outside leads to where the machine is.
def Scheduled (program : Process Product → Prop) (memory : Memory) (asked : List Nat) (machine : Machine) : Prop :=
  ∃ events world, Run Atomic program (World.idle memory) events world ∧ Mirrors none machine world ∧
    ∀ number ∈ asked, ∃ stage, world.tasks number = some ⟨.request, stage⟩

theorem scheduled_then {memory : Memory} {asked : List Nat} {next : Machine}
    (scheduled : Scheduled program memory asked machine)
    (goes : ∀ world, Mirrors none machine world →
      (∀ number ∈ asked, ∃ stage, world.tasks number = some ⟨.request, stage⟩) → Follows program world next) :
    Scheduled program memory asked next := by
  obtain ⟨events, world, run, mirrors, requests⟩ := scheduled
  obtain ⟨later, after, rest, mirrored⟩ := goes world mirrors requests
  refine ⟨later ++ events, after, run_append run rest, mirrored, fun number among => ?_⟩
  obtain ⟨stage, present⟩ := requests number among
  exact run_keeps_role rest present

theorem spawn_scheduled {memory : Memory} {asked : List Nat} {process : Process Product}
    (scheduled : Scheduled program memory asked machine) (admitted : program process) :
    Scheduled program memory ((machine.spawn process).1 :: asked) (machine.spawn process).2 := by
  obtain ⟨events, world, run, mirrors, requests⟩ := scheduled
  have free := mirrors.free (machine.taskCount + 1) (Nat.lt_succ_self _)
  have begun : Step Atomic program world _ _ := .begin free admitted
  refine ⟨_, _, .step run begun, mirrors_spawn mirrors .request process, fun number among => ?_⟩
  rcases List.mem_cons.mp among with rfl | earlier
  · exact ⟨_, World.put_tasks_self _ _ _⟩
  · obtain ⟨stage, present⟩ := requests number earlier
    exact step_keeps_role begun present

theorem operated_scheduled {memory : Memory} {asked : List Nat} (operated : Operated program memory asked machine) :
    Scheduled program memory asked machine := by
  induction operated with
  | start => exact ⟨[], _, .start, ⟨rfl, by simp, by simp, by simp, fun _ _ => rfl, by simp⟩, by simp⟩
  | spawn _ admitted ih => exact spawn_scheduled ih admitted
  | run _ ih => exact scheduled_then ih fun _ mirrors _ => run_for_follows _ mirrors
  | unhold _ ih => exact scheduled_then ih fun _ mirrors _ => ⟨[], _, .start, mirrors_unhold mirrors⟩
  | letGo number _ ih => exact scheduled_then ih fun _ mirrors _ => ⟨[], _, .start, let_go_mirrors mirrors number⟩
  | @cancel _ _ number _ among ih =>
      refine scheduled_then ih fun _ mirrors requests => ?_
      obtain ⟨stage, present⟩ := requests number among
      exact cancel_follows mirrors present
  | tidy kept _ ih => exact scheduled_then ih fun _ mirrors _ => ⟨[], _, .start, mirrors_filter mirrors _⟩
  | misbehave faults lasting _ ih =>
      exact scheduled_then ih fun _ mirrors _ => ⟨[], _, .start, { mirrors with lasting }⟩

-- A handler runs in a task of the machine, at its turn or where it is held up.
def Handling (key : String) (task : Session.Task) : Prop :=
  ∃ (α : Type) (answerOf : α → Dedup.Answer) (handler : Work.Job (Except ServiceFailure α))
    (rest : Except ServiceFailure α → Process Product),
    imageOf task.stage = .active ((Dedup.Ownership.handle key answerOf handler).bind rest)

theorem operated_handlers {scope key : String} {memory : Memory} {asked : List Nat} {first second : Session.Task}
    (operated : Operated (Customer scope) memory asked machine)
    (left : first ∈ machine.tasks ∧ first.number ∈ asked ∧ Handling key first)
    (right : second ∈ machine.tasks ∧ second.number ∈ asked ∧ Handling key second) :
    first.number = second.number ∧ machine.memory.get? key = some placeholder := by
  obtain ⟨events, world, run, mirrors, requests⟩ := operated_scheduled operated
  obtain ⟨held, orderly, exclusive⟩ := run_ledger customer_heeds (fun _ => rfl) run
  have owner (task : Session.Task) (holds : task ∈ machine.tasks ∧ task.number ∈ asked ∧ Handling key task) :
      held task.number = some key := by
    obtain ⟨member, among, α, answerOf, handler, rest, stage⟩ := holds
    obtain ⟨role, present⟩ := mirrors.tasks task member (by simp)
    obtain ⟨_, request⟩ := requests task.number among
    rw [request, Option.some.injEq, Task.mk.injEq] at present
    rw [present.2, stage] at request
    exact (owns_iff_held orderly task.number key).mp (handles_owns ⟨α, answerOf, handler, rest, request⟩)
  have marked := exclusive.marked first.number key (owner first left)
  exact ⟨exclusive.single _ _ key (owner first left) (owner second right), mirrors.memory ▸ marked.stored⟩

end
end ConfigRegistry.Concurrent
