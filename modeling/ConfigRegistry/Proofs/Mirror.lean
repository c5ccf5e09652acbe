import ConfigRegistry.Proofs.World

set_option autoImplicit false

/-!
When a session's machine is where the world is, and what keeps it there.
-/
namespace ConfigRegistry.Concurrent

open Store (Operation Memory)
open Work (Process)
open Session (Product Machine)

-- The machine tells stages apart by what they wait for; the world does not.
def imageOf : Session.Stage → Stage
  | .ready process | .released process | .held process | .waiting process => .active process
  | .settling child next => .settling child next
  | .ended (.ok product) => .active (.done product)
  | .ended (.error message) => .active (.crash message)

-- The world may hold tasks that the machine has forgotten. A task in the midst of its turn is not compared.
structure Mirrors (driven : Option Nat) (machine : Machine) (world : World) : Prop where
  memory : world.memory = machine.memory
  tasks : ∀ task ∈ machine.tasks, driven ≠ some task.number →
    ∃ role, world.tasks task.number = some ⟨role, imageOf task.stage⟩
  apart : machine.tasks.Pairwise fun first second => first.number ≠ second.number
  below : ∀ task ∈ machine.tasks, task.number ≤ machine.taskCount
  free : ∀ number, machine.taskCount < number → world.tasks number = none
  lasting : ∀ fault ∈ machine.faults, fault.mode ≠ .absent

section

variable {driven : Option Nat} {number : Nat} {machine : Machine} {world : World}
  {role : Role}

theorem World.put_put (world : World) (number : Nat) (first second : Task) :
    (world.put number first).put number second = world.put number second := by
  refine congrArg (World.mk world.memory) (funext fun other => ?_)
  by_cases same : other = number
  · rw [if_pos same, if_pos same]
  · rw [if_neg same, if_neg same]
    exact World.put_tasks_other _ _ _ _ same

theorem present_below {task : Task} (mirrors : Mirrors driven machine world)
    (present : world.tasks number = some task) : number ≤ machine.taskCount := by
  refine Nat.le_of_not_lt fun above => ?_
  cases (mirrors.free number above).symm.trans present

theorem mirrors_driven (mirrors : Mirrors none machine world) (number : Nat) : Mirrors (some number) machine world :=
  { mirrors with tasks := fun task member _ => mirrors.tasks task member (by simp) }

theorem mirrors_put {before : Task} (mirrors : Mirrors (some number) machine world)
    (present : world.tasks number = some before) (memory : Memory) (task : Task) :
    Mirrors (some number) { machine with memory } (World.put { world with memory } number task) where
  memory := rfl
  tasks other member different := by
    have apart : other.number ≠ number := fun same => different (by rw [same])
    rw [World.put_tasks_other _ _ _ _ apart]
    exact mirrors.tasks other member different
  apart := mirrors.apart
  below := mirrors.below
  free other above := by
    have bound := present_below mirrors present
    rw [World.put_tasks_other _ _ _ _ (by dsimp only at above; omega)]
    exact mirrors.free other above
  lasting := mirrors.lasting

theorem mirrors_advance {before : Task} (mirrors : Mirrors (some number) machine world)
    (present : world.tasks number = some before) (task : Task) :
    Mirrors (some number) machine (world.put number task) := by
  have moved := mirrors_put mirrors present machine.memory task
  rw [← mirrors.memory] at moved
  exact { moved with memory := mirrors.memory }

theorem mirrors_stage (stage : Session.Stage) (mirrors : Mirrors (some number) machine world)
    (present : world.tasks number = some ⟨role, imageOf stage⟩) :
    Mirrors none (machine.setStage number stage) world where
  memory := mirrors.memory
  tasks task member _ := by
    obtain ⟨before, among, rfl⟩ := List.mem_map.mp member
    by_cases same : before.number = number
    · rw [if_pos same]
      exact ⟨role, by rw [same, present]⟩
    · rw [if_neg same]
      exact mirrors.tasks before among (by simpa using Ne.symm same)
  apart := by
    refine List.pairwise_map.mpr (mirrors.apart.imp fun {first second} different => ?_)
    split <;> split <;> exact different
  below task member := by
    obtain ⟨before, among, rfl⟩ := List.mem_map.mp member
    split <;> exact mirrors.below before among
  free := mirrors.free
  lasting := mirrors.lasting

theorem mirrors_spawn (mirrors : Mirrors driven machine world) (role : Role) (process : Process Product) :
    Mirrors driven (machine.spawn process).2 (world.put (machine.taskCount + 1) ⟨role, .active process⟩) where
  memory := mirrors.memory
  tasks task member different := by
    rcases List.mem_append.mp member with old | new
    · have bound := mirrors.below task old
      rw [World.put_tasks_other _ _ _ _ (by omega)]
      exact mirrors.tasks task old different
    · cases List.mem_singleton.mp new
      exact ⟨role, World.put_tasks_self _ _ _⟩
  apart := by
    refine List.pairwise_append.mpr ⟨mirrors.apart, List.pairwise_singleton _ _, fun first old second new => ?_⟩
    have bound := mirrors.below first old
    cases List.mem_singleton.mp new
    dsimp only
    omega
  below task member := by
    rcases List.mem_append.mp member with old | new
    · exact Nat.le_succ_of_le (mirrors.below task old)
    · cases List.mem_singleton.mp new
      exact Nat.le_refl _
  free other above := by
    change machine.taskCount + 1 < other at above
    rw [World.put_tasks_other _ _ _ _ (by omega)]
    exact mirrors.free other (by omega)
  lasting := mirrors.lasting

theorem mirrors_meet (mirrors : Mirrors driven machine world) (operation : Operation) :
    Mirrors driven (machine.meet operation).2 world ∧ (machine.meet operation).1 ≠ .absent := by
  rw [Machine.meet]
  cases found : machine.faults.find? fun fault => fault.operation == operation with
  | none => exact ⟨mirrors, by simp⟩
  | some fault =>
      have lasts := mirrors.lasting fault (List.mem_of_find?_eq_some found)
      dsimp only
      split
      · refine ⟨{ mirrors with lasting := fun other member => ?_ }, lasts⟩
        exact mirrors.lasting other (List.mem_filter.mp member).1
      · exact ⟨mirrors, lasts⟩

theorem mirrors_map (mirrors : Mirrors none machine world) (change : Session.Task → Session.Task) (queue : List Nat)
    (same : ∀ task, (change task).number = task.number)
    (alike : ∀ task ∈ machine.tasks, imageOf (change task).stage = imageOf task.stage) :
    Mirrors none { machine with tasks := machine.tasks.map change, queue } world where
  memory := mirrors.memory
  tasks task member _ := by
    obtain ⟨before, among, rfl⟩ := List.mem_map.mp member
    rw [same, alike before among]
    exact mirrors.tasks before among (by simp)
  apart := by
    refine List.pairwise_map.mpr (mirrors.apart.imp fun {first second} different => ?_)
    rw [same, same]
    exact different
  below task member := by
    obtain ⟨before, among, rfl⟩ := List.mem_map.mp member
    rw [same]
    exact mirrors.below before among
  free := mirrors.free
  lasting := mirrors.lasting

theorem mirrors_filter (mirrors : Mirrors none machine world) (kept : Session.Task → Bool) :
    Mirrors none { machine with tasks := machine.tasks.filter kept } world where
  memory := mirrors.memory
  tasks task member := mirrors.tasks task (List.mem_filter.mp member).1
  apart := mirrors.apart.sublist List.filter_sublist
  below task member := mirrors.below task (List.mem_filter.mp member).1
  free := mirrors.free
  lasting := mirrors.lasting

theorem mirrors_absent (mirrors : Mirrors (some number) machine world)
    (absent : ∀ task ∈ machine.tasks, number ≠ task.number) : Mirrors none machine world :=
  { mirrors with tasks := fun task member _ => mirrors.tasks task member (by simpa using absent task member) }

end
end ConfigRegistry.Concurrent
