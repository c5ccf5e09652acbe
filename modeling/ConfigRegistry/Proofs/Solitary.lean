import ConfigRegistry.Proofs.Turns
import ConfigRegistry.Session.Basic

set_option autoImplicit false

/-!
Processes that run alone over a store that never fails. Main statement: an idle machine that is given a process comes
to the end that the process has by itself, leaves the store as the process does, and is idle again.
-/
namespace ConfigRegistry.Solitary

open Store (Call Outcome Memory)
open Work (Job Process Settlement)
open Session (Machine Product idText)

-- What a process that runs alone works on: the store, the number of ids that were given, and the number of
-- settlements that were handed over.
structure Scene where
  memory : Memory
  ids : Nat
  handed : Nat := 0

def Scene.called (scene : Scene) (call : Call) : Scene := { scene with memory := (scene.memory.perform call).2 }

def Scene.named (scene : Scene) : Scene := { scene with ids := scene.ids + 1 }

def settled (memory : Memory) (settlement : Settlement) : Memory :=
  match settlement.value with
  | some value => memory.insert settlement.key value
  | none => memory.erase settlement.key

def Scene.settled (scene : Scene) (settlement : Settlement) : Scene :=
  { scene with memory := Solitary.settled scene.memory settlement, handed := scene.handed + 1 }

-- Nobody lets a job go on that waits, so it comes to no end.
def playJob {α : Type} : Job α → Scene → Option (Except String α × Scene)
  | .done value, scene => some (.ok value, scene)
  | .crash message, scene => some (.error message, scene)
  | .ask call next, scene => playJob (next (.ok (scene.memory.perform call).1)) (scene.called call)
  | .fresh next, scene => playJob (next (idText (scene.ids + 1))) scene.named
  | .started next, scene => playJob next scene
  | .wait _, _ => none

def play {ρ : Type} : Process ρ → Scene → Option (Except String ρ × Scene)
  | .done result, scene => some (.ok result, scene)
  | .crash message, scene => some (.error message, scene)
  | .ask _ call next, scene => play (next (.ok (scene.memory.perform call).1)) (scene.called call)
  | .wait _ _, _ => none
  | .fresh next, scene => play (next (idText (scene.ids + 1))) scene.named
  | .started next, scene => play next scene
  | .settle settlement next, scene => play (next (.ok ())) (scene.settled settlement)
  | .abandon _ _, _ => none

section Parts

variable {α β ρ σ : Type}

theorem play_job_bind (job : Job α) (next : α → Job β) (scene : Scene) :
    playJob (job.bind next) scene = (playJob job scene).bind fun ended =>
      match ended.1 with
      | .ok value => playJob (next value) ended.2
      | .error message => some (.error message, ended.2) := by
  induction job generalizing scene with
  | done value => rfl
  | crash message => rfl
  | ask call following ih => exact ih _ _
  | fresh following ih => exact ih _ _
  | started following ih => exact ih _
  | wait following _ => rfl

theorem play_bind (process : Process ρ) (next : ρ → Process σ) (scene : Scene) :
    play (process.bind next) scene = (play process scene).bind fun ended =>
      match ended.1 with
      | .ok result => play (next result) ended.2
      | .error message => some (.error message, ended.2) := by
  induction process generalizing scene with
  | done result => rfl
  | crash message => rfl
  | ask guard call following ih => exact ih _ _
  | wait guard following _ => rfl
  | fresh following ih => exact ih _ _
  | started following ih => exact ih _
  | settle settlement following ih => exact ih _ _
  | abandon key following _ => rfl

theorem play_map (process : Process ρ) (f : ρ → σ) (scene : Scene) :
    play (process.map f) scene = (play process scene).map fun ended => (ended.1.map f, ended.2) := by
  rw [Process.map, play_bind]
  cases play process scene with
  | none => rfl
  | some ended =>
      obtain ⟨ending, after⟩ := ended
      cases ending <;> rfl

theorem play_rescue (process : Process ρ) (f : String → ρ) (scene : Scene) :
    play (process.rescue f) scene = (play process scene).map fun ended =>
      (.ok (match ended.1 with | .ok result => result | .error message => f message), ended.2) := by
  induction process generalizing scene with
  | done result => rfl
  | crash message => rfl
  | ask guard call following ih => exact ih _ _
  | wait guard following _ => rfl
  | fresh following ih => exact ih _ _
  | started following ih => exact ih _
  | settle settlement following ih => exact ih _ _
  | abandon key following _ => rfl

theorem play_host (guard : Option String) (crashed : String → Process ρ) (ended : α → Process ρ) (job : Job α)
    (scene : Scene) :
    play (job.host guard crashed ended) scene = (playJob job scene).bind fun last =>
      match last.1 with
      | .ok value => play (ended value) last.2
      | .error message => play (crashed message) last.2 := by
  induction job generalizing scene with
  | done value => rfl
  | crash message => rfl
  | ask call next ih =>
      rw [Job.host]
      exact ih _ _
  | fresh next ih => exact ih _ _
  | started next ih => exact ih _
  | wait next _ => rfl

theorem play_process (job : Job α) (scene : Scene) : play job.process scene = playJob job scene := by
  rw [Job.process, play_host]
  cases playJob job scene with
  | none => rfl
  | some last =>
      obtain ⟨ending, after⟩ := last
      cases ending <;> rfl

end Parts

section Machines

-- No task, nothing to run and no fault of the store.
structure Idle (machine : Machine) : Prop where
  tasks : machine.tasks = []
  queue : machine.queue = []
  faults : machine.faults = []

-- A request to a machine, from its first step to its answer, with nothing kept of its tasks.
def serve (machine : Machine) (process : Process Product) : Option (Except String Product) × Machine :=
  let (number, spawned) := machine.spawn process
  (spawned.run.outcome? number, spawned.run.tidy [])

def sceneOf (machine : Machine) : Scene := { memory := machine.memory, ids := machine.idCount }

-- All tasks but one have ended, and none is waiting for its turn.
structure Alone (machine : Machine) (number : Nat) (stage : Session.Stage) (others : List Session.Task) : Prop where
  tasks : machine.tasks = { number, stage } :: others
  ended : ∀ task ∈ others, ∃ outcome, task.stage = .ended outcome
  apart : ∀ task ∈ others, number < task.number ∧ task.number ≤ machine.taskCount
  counted : number ≤ machine.taskCount
  queue : machine.queue = []
  faults : machine.faults = []

-- Where a machine has come to when its one task has ended.
structure Over (machine : Machine) (number : Nat) (ending : Except String Product) (after : Scene) : Prop where
  alone : ∃ others, Alone machine number (.ended ending) others
  memory : machine.memory = after.memory
  ids : machine.idCount = after.ids

variable {machine : Machine} {number : Nat} {stage : Session.Stage} {others : List Session.Task}

theorem stage_others (next : Session.Stage) (apart : ∀ task ∈ others, task.number ≠ number) :
    others.map (fun task => if task.number = number then { task with stage := next } else task) = others := by
  refine (List.map_congr_left fun task among => ?_).trans (List.map_id others)
  rw [if_neg (apart task among)]
  rfl

theorem set_stage_alone (alone : Alone machine number stage others) (next : Session.Stage) :
    machine.setStage number next = { machine with tasks := { number, stage := next } :: others } := by
  have kept := stage_others next fun task among => Nat.ne_of_gt (alone.apart task among).1
  rw [Machine.setStage, alone.tasks, List.map_cons, kept, if_pos rfl]

theorem waiter_ended {child : Nat} {outcome : Except String Product} {task : Session.Task}
    (ended : ∃ outcome, task.stage = .ended outcome) : Concurrent.waiter? child outcome task = none := by
  obtain ⟨other, stage⟩ := ended
  rw [Concurrent.waiter?, stage]

theorem finish_alone (alone : Alone machine number stage others) (outcome : Except String Product) :
    machine.finish number outcome = { machine with tasks := { number, stage := .ended outcome } :: others } := by
  have none_waits :
      ({ number, stage := .ended outcome } :: others).filterMap (Concurrent.waiter? number outcome) = [] := by
    refine List.filterMap_eq_nil_iff.mpr fun task among => waiter_ended ?_
    rcases List.mem_cons.mp among with rfl | other
    · exact ⟨outcome, rfl⟩
    · exact alone.ended task other
  rw [Concurrent.finish_eq, set_stage_alone alone]
  dsimp only
  rw [none_waits]
  rfl

theorem run_for_idle (queue : machine.queue = []) (turns : Nat) : machine.runFor turns = machine := by
  cases turns with
  | zero => rfl
  | succ turns => rw [Machine.runFor, queue]

theorem play_handed {ρ : Type} {process : Process ρ} {scene after : Scene} {ending : Except String ρ}
    (plays : play process scene = some (ending, after)) : scene.handed ≤ after.handed := by
  induction process generalizing scene with
  | done result =>
      cases plays
      exact Nat.le_refl _
  | crash message =>
      cases plays
      exact Nat.le_refl _
  | ask guard call next ih =>
      have later : (scene.called call).handed ≤ after.handed := ih _ plays
      exact later
  | wait guard next _ => exact nomatch plays
  | fresh next ih =>
      have later : scene.named.handed ≤ after.handed := ih _ plays
      exact later
  | started next ih => exact ih plays
  | settle settlement next ih =>
      rw [play] at plays
      exact Nat.le_trans (Nat.le_succ _) (ih _ plays)
  | abandon key next _ => exact nomatch plays

theorem meet_faultless (faults : machine.faults = []) (operation : Store.Operation) :
    machine.meet operation = (.normal, machine) := by
  rw [Machine.meet, faults]
  rfl

theorem drive_ask {letOn : Bool} {guard : Option String} {call : Call} {next : Outcome call.Answer → Process Product}
    (faults : machine.faults = []) :
    Machine.drive number letOn (.ask guard call next) machine =
      Machine.drive number letOn (next (.ok (machine.memory.perform call).1))
        { machine with log := call.line :: machine.log, memory := (machine.memory.perform call).2 } := by
  rw [Machine.drive]
  dsimp only
  let logged : Machine := { machine with log := call.line :: machine.log }
  have quiet : logged.faults = [] := faults
  have normal := meet_faultless quiet call.operation
  rw [normal, if_neg fun same => by cases same]
  rfl

-- The task of a settlement does its one call and ends.
theorem carry_out_drive (number : Nat) (letOn : Bool) (machine : Machine) (faults : machine.faults = [])
    (settlement : Settlement) :
    ∃ log, Machine.drive number letOn ((Dedup.carryOut settlement).map .verdict) machine =
      Machine.finish { machine with log, memory := settled machine.memory settlement } number
        (.ok (.verdict (.ok ()))) := by
  obtain ⟨key, value⟩ := settlement
  cases value with
  | none => exact ⟨_, drive_ask faults⟩
  | some value => exact ⟨_, drive_ask faults⟩

theorem find_head (alone : Alone machine number stage others) : machine.task? number = some { number, stage } := by
  rw [Machine.task?, alone.tasks]
  exact List.find?_cons_of_pos (by simp)

theorem finish_over {outcome : Except String Product} {after : Scene} (alone : Alone machine number stage others)
    (memory : machine.memory = after.memory) (ids : machine.idCount = after.ids) (turns : Nat) :
    Over ((machine.finish number outcome).runFor turns) number outcome after := by
  rw [finish_alone alone, run_for_idle (by exact alone.queue)]
  exact ⟨⟨others, rfl, alone.ended, alone.apart, alone.counted, alone.queue, alone.faults⟩, memory, ids⟩

theorem set_stage_tasks (first : List Session.Task) {rest : List Session.Task} {task : Session.Task}
    (next : Session.Stage) (tasks : machine.tasks = first ++ task :: rest) (same : task.number = number)
    (before : ∀ other ∈ first, other.number ≠ number) (after : ∀ other ∈ rest, other.number ≠ number) :
    machine.setStage number next = { machine with tasks := first ++ { task with stage := next } :: rest } := by
  rw [Machine.setStage, tasks, List.map_append, List.map_cons, stage_others next before, stage_others next after,
    if_pos same]

-- All tasks but two have ended, and the first of the two waits for the second.
structure Paired (machine : Machine) (number : Nat) (next : Except StoreFailure Unit → Process Product)
    (others : List Session.Task) (child : Nat) (stage : Session.Stage) : Prop where
  tasks : machine.tasks =
    { number, stage := .settling child next } :: others ++ [{ number := child, stage }]
  ended : ∀ task ∈ others, ∃ outcome, task.stage = .ended outcome
  apart : ∀ task ∈ others, number < task.number ∧ task.number < child
  above : number < child
  counted : child ≤ machine.taskCount
  queue : machine.queue = []
  faults : machine.faults = []

variable {child : Nat} {next : Except StoreFailure Unit → Process Product}

theorem paired_apart (paired : Paired machine number next others child stage) :
    ∀ task ∈ ({ number, stage := .settling child next } :: others : List Session.Task), task.number ≠ child := by
  intro task among
  rcases List.mem_cons.mp among with rfl | other
  · exact Nat.ne_of_lt paired.above
  · exact Nat.ne_of_lt (paired.apart task other).2

theorem paired_below (paired : Paired machine number next others child stage) (last : Session.Stage) :
    ∀ task ∈ others ++ [{ number := child, stage := last }], task.number ≠ number := by
  intro task among
  rcases List.mem_append.mp among with other | same
  · exact Nat.ne_of_gt (paired.apart task other).1
  · cases List.mem_singleton.mp same
    exact Nat.ne_of_gt paired.above

theorem find_child (paired : Paired machine number next others child stage) :
    machine.task? child = some { number := child, stage } := by
  have passed : ({ number, stage := .settling child next } :: others : List Session.Task).find?
      (fun task => task.number == child) = none :=
    List.find?_eq_none.mpr fun task among => by simpa using paired_apart paired task among
  rw [Machine.task?, paired.tasks, List.find?_append, passed]
  simp

-- The end of a settlement's task wakes the one that waits for it.
theorem finish_child (paired : Paired machine number next others child stage) :
    machine.finish child (.ok (.verdict (.ok ()))) =
      { machine with
        tasks := { number, stage := .ready (next (.ok ())) } :: others ++
          [{ number := child, stage := .ended (.ok (.verdict (.ok ()))) }]
        queue := [number] } := by
  have staged := set_stage_tasks ({ number, stage := .settling child next } :: others)
    (.ended (.ok (.verdict (.ok ())))) paired.tasks rfl (paired_apart paired) fun task among => nomatch among
  have waits : others.filterMap (Concurrent.waiter? child (.ok (.verdict (.ok ())))) = [] :=
    List.filterMap_eq_nil_iff.mpr fun task among => waiter_ended (paired.ended task among)
  have parent : Concurrent.waiter? child (.ok (.verdict (.ok ()))) { number, stage := .settling child next } =
      some (number, next (.ok ())) := if_pos rfl
  let ending : Machine :=
    { machine with
      tasks := [] ++ { number, stage := .settling child next } ::
        (others ++ [{ number := child, stage := .ended (.ok (.verdict (.ok ()))) }]) }
  have woken : ending.setStage number (.ready (next (.ok ()))) = _ :=
    set_stage_tasks [] (.ready (next (.ok ()))) rfl rfl (fun _ among => nomatch among) (paired_below paired _)
  rw [Concurrent.finish_eq, staged]
  dsimp only
  rw [List.filterMap_append, List.filterMap_cons, parent, waits]
  change Concurrent.goOn ending (number, next (.ok ())) = _
  rw [Concurrent.goOn, woken]
  simp [ending, paired.queue]

theorem settle_paired (alone : Alone machine number stage others) (settlement : Settlement)
    (next : Except StoreFailure Unit → Process Product) :
    ∃ handing, Machine.drive number false (.settle settlement next) machine =
        { handing with queue := [machine.taskCount + 1] } ∧
      Paired handing number next others (machine.taskCount + 1)
        (.ready ((Dedup.carryOut settlement).map .verdict)) ∧
      handing.memory = machine.memory ∧ handing.idCount = machine.idCount := by
  let last : Session.Task :=
    { number := machine.taskCount + 1, stage := .ready ((Dedup.carryOut settlement).map .verdict) }
  let handing : Machine :=
    { machine with
      tasks := { number, stage := .settling (machine.taskCount + 1) next } :: others ++ [last]
      taskCount := machine.taskCount + 1 }
  have above : number < machine.taskCount + 1 := Nat.lt_succ_of_le alone.counted
  have paired : Paired handing number next others (machine.taskCount + 1) last.stage :=
    { tasks := rfl
      ended := alone.ended
      apart := fun task among => ⟨(alone.apart task among).1, Nat.lt_succ_of_le (alone.apart task among).2⟩
      above := above
      counted := Nat.le_refl _
      queue := alone.queue
      faults := alone.faults }
  refine ⟨handing, ?_, paired, rfl, rfl⟩
  let spawned : Machine :=
    { machine with
      tasks := [] ++ { number, stage } :: (others ++ [last]), queue := [machine.taskCount + 1]
      taskCount := machine.taskCount + 1 }
  have started : machine.spawn ((Dedup.carryOut settlement).map .verdict) = (machine.taskCount + 1, spawned) := by
    simp [Machine.spawn, spawned, last, alone.tasks, alone.queue]
  have staged : spawned.setStage number (.settling (machine.taskCount + 1) next) = _ :=
    set_stage_tasks [] (.settling (machine.taskCount + 1) next) rfl rfl (fun _ among => nomatch among)
      (paired_below paired _)
  rw [Machine.drive, started]
  exact staged

theorem take_turn {process : Process Product} (queue : machine.queue = [])
    (found : machine.task? number = some { number, stage := .ready process }) (turns : Nat) :
    Machine.runFor (turns + 1) { machine with queue := [number] } =
      (Machine.drive number false process machine).runFor turns := by
  have same : { machine with queue := [] } = machine := by rw [← queue]
  rw [Machine.runFor]
  dsimp only
  rw [same, found]
  rfl

-- A task that hands over a settlement goes on two turns later, when the settlement has been carried out.
theorem settle_runs {settlement : Settlement} (alone : Alone machine number stage others) (turns : Nat) :
    ∃ later others', Alone later number (.ready (next (.ok ()))) others' ∧
      later.memory = settled machine.memory settlement ∧ later.idCount = machine.idCount ∧
        (Machine.drive number false (.settle settlement next) machine).runFor (turns + 2) =
          (Machine.drive number false (next (.ok ())) later).runFor turns := by
  obtain ⟨handing, handed, paired, memory, ids⟩ := settle_paired alone settlement next
  let child := machine.taskCount + 1
  let ended : Session.Task := { number := child, stage := .ended (.ok (.verdict (.ok ()))) }
  obtain ⟨log, carried⟩ := carry_out_drive child false handing paired.faults settlement
  let done : Machine := { handing with log, memory := settled handing.memory settlement }
  have still : Paired done number next others child _ := { paired with }
  let later : Machine := { done with tasks := { number, stage := .ready (next (.ok ())) } :: (others ++ [ended]) }
  have alone' : Alone later number (.ready (next (.ok ()))) (others ++ [ended]) :=
    { tasks := rfl
      ended := fun task among => (List.mem_append.mp among).elim (alone.ended task) fun last => by
        cases List.mem_singleton.mp last
        exact ⟨_, rfl⟩
      apart := fun task among => (List.mem_append.mp among).elim
        (fun other => ⟨(paired.apart task other).1,
            Nat.le_of_lt (Nat.lt_of_lt_of_le (paired.apart task other).2 paired.counted)⟩)
        fun last => by
          cases List.mem_singleton.mp last
          exact ⟨paired.above, paired.counted⟩
      counted := Nat.le_trans (Nat.le_of_lt paired.above) paired.counted
      queue := paired.queue
      faults := paired.faults }
  have woken : done.finish child (.ok (.verdict (.ok ()))) = { later with queue := [number] } := finish_child still
  refine ⟨later, others ++ [ended], alone', congrArg (settled · settlement) memory, ids, ?_⟩
  calc (Machine.drive number false (.settle settlement next) machine).runFor (turns + 2)
      = Machine.runFor (turns + 2) { handing with queue := [child] } := by rw [handed]
    _ = (Machine.drive child false ((Dedup.carryOut settlement).map .verdict) handing).runFor (turns + 1) :=
        take_turn paired.queue (find_child paired) (turns + 1)
    _ = Machine.runFor (turns + 1) { later with queue := [number] } := by rw [carried, woken]
    _ = (Machine.drive number false (next (.ok ())) later).runFor turns :=
      take_turn alone'.queue (find_head alone') turns

theorem drive_over {process : Process Product} {scene after : Scene} {ending : Except String Product}
    (plays : play process scene = some (ending, after)) (alone : ∃ stage others, Alone machine number stage others)
    (memory : machine.memory = scene.memory) (ids : machine.idCount = scene.ids) {turns : Nat}
    (enough : 2 * after.handed ≤ 2 * scene.handed + turns) :
    Over ((Machine.drive number false process machine).runFor turns) number ending after := by
  induction process generalizing scene machine turns with
  | done product =>
      obtain ⟨stage, others, alone⟩ := alone
      cases plays
      exact finish_over alone memory ids turns
  | crash message =>
      obtain ⟨stage, others, alone⟩ := alone
      cases plays
      exact finish_over alone memory ids turns
  | ask guard call next ih =>
      obtain ⟨stage, others, alone⟩ := alone
      rw [play, ← memory] at plays
      rw [drive_ask alone.faults]
      refine ih _ plays ?_ ?_ ?_ enough
      · exact ⟨stage, others, { alone with }⟩
      · exact congrArg (fun memory => (Memory.perform memory call).2) memory
      · exact ids
  | wait guard next _ => cases plays
  | fresh next ih =>
      obtain ⟨stage, others, alone⟩ := alone
      rw [play, ← ids] at plays
      rw [Machine.drive]
      refine ih _ plays ?_ ?_ ?_ enough
      · exact ⟨stage, others, { alone with }⟩
      · exact memory
      · exact congrArg Nat.succ ids
  | started next ih =>
      obtain ⟨stage, others, alone⟩ := alone
      rw [Machine.drive]
      refine ih plays ?_ ?_ ?_ enough
      · exact ⟨stage, others, { alone with }⟩
      · exact memory
      · exact ids
  | settle settlement next ih =>
      obtain ⟨stage, others, alone⟩ := alone
      rw [play] at plays
      have handed := play_handed plays
      obtain ⟨turns, rfl⟩ : ∃ fewer, turns = fewer + 2 := ⟨turns - 2, by simp only [Scene.settled] at handed; omega⟩
      obtain ⟨later, others', alone', memory', ids', runs⟩ := settle_runs alone turns
      rw [runs]
      refine ih _ plays ⟨_, others', alone'⟩ (by rw [memory', memory]; rfl) (ids'.trans ids) ?_
      simp only [Scene.settled]
      omega
  | abandon key next _ => cases plays

theorem over_outcome {ending : Except String Product} {after : Scene} (done : Over machine number ending after) :
    machine.outcome? number = some ending := by
  obtain ⟨others, alone⟩ := done.alone
  rw [Machine.outcome?, find_head alone]
  rfl

theorem over_tidy {ending : Except String Product} {after : Scene} (done : Over machine number ending after) :
    Idle (machine.tidy []) := by
  obtain ⟨others, alone⟩ := done.alone
  refine ⟨?_, alone.queue, alone.faults⟩
  rw [Machine.tidy, alone.tasks]
  refine List.filter_eq_nil_iff.mpr fun task among => ?_
  obtain ⟨outcome, stage⟩ : ∃ outcome, task.stage = .ended outcome := by
    rcases List.mem_cons.mp among with rfl | other
    · exact ⟨ending, rfl⟩
    · exact alone.ended task other
  rw [stage]
  exact Bool.false_ne_true

-- The turns of a machine are enough for 63 settlements.
theorem serve_play {process : Process Product} {ending : Except String Product} {after : Scene} (idle : Idle machine)
    (plays : play process (sceneOf machine) = some (ending, after)) (few : after.handed ≤ 63) :
    (serve machine process).1 = some ending ∧ Idle (serve machine process).2 ∧
      sceneOf (serve machine process).2 = { after with handed := 0 } := by
  let number := machine.taskCount + 1
  let started : Machine := { machine with tasks := [{ number, stage := .ready process }], taskCount := number }
  have alone : Alone started number (.ready process) [] :=
    { tasks := rfl
      ended := fun _ among => nomatch among
      apart := fun _ among => nomatch among
      counted := Nat.le_refl _
      queue := idle.queue
      faults := idle.faults }
  have spawned : machine.spawn process = (number, { started with queue := [number] }) := by
    simp [Machine.spawn, started, number, idle.tasks, idle.queue]
  have done : Over (Machine.run { started with queue := [number] }) number ending after := by
    have first := take_turn alone.queue (find_head alone) 127
    rw [show Machine.run { started with queue := [number] } = _ from first]
    refine drive_over plays ⟨_, _, alone⟩ rfl rfl ?_
    rw [sceneOf]
    omega
  rw [serve, spawned]
  refine ⟨over_outcome done, over_tidy done, ?_⟩
  simp only [sceneOf, Machine.tidy, done.memory, done.ids]

end Machines
end ConfigRegistry.Solitary
