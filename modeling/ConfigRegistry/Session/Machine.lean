import ConfigRegistry.Dedup.Desk
import ConfigRegistry.Store.Memory
import ConfigRegistry.Session.Answer

set_option autoImplicit false

/-!
A machine that runs processes over one memory store, in turns and first come first served. The store can be told
to misbehave on its next calls.
-/
namespace ConfigRegistry.Session

open Store (Call Outcome Operation Memory)
open Work (Process Settlement)

inductive Mode where
  | normal
  | fail
  | corrupt
  -- As if nothing were stored, and nothing changes.
  | absent
  | panic
  | hold
deriving DecidableEq, Repr

structure Fault where
  operation : Operation
  mode : Mode
  once : Bool
deriving DecidableEq, Repr

inductive Product where
  | answer (value : Answer)
  | verdict (value : Except StoreFailure Unit)
  | nothing

inductive Stage where
  | ready (process : Process Product)
  -- Let go: the call at its front takes place without looking at faults again.
  | released (process : Process Product)
  | held (process : Process Product)
  | waiting (process : Process Product)
  | settling (child : Nat) (next : Except StoreFailure Unit → Process Product)
  | ended (outcome : Except String Product)

structure Task where
  number : Nat
  stage : Stage
  -- Whether its handler may go on where it would wait.
  letOn : Bool := false

structure Machine where
  memory : Memory := .empty
  faults : List Fault := []
  tasks : List Task := []
  queue : List Nat := []
  taskCount : Nat := 0
  idCount : Nat := 0
  log : List String := []
  runs : Nat := 0

def padLeft (width : Nat) (chars : List Char) : List Char := List.replicate (width - chars.length) '0' ++ chars

-- Ids have the form of random ones and differ from each other.
def idText (n : Nat) : String :=
  String.ofList ("c0f19e57-0000-4000-8000-".toList ++ padLeft 12 (Text.hexDigits n))

namespace Machine

def task? (machine : Machine) (number : Nat) : Option Task := machine.tasks.find? fun task => task.number == number

def setStage (machine : Machine) (number : Nat) (stage : Stage) : Machine :=
  { machine with
    tasks := machine.tasks.map fun task => if task.number = number then { task with stage } else task }

def spawn (machine : Machine) (process : Process Product) : Nat × Machine :=
  let number := machine.taskCount + 1
  (number, { machine with
    tasks := machine.tasks ++ [{ number, stage := .ready process }]
    queue := machine.queue ++ [number]
    taskCount := number })

def spawnCleanup (machine : Machine) (key : String) : Machine :=
  (machine.spawn ((Process.cleanup key).map fun _ => .nothing)).2

def finish (machine : Machine) (number : Nat) (outcome : Except String Product) : Machine :=
  let ended := machine.setStage number (.ended outcome)
  let verdict : Except StoreFailure Unit := match outcome with
    | .ok (.verdict value) => value
    | .ok _ => .ok ()
    | .error message => .error (Dedup.settlementCrash number message)
  let waiting := ended.tasks.filterMap fun task => match task.stage with
    | .settling child next => if child = number then some (task.number, next verdict) else none
    | _ => none
  waiting.foldl (fun machine (parent, process) =>
    { machine.setStage parent (.ready process) with queue := machine.queue ++ [parent] }) ended

-- The mode that a call meets; a mode for one call only is used up.
def meet (machine : Machine) (operation : Operation) : Mode × Machine :=
  match machine.faults.find? fun fault => fault.operation == operation with
  | none => (.normal, machine)
  | some fault =>
      if fault.once then
        (fault.mode, { machine with faults := machine.faults.filter fun other => other.operation != operation })
      else (fault.mode, machine)

def absentAnswer : (call : Call) → call.Answer
  | .get _ => none
  | .create .. => false
  | .put .. => ()
  | .delete _ => false
  | .ping => ()

def callOutcome (machine : Machine) (mode : Mode) (call : Call) : Outcome call.Answer × Machine :=
  match mode with
  | .fail => (.failed (.unavailable "connection refused"), machine)
  | .corrupt => (.failed (.corrupt call.key "bad bytes"), machine)
  | .absent => (.ok (absentAnswer call), machine)
  | .panic => (.panicked ("store panicked in " ++ call.operation.name), machine)
  | .normal | .hold =>
      let (answer, memory) := machine.memory.perform call
      (.ok answer, { machine with memory })

def drive (number : Nat) (letOn : Bool) : Process Product → Machine → Machine
  | .done product, machine => machine.finish number (.ok product)
  | .crash message, machine => machine.finish number (.error message)
  | .ask guard call next, machine =>
      let (mode, met) := { machine with log := call.line :: machine.log }.meet call.operation
      -- A held call has been logged and keeps its place at the front until it is let go.
      if mode = .hold then met.setStage number (.held (.ask guard call next))
      else
        let (outcome, called) := met.callOutcome mode call
        drive number letOn (next outcome) called
  | .wait guard next, machine =>
      if letOn then drive number letOn next machine
      else machine.setStage number (.waiting (.wait guard next))
  | .fresh next, machine =>
      drive number letOn (next (idText (machine.idCount + 1))) { machine with idCount := machine.idCount + 1 }
  | .started next, machine => drive number letOn next { machine with runs := machine.runs + 1 }
  | .settle settlement next, machine =>
      -- The settlement goes on without its parent, so a cancelled request still gets settled.
      let (child, spawned) := machine.spawn ((Dedup.carryOut settlement).map .verdict)
      spawned.setStage number (.settling child next)
  | .abandon key next, machine => drive number letOn next (machine.spawnCleanup key)

def turn (machine : Machine) (task : Task) : Machine :=
  match task.stage with
  | .ready process => drive task.number task.letOn process machine
  | .released (.ask _ call next) =>
      let (outcome, called) := machine.callOutcome .normal call
      drive task.number task.letOn (next outcome) called
  | .released process => drive task.number task.letOn process machine
  | _ => machine

def runFor : Nat → Machine → Machine
  | 0, machine => machine
  | turns + 1, machine =>
      match machine.queue with
      | [] => machine
      | number :: queue =>
          let rest := { machine with queue }
          match rest.task? number with
          | some task => runFor turns (rest.turn task)
          | none => runFor turns rest

-- A task takes one turn at a time, and what it starts itself takes few.
def turnsFor (machine : Machine) : Nat := 64 * (machine.tasks.length + 1)

def run (machine : Machine) : Machine := machine.runFor machine.turnsFor

def unhold (machine : Machine) : Machine :=
  let numbers := machine.tasks.filterMap fun task => match task.stage with
    | .held _ => some task.number
    | _ => none
  { machine with
    tasks := machine.tasks.map fun task => match task.stage with
      | .held process => { task with stage := .released process }
      | _ => task
    queue := machine.queue ++ numbers }

def letGo (machine : Machine) (number : Nat) : Machine :=
  match machine.task? number with
  | none => machine
  | some task =>
      let stage := match task.stage with
        | .waiting process => .ready process
        | stage => stage
      let queue := match task.stage with
        | .waiting _ => machine.queue ++ [number]
        | _ => machine.queue
      { machine with
        tasks := machine.tasks.map fun other =>
          if other.number = number then { other with stage, letOn := true } else other
        queue }

def cancel (machine : Machine) (number : Nat) : Machine :=
  match machine.task? number with
  | none => machine
  | some task =>
      let removed := { machine with tasks := machine.tasks.filter fun other => other.number != number }
      let guard := match task.stage with
        | .held process | .waiting process | .ready process | .released process => process.guard?
        | _ => none
      match guard with
      | some key => removed.spawnCleanup key
      | none => removed

def outcome? (machine : Machine) (number : Nat) : Option (Except String Product) :=
  (machine.task? number).bind fun task => match task.stage with
    | .ended outcome => some outcome
    | _ => none

def tidy (machine : Machine) (kept : List Nat) : Machine :=
  { machine with tasks := machine.tasks.filter fun task => match task.stage with
      | .ended _ => kept.contains task.number
      | _ => true }

end Machine
end ConfigRegistry.Session
