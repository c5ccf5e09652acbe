import ConfigRegistry.Work.Job

set_option autoImplicit false

/-!
Processes: what a task does step by step, from the store's point of view. While a process holds the ownership of
a key, the places where it waits are guarded by that key: one that is cancelled there leaves behind the deletion
of the key's record.
-/
namespace ConfigRegistry.Work

open Store (Call Outcome)

-- The last write of an ownership, which a task of its own carries out: a value to store, or else a deletion.
structure Settlement where
  key : String
  value : Option Bytes
deriving DecidableEq, Repr

inductive Process (ρ : Type) where
  | done (result : ρ)
  | crash (message : String)
  | ask (guard : Option String) (call : Call) (next : Outcome call.Answer → Process ρ)
  | wait (guard : Option String) (next : Process ρ)
  | fresh (next : String → Process ρ)
  | started (next : Process ρ)
  -- Starts the task of a settlement and waits for its verdict; the task goes on if the process is cancelled.
  | settle (settlement : Settlement) (next : Except StoreFailure Unit → Process ρ)
  -- Leaves the deletion of a key to a task of its own.
  | abandon (key : String) (next : Process ρ)

namespace Process

variable {ρ σ α : Type}

def bind (f : ρ → Process σ) : Process ρ → Process σ
  | done result => f result
  | crash message => crash message
  | ask guard call next => ask guard call fun outcome => bind f (next outcome)
  | wait guard next => wait guard (bind f next)
  | fresh next => fresh fun id => bind f (next id)
  | started next => started (bind f next)
  | settle settlement next => settle settlement fun verdict => bind f (next verdict)
  | abandon key next => abandon key (bind f next)

instance : Monad Process where
  pure := done
  bind process f := process.bind f

def map (f : ρ → σ) (process : Process ρ) : Process σ := process.bind fun result => done (f result)

def rescue (f : String → ρ) : Process ρ → Process ρ
  | done result => done result
  | crash message => done (f message)
  | ask guard call next => ask guard call fun outcome => rescue f (next outcome)
  | wait guard next => wait guard (rescue f next)
  | fresh next => fresh fun id => rescue f (next id)
  | started next => started (rescue f next)
  | settle settlement next => settle settlement fun verdict => rescue f (next verdict)
  | abandon key next => abandon key (rescue f next)

-- Where a process that is cancelled at its present place leaves a record behind.
def guard? : Process ρ → Option String
  | ask guard _ _ => guard
  | wait guard _ => guard
  | _ => none

-- The task that deletes the record of an abandoned key, whatever comes of it.
def cleanup (key : String) : Process Unit := ask none (.delete key) fun _ => done ()

def call (call : Call) : Process (Except StoreFailure call.Answer) :=
  ask none call fun
    | .ok answer => done (.ok answer)
    | .failed failure => done (.error failure)
    | .panicked message => crash message

end Process

-- Runs a job under a guard. Its crash, or one of the store, is handed over instead of a value.
def Job.host {α ρ : Type} (guard : Option String) (crashed : String → Process ρ) (ended : α → Process ρ) :
    Job α → Process ρ
  | .done value => ended value
  | .crash message => crashed message
  | .ask call next => .ask guard call fun
      | .ok answer => host guard crashed ended (next (.ok answer))
      | .failed failure => host guard crashed ended (next (.error failure))
      | .panicked message => crashed message
  | .fresh next => .fresh fun id => host guard crashed ended (next id)
  | .started next => .started (host guard crashed ended next)
  | .wait next => .wait guard (host guard crashed ended next)

def Job.process {α : Type} (job : Job α) : Process α := job.host none .crash .done

end ConfigRegistry.Work
