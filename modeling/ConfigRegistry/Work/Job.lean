import ConfigRegistry.Store.Call

set_option autoImplicit false

/-!
Jobs: what a handler does, as a tree of store calls and of the few other things that it may ask for.
-/
namespace ConfigRegistry.Work

open Store (Call)

inductive Job (α : Type) where
  | done (value : α)
  | crash (message : String)
  | ask (call : Call) (next : Except StoreFailure call.Answer → Job α)
  | fresh (next : String → Job α)
  | started (next : Job α)
  | wait (next : Job α)

namespace Job

variable {α β : Type}

def bind (f : α → Job β) : Job α → Job β
  | done value => f value
  | crash message => crash message
  | ask call next => ask call fun answer => bind f (next answer)
  | fresh next => fresh fun id => bind f (next id)
  | started next => started (bind f next)
  | wait next => wait (bind f next)

instance : Monad Job where
  pure := done
  bind job f := job.bind f

def call (call : Call) : Job (Except StoreFailure call.Answer) := ask call done

def freshId : Job String := fresh done

-- Goes on with a value and ends at once with a failure.
def andThen {ε : Type} (job : Job (Except ε α)) (f : α → Job (Except ε β)) : Job (Except ε β) :=
  job.bind fun
    | .ok value => f value
    | .error failure => done (.error failure)

def stored (call : Call) : Job (Except ServiceFailure call.Answer) :=
  ask call fun answer => done (answer.mapError ServiceFailure.ofStore)

def withIds (supply : Nat → String) : Job α → Nat → Option (α × Nat)
  | done value, count => some (value, count)
  | fresh next, count => withIds supply (next (supply (count + 1))) (count + 1)
  | _, _ => none

end Job
end ConfigRegistry.Work
