import ConfigRegistry.Failure

set_option autoImplicit false

/-!
The calls of a record store and what comes back from them.
-/
namespace ConfigRegistry.Store

inductive Operation where
  | get
  | create
  | put
  | delete
  | ping
deriving DecidableEq, Repr

def Operation.name : Operation → String
  | .get => "get"
  | .create => "create"
  | .put => "put"
  | .delete => "delete"
  | .ping => "ping"

inductive Call where
  | get (key : String)
  | create (key : String) (value : Bytes)
  | put (key : String) (value : Bytes)
  | delete (key : String)
  | ping
deriving DecidableEq, Repr

namespace Call

def operation : Call → Operation
  | get _ => .get
  | create .. => .create
  | put .. => .put
  | delete _ => .delete
  | ping => .ping

def key : Call → String
  | get key => key
  | create key _ => key
  | put key _ => key
  | delete key => key
  | ping => ""

-- What the call answers when it succeeds: the value found; whether it was written; nothing; whether there was a
-- value to remove; nothing.
@[reducible] def Answer : Call → Type
  | get _ => Option Bytes
  | create .. => Bool
  | put .. => Unit
  | delete _ => Bool
  | ping => Unit

def line : Call → String
  | ping => "ping"
  | call => call.operation.name ++ " " ++ call.key

end Call

inductive Outcome (α : Type) where
  | ok (answer : α)
  | failed (failure : StoreFailure)
  | panicked (message : String)
deriving Repr

end ConfigRegistry.Store
