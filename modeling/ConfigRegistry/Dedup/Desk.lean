import ConfigRegistry.Dedup.Record
import ConfigRegistry.Work.Process

set_option autoImplicit false

/-!
The desk that lets one request through per idempotency key, keeps its answer for later ones, and frees the key
when there is nothing to keep.
-/
namespace ConfigRegistry.Dedup

open Work (Job Process Settlement)

structure Desk where
  scope : String
  bodyLimit : Nat := 1048576
deriving DecidableEq, Repr

-- Slashes at the end of the namespace make no difference.
def Desk.ofScope (scope : String) (bodyLimit : Nat) : Desk where
  scope := String.ofList (scope.toList.reverse.dropWhile fun c => c = '/').reverse
  bodyLimit

def Desk.storeKey (desk : Desk) (key : String) : String := desk.scope ++ "/" ++ key

-- Status codes whose answer is kept. Any other frees the key.
def isKept (statusCode : UInt16) : Bool := 200 ≤ statusCode && statusCode < 400

structure Answer where
  statusCode : UInt16
  body : Bytes
deriving DecidableEq, Repr

inductive Claim where
  | unkeyed
  | answered (answer : Answer)
  | busy
  | owned (storeKey : String)
deriving DecidableEq, Repr

inductive Served (α : Type) where
  | made (value : α)
  | kept (answer : Answer)
deriving DecidableEq, Repr

namespace Ownership

def free (storeKey : String) : Process (Except StoreFailure Unit) :=
  .ask (some storeKey) (.delete storeKey) fun
    | .ok _ => .done (.ok ())
    -- A deletion that failed is tried once more, by a task of its own.
    | .failed failure => .abandon storeKey (.done (.error failure))
    | .panicked message => .abandon storeKey (.crash message)

def settlement (storeKey : String) (answer : Answer) : Settlement where
  key := storeKey
  value := if isKept answer.statusCode then some (Record.completed answer.statusCode answer.body).encode else none

def settle (storeKey : String) (answer : Answer) : Process (Except StoreFailure Unit) :=
  .settle (settlement storeKey answer) .done

-- Dropped without being settled: a task deletes the record.
def leave (storeKey : String) : Process Unit := .abandon storeKey (.done ())

-- Runs a handler under the ownership. What a failed or crashed handler says is passed on, whatever comes of the
-- release.
def handle {α : Type} (storeKey : String) (answerOf : α → Answer) (handler : Job (Except ServiceFailure α)) :
    Process (Except ServiceFailure α) :=
  handler.host (some storeKey)
    (fun message => (free storeKey).bind fun _ => .crash message)
    (fun
      | .ok value => (settle storeKey (answerOf value)).bind fun
          | .ok () => .done (.ok value)
          | .error failure => .done (.error (.ofStore failure))
      | .error failure => (free storeKey).bind fun _ => .done (.error failure))

end Ownership

def carryOut (settlement : Settlement) : Process (Except StoreFailure Unit) :=
  match settlement.value with
  | none => Ownership.free settlement.key
  | some value =>
      .ask (some settlement.key) (.put settlement.key value) fun
        | .ok _ => .done (.ok ())
        | .failed failure => .abandon settlement.key (.done (.error failure))
        | .panicked message => .abandon settlement.key (.crash message)

def settlementCrash (task : Nat) (message : String) : StoreFailure :=
  .unavailable ("finalization task failed: task " ++ toString task ++ " panicked with message " ++
    Text.quoted message)

namespace Desk

-- Only the conditional creation decides who owns a key.
def claim (desk : Desk) (key : Option String) : Process (Except StoreFailure Claim) :=
  match key with
  | none => .done (.ok .unkeyed)
  | some key =>
      if key.isEmpty then .done (.ok .unkeyed)
      else
        let storeKey := desk.storeKey key
        let create : Process (Except StoreFailure Claim) :=
          .ask none (.create storeKey Record.inProgress.encode) fun
            | .ok true => .done (.ok (.owned storeKey))
            | .ok false => .done (.ok .busy)
            | .failed failure => .done (.error failure)
            | .panicked message => .crash message
        .ask none (.get storeKey) fun
          | .ok (some bytes) => match Record.decode storeKey bytes with
              | .ok (.completed statusCode body) => .done (.ok (.answered ⟨statusCode, body⟩))
              | .ok .inProgress => .done (.ok .busy)
              | .error failure => .done (.error failure)
          | .ok none => create
          -- The look-up only finds what is there already, so nothing is lost when it fails.
          | .failed _ => create
          | .panicked message => .crash message

def serve {α : Type} (desk : Desk) (key : Option String) (answerOf : α → Answer)
    (handler : Job (Except ServiceFailure α)) : Process (Except ServiceFailure (Served α)) :=
  (desk.claim key).bind fun
    | .error failure => .done (.error (.ofStore failure))
    | .ok .unkeyed => handler.process.map (Except.map .made)
    | .ok (.answered answer) => .done (.ok (.kept answer))
    | .ok .busy => .done (.error .conflict)
    | .ok (.owned storeKey) => (Ownership.handle storeKey answerOf handler).map (Except.map .made)

end Desk
end ConfigRegistry.Dedup
