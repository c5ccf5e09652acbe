import ConfigRegistry.Dedup.Desk
import ConfigRegistry.Service.Pipeline

set_option autoImplicit false

/-!
Handlers that do as they are told.
-/
namespace ConfigRegistry.Session

open Http (Request Response)
open Work (Job)

-- What a handler is told to answer is a number from outside.
instance codeOfNumber : Coe Nat UInt16 := ⟨UInt16.ofNat⟩

structure Reply where
  waits : Bool := false
  crash : Option String := none
  failure : Option ServiceFailure := none
  status : Nat := 200
  body : Option Bytes := none
  contentType : Option String := none
deriving DecidableEq, Repr

def Reply.handle {α : Type} (reply : Reply) (answer : Except ServiceFailure α) : Job (Except ServiceFailure α) :=
  let ending : Job (Except ServiceFailure α) := match reply.crash, reply.failure with
    | some message, _ => .crash message
    | none, some failure => .done (.error failure)
    | none, none => .done answer
  .started (if reply.waits then .wait ending else ending)

def Reply.answering (reply : Reply) : Job (Except ServiceFailure Dedup.Answer) :=
  reply.handle (.ok ⟨reply.status, reply.body.getD []⟩)

def Reply.responding (reply : Reply) (request : Request) : Job Response :=
  Service.answered id (reply.handle (.ok
    { status := reply.status, contentType := reply.contentType, body := reply.body.getD request.body }))

end ConfigRegistry.Session
