import ConfigRegistry.Dedup.Desk

set_option autoImplicit false

/-!
What the steps of a session answer.
-/
namespace ConfigRegistry.Session

inductive Answer where
  | nothing
  | ok
  | flag (value : Bool)
  | count (value : Nat)
  | text (value : String)
  | stored (value : Bytes)
  | item (json : Bytes)
  | storeFailure (failure : StoreFailure)
  | serviceFailure (failure : ServiceFailure)
  | jsonFailure (failure : Json.Failure)
  | panicked (message : String)
  | claimed (claim : Dedup.Claim)
  | handled (answer : Dedup.Answer)
  | served (served : Dedup.Served Dedup.Answer)
  | response (response : Http.Response)
  | started
  | cancelled
  | notOwned
  | notStarted
deriving DecidableEq, Repr

end ConfigRegistry.Session
