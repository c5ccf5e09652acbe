import ConfigRegistry.Proofs.Requests
import ConfigRegistry.Service.Pipeline

set_option autoImplicit false

/-!
Requests over HTTP that go through the desk to their handler. Main statements: they keep the discipline of the desk's
namespace, and one with a key and a body within the limit begins with the claim of its key.
-/
namespace ConfigRegistry.Concurrent

open Work (Job Process)
open Session (Product)
open Dedup

theorem client_key_nonempty {values : List Bytes} {key : String} (found : clientKeyOf values = some key) :
    key.isEmpty = false := by
  cases values with
  | nil => exact nomatch found
  | cons value values =>
      change clientKey? value = some key at found
      rw [clientKey?] at found
      by_cases blank : (trimHeader value).isEmpty = true
      · simp [blank] at found
      · rw [if_neg blank] at found
        have nonempty : key ≠ "" := by
          rintro rfl
          cases read : Text.ofBytes? (trimHeader value) with
          | some text =>
              simp only [read, Option.some.injEq] at found
              subst found
              have same := Text.to_bytes_of_bytes read
              exact blank (by rw [← same]; rfl)
          | none =>
              simp only [read, Option.some.injEq] at found
              have letters := congrArg String.toList found
              simp [binaryMark] at letters
        simpa using nonempty

def responded (response : Http.Response) : Product := .answer (.response response)

-- A request with its handler, which writes nothing under the namespace itself.
inductive Caller (desk : Desk) : Process Product → Prop where
  | deduplicate (request : Http.Request) (handler : Job Http.Response)
      (spares : JobSpares desk.scope (fun _ => True) handler) :
      Caller desk ((Service.deduplicate desk request handler).map responded)

section

variable {desk : Desk} {request : Http.Request} {handler : Job Http.Response}

theorem job_spares_bind {α β : Type} {scope : String} {first : α → Prop} {second : β → Prop} {job : Job α}
    {next : α → Job β} (spares : JobSpares scope first job)
    (rest : ∀ value, first value → JobSpares scope second (next value)) : JobSpares scope second (job.bind next) := by
  induction job with
  | done value => exact rest value spares
  | crash message => trivial
  | ask call following ih => exact ⟨spares.1, fun answer => ih answer (spares.2 answer)⟩
  | fresh following ih => exact fun id => ih id (spares id)
  | started following ih => exact ih spares
  | wait following ih => exact ih spares

theorem buffered_spares {scope : String} (limit : Nat) (spares : JobSpares scope (fun _ => True) handler) :
    JobSpares scope (fun _ => True) (Service.buffered limit handler) :=
  job_spares_bind spares fun _ _ => trivial

theorem caller_heeds (process : Process Product) (caller : Caller desk process) :
    Heeds desk.scope Settled none process := by
  cases caller with
  | deduplicate request handler spares =>
      refine heeds_map _ ?_
      rw [Service.deduplicate]
      split
      · exact process_heeds spares
      · split
        · exact .done rfl
        · exact heeds_map _ (serve_heeds desk _ Service.answerOf (buffered_spares desk.bodyLimit spares))

-- What a caller makes of its claim.
def answerWith (desk : Desk) (handler : Job Http.Response) : Except StoreFailure Claim → Process Product :=
  carryOn Service.answerOf (Service.buffered desk.bodyLimit handler) fun served =>
    responded (Service.writeServed served)

theorem deduplicate_claims {key : String} (keyed : clientKeyOf request.keys = some key)
    (fits : request.body.length ≤ desk.bodyLimit) :
    (Service.deduplicate desk request handler).map responded =
      (desk.claim (some key)).bind (answerWith desk handler) := by
  rw [Service.deduplicate, keyed]
  dsimp only
  rw [if_neg (Nat.not_lt.mpr fits), answerWith, ← serve_claim]
  exact bind_assoc _ _ _

end
end ConfigRegistry.Concurrent
