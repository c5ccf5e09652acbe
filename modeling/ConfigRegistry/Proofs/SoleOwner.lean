import ConfigRegistry.Proofs.Exclusive
import ConfigRegistry.Proofs.Schedules

set_option autoImplicit false

/-!
Main statement: however the requests of one namespace interleave, fail and are cancelled, a key has at most one owner
at a time, and so at most one handler runs under it.
-/
namespace ConfigRegistry.Concurrent

open Work (Job Process)
open Session (Product)
open Dedup

-- A handler runs under the key, from its first step until its outcome is handed over.
def World.Handles (world : World) (number : Nat) (key : String) : Prop :=
  ∃ (α : Type) (answerOf : α → Answer) (handler : Job (Except ServiceFailure α))
    (rest : Except ServiceFailure α → Process Product),
    world.tasks number = some ⟨.request, .active ((Ownership.handle key answerOf handler).bind rest)⟩

section

variable {scope key : String} {start world : World} {events : List Event} {number : Nat}

theorem handle_owns {α : Type} (answerOf : α → Answer) (handler : Job (Except ServiceFailure α))
    (rest : Except ServiceFailure α → Process Product) :
    ProcessOwns key ((Ownership.handle key answerOf handler).bind rest) := by
  induction handler with
  | done result =>
      cases result with
      | ok value => exact Eq.refl key
      | error failure => exact Eq.refl (some key)
  | crash message => exact Eq.refl (some key)
  | ask call next _ =>
      rw [Ownership.handle, Job.host]
      exact Eq.refl (some key)
  | fresh next ih => exact ⟨"", ih ""⟩
  | started next ih => exact ih
  | wait next _ => exact Eq.refl (some key)

theorem handles_owns (handles : world.Handles number key) : world.Owns number key := by
  obtain ⟨_, answerOf, handler, rest, present⟩ := handles
  exact ⟨_, present, handle_owns answerOf handler rest⟩

theorem exclusive_ownership (idle : ∀ number, start.tasks number = none)
    (run : Run Atomic (Customer scope) start events world) :
    (∀ i j key, world.Owns i key → world.Owns j key → i = j) ∧
      (∀ i key, world.Owns i key → world.memory.get? key = some placeholder ∧
        lastWrite? key events = some (world.originOf i, .create key placeholder)) ∧
      ∀ i j key, world.Handles i key → world.Handles j key → i = j := by
  obtain ⟨held, orderly, exclusive⟩ := run_ledger customer_heeds idle run
  have single : ∀ i j key, world.Owns i key → world.Owns j key → i = j := fun i j key left right =>
    exclusive.single i j key ((owns_iff_held orderly i key).mp left) ((owns_iff_held orderly j key).mp right)
  refine ⟨single, ?_, fun i j key left right => single i j key (handles_owns left) (handles_owns right)⟩
  intro i key owns
  have marked := exclusive.marked i key ((owns_iff_held orderly i key).mp owns)
  exact ⟨marked.stored, marked.traced⟩

end

-- Two requests race for one key. The second wins it, and keeps the first from running its handler.
theorem exclusive_ownership_race :
    ∃ events world, Run Atomic (Customer "desk") (.idle .empty) events world ∧ world.Handles 1 "desk/order" ∧
      world.memory.get? "desk/order" = some placeholder ∧ ∀ i, world.Owns i "desk/order" → i = 1 := by
  let desk : Desk := { scope := "desk" }
  let use := carryOn (α := Answer) id (.wait (.done (.ok ⟨201, []⟩))) fun _ => .nothing
  have admitted : Customer "desk" ((desk.claim (some "order")).bind use) := by
    rw [← serve_claim]
    exact .execute desk (some "order") id _ _ rfl trivial
  let waiting := (World.idle .empty).put 0 ⟨.request, .active ((desk.claim (some "order")).bind use)⟩
  have first : Run Faultless (Customer "desk") (.idle .empty) [.began 0] waiting := .step .start (.begin rfl admitted)
  obtain ⟨world, second, _, present, _⟩ := claim_wins waiting 1 desk rfl rfl admitted rfl
  have run := run_widen faultless_atomic (run_append first second)
  obtain ⟨single, stored, _⟩ := exclusive_ownership (fun _ => rfl) run
  have handles : world.Handles 1 "desk/order" := ⟨Answer, id, _, _, present⟩
  have owns := handles_owns handles
  exact ⟨_, world, run, handles, (stored 1 _ owns).1, fun i other => single i 1 _ other owns⟩

end ConfigRegistry.Concurrent
