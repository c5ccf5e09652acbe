import ConfigRegistry.Proofs.Peer
import ConfigRegistry.Proofs.World

set_option autoImplicit false

/-!
A store behind a database server that carries out each command in one step and whose replies can be lost. Main
statement: a step over it is an atomic one, but for what a call whose reply is lost leaves behind.
-/
namespace ConfigRegistry.Concurrent

open Store (Call Outcome Memory Database Remote.command Remote.commandName Remote.interpret)
open Work (Process)
open Session (Product)

def unreachable (call : Call) (reason : String) : StoreFailure :=
  .unavailable (Remote.commandName call ++ " failed: " ++ reason)

-- A command that is never sent and one whose reply is lost come to the same outcome.
inductive Distant (loses : Call → Prop) (memory : Memory) (call : Call) : Outcome call.Answer → Memory → Prop where
  | answered {database : Database} {answer : call.Answer} {after : Memory} (holds : database.Holds memory)
      (read : Remote.interpret call (database.execute (Remote.command call)).1 = .ok answer)
      (kept : (database.execute (Remote.command call)).2.Holds after) : Distant loses memory call (.ok answer) after
  | lost {database : Database} {after : Memory} (reason : String) (may : loses call) (holds : database.Holds memory)
      (kept : (database.execute (Remote.command call)).2.Holds after) :
      Distant loses memory call (.failed (unreachable call reason)) after
  | unsent (reason : String) : Distant loses memory call (.failed (unreachable call reason)) memory

section Server

variable {loses : Call → Prop} {memory after : Memory} {call : Call} {outcome : Outcome call.Answer}

theorem distant_cases (allowed : Distant loses memory call outcome after) :
    Atomic memory call outcome after ∨
      (loses call ∧ (∃ failure, outcome = .failed failure) ∧ after = (memory.perform call).2) := by
  cases allowed with
  | answered holds read kept =>
      obtain ⟨reply, left⟩ := Database.command_performs holds call
      obtain rfl := Database.holds_unique kept left
      cases reply.symm.trans read
      exact .inl .answered
  | lost reason may holds kept =>
      obtain ⟨_, left⟩ := Database.command_performs holds call
      obtain rfl := Database.holds_unique kept left
      exact .inr ⟨may, ⟨_, rfl⟩, rfl⟩
  | unsent reason => exact .inl (.failed _)

theorem faultless_distant (loses : Call → Prop) (memory : Memory) (call : Call) (outcome : Outcome call.Answer)
    (after : Memory) (allowed : Faultless memory call outcome after) : Distant loses memory call outcome after := by
  cases allowed with
  | answered =>
      have holds := Database.holds_of_memory memory
      obtain ⟨reply, left⟩ := Database.command_performs holds call
      exact .answered holds reply left

theorem lost_distant {loses : Call → Prop} (may : loses call) (memory : Memory) (reason : String) :
    Distant loses memory call (.failed (unreachable call reason)) (memory.perform call).2 := by
  have holds := Database.holds_of_memory memory
  obtain ⟨_, left⟩ := Database.command_performs holds call
  exact .lost reason may holds left

end Server

section Steps

variable {loses : Call → Prop} {program : Process Product → Prop} {world after : World} {event : Event}

-- A step whose reply is lost is one that fails, after which the memory is as the call leaves it.
theorem distant_step (step : Step (Distant loses) program world event after) :
    Step Atomic program world event after ∨
      ∃ (number : Nat) (role : Role) (call : Call) (failure : StoreFailure) (middle : World),
        event = .called number role call (.failed failure) ∧ loses call ∧
          Step Atomic program world event middle ∧ middle.memory = world.memory ∧
          after = { middle with memory := (world.memory.perform call).2 } := by
  cases step with
  | begin free admitted => exact .inl (.begin free admitted)
  | @call number role guard call next outcome memory present allowed =>
      rcases distant_cases allowed with atomic | ⟨may, ⟨failure, rfl⟩, rfl⟩
      · exact .inl (.call present atomic)
      · exact .inr ⟨number, role, call, failure, _, rfl, may, .call present (.failed failure), rfl, rfl⟩
  | wait present => exact .inl (.wait present)
  | fresh id present => exact .inl (.fresh id present)
  | start present => exact .inl (.start present)
  | settle present free => exact .inl (.settle present free)
  | abandon present free => exact .inl (.abandon present free)
  | lose present => exact .inl (.lose present)
  | resume present ended ending => exact .inl (.resume present ended ending)
  | cancel present left => exact .inl (.cancel present left)

end Steps

end ConfigRegistry.Concurrent
