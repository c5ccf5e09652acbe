import ConfigRegistry.Proofs.Exclusive

set_option autoImplicit false

/-!
Which request has written what lies under a key, told from the records and not from the replies that tasks hear. Main
statement: a step of disciplined tasks leaves every owner the author of what lies under its key.
-/
namespace ConfigRegistry.Concurrent

open Store (Memory)
open Work (Process)
open Session (Product)

-- The request behind a call.
def Event.caller? : Event → Option Nat
  | .called number role _ _ => some (role.origin number)
  | _ => none

abbrev Authors := String → Option Nat

-- The request that last changed what lies under each key, told from the records and not from the replies.
def signed (event : Event) (before after : Memory) (authors : Authors) : Authors := fun key =>
  if after.get? key = before.get? key then authors key else event.caller?

inductive SignedRun (conduct : Conduct) (program : Process Product → Prop) (start : World) :
    List Event → World → Authors → Prop where
  | start : SignedRun conduct program start [] start fun _ => none
  | step {events : List Event} {world after : World} {authors : Authors} {event : Event}
      (earlier : SignedRun conduct program start events world authors)
      (last : Step conduct program world event after) :
      SignedRun conduct program start (event :: events) after (signed event world.memory after.memory authors)

-- Who owns a key has written what lies under it.
def Authored (authors : Authors) (world : World) (held : Nat → Option String) : Prop :=
  ∀ i key, held i = some key → authors key = some (world.originOf i)

section Authors

variable {scope key : String} {conduct : Conduct} {program : Process Product → Prop} {start world after : World}
  {held ledger : Nat → Option String} {authors : Authors} {events : List Event} {event : Event}

theorem run_signed (run : Run conduct program start events world) :
    ∃ authors, SignedRun conduct program start events world authors := by
  induction run with
  | start => exact ⟨_, .start⟩
  | step _ last ih =>
      obtain ⟨authors, earlier⟩ := ih
      exact ⟨_, .step earlier last⟩

theorem signed_same {before after : Memory} (same : after.get? key = before.get? key) :
    signed event before after authors key = authors key := if_pos same

theorem authored_preserved (orderly : Orderly scope events world held) (exclusive : Exclusive scope events world held)
    (authored : Authored authors world held) (step : Step conduct program world event after)
    (change : Change scope (event :: events) world held event after ledger) :
    Authored (signed event world.memory after.memory authors) after ledger := by
  have stays : ∀ i key, held i = some key → after.memory.get? key = world.memory.get? key →
      signed event world.memory after.memory authors key = some (after.originOf i) := by
    intro i key holds same
    rw [signed_same same, step_keeps_origin orderly step holds]
    exact authored i key holds
  have elsewhere : ∀ {number key}, held number = some key → SameBut scope (some key) world.memory after.memory →
      Authored (signed event world.memory after.memory authors) after (Function.update held number none) := by
    intro number key owned same i other holds
    obtain ⟨different, holds⟩ := released_held holds
    refine stays i other holds (same other (exclusive.marked i other holds).under fun equal => different ?_)
    cases equal
    exact exclusive.single i number key holds owned
  cases change with
  | quiet same unwritten =>
      exact fun i key holds => stays i key holds (same_but_none same key (exclusive.marked i key holds).under)
  | @won number key happened under present unowning absent created same =>
      intro i other holds
      by_cases new : i = number
      · subst new
        rw [Function.update_self] at holds
        cases holds
        obtain ⟨stage, present⟩ := present
        obtain ⟨stage, kept⟩ := step_keeps_role step present
        have changed : after.memory.get? key ≠ world.memory.get? key := by
          rw [absent, created]
          exact Option.some_ne_none _
        rw [signed, if_neg changed, happened, World.originOf, kept]
        rfl
      · rw [Function.update_of_ne new] at holds
        have mark := exclusive.marked i other holds
        refine stays i other holds (same other mark.under ?_)
        rintro ⟨⟩
        exact absurd (absent.symm.trans mark.stored) (Option.some_ne_none _).symm
  | freed happened owned removed same => exact elsewhere owned same
  | kept happened owned success handed stored same => exact elsewhere owned same
  | @passed number child key owned idle heir same unwritten =>
      intro i other holds
      by_cases new : i = child
      · subst new
        rw [Function.update_self] at holds
        cases holds
        obtain ⟨task, parent, found, present, inherited⟩ := heir
        rw [signed_same (by rw [same]), authored number key owned]
        simp only [World.originOf, found, present, inherited]
      · rw [Function.update_of_ne new] at holds
        exact stays i other (released_held holds).2 (by rw [same])
  | forgotten owned careless same unwritten =>
      exact fun i other holds => stays i other (released_held holds).2 (by rw [same])

end Authors

end ConfigRegistry.Concurrent
