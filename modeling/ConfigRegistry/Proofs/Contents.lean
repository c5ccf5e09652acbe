import ConfigRegistry.Proofs.Exclusive
import ConfigRegistry.Proofs.Records

set_option autoImplicit false

/-!
What lies under the keys of a namespace. Main statements: a key goes from nothing to the placeholder of an owner, and
from there to nothing or to the answer that the owner handed over; an answer that lies there is the only one ever.
-/
namespace ConfigRegistry.Concurrent

open Store (Call)
open Session (Product)
open Dedup

theorem decode_placeholder (key : String) : Record.decode key placeholder = .ok .inProgress :=
  Record.decode_encode key .inProgress

theorem decode_kept (key : String) (answer : Answer) :
    Record.decode key (keptBytes answer) = .ok (.completed answer.statusCode answer.body) :=
  Record.decode_encode key (.completed answer.statusCode answer.body)

theorem kept_not_placeholder (answer : Answer) : keptBytes answer ≠ placeholder := by
  intro same
  have read := decode_kept "" answer
  rw [same, decode_placeholder] at read
  exact nomatch read

-- What a step does to the value of one key, and who must own the key for it.
inductive KeyChange (events : List Event) (world : World) (held : Nat → Option String) (event : Event) (after : World)
    (key : String) : Prop where
  | same (value : after.memory.get? key = world.memory.get? key)
      (unwritten : ∀ origin call, event.write? = some (origin, call) → call.key ≠ key)
  | won (origin : Nat) (written : event.write? = some (origin, .create key placeholder))
      (absent : world.memory.get? key = none) (value : after.memory.get? key = some placeholder)
  | freed (origin : Nat) (written : event.write? = some (origin, .delete key)) (owned : ∃ i, held i = some key)
      (value : after.memory.get? key = none)
  | kept (origin child : Nat) (answer : Answer) (written : event.write? = some (origin, .put key (keptBytes answer)))
      (owned : ∃ i, held i = some key) (success : isKept answer.statusCode = true)
      (handed : .handed origin child (Ownership.settlement key answer) ∈ events)
      (value : after.memory.get? key = some (keptBytes answer))

-- The answers that were stored under a key, with the requests they came from.
def commits (key : String) : List Event → List (Nat × Bytes)
  | [] => []
  | event :: earlier =>
      match event.write? with
      | some (origin, .put other bytes) =>
          if other = key then (origin, bytes) :: commits key earlier else commits key earlier
      | _ => commits key earlier

section

variable {scope key : String} {events : List Event} {start world after : World} {held ledger : Nat → Option String}
  {event : Event}

theorem key_change (under : Under scope key) (change : Change scope events world held event after ledger) :
    KeyChange events world held event after key := by
  cases change with
  | quiet same unwritten =>
      exact .same (same_but_none same key under) fun origin call written equal =>
        unwritten origin call written (equal ▸ under)
  | @won number changed happened _ _ _ absent created same =>
      have written : event.write? = some (number, .create changed placeholder) := by rw [happened]; rfl
      by_cases here : key = changed
      · subst here
        exact .won number written absent created
      · refine .same (same key under fun equal => here (Option.some.inj equal)) fun origin call other equal => ?_
        cases written.symm.trans other
        exact here equal.symm
  | @freed number role changed existed happened owned removed same =>
      have written : event.write? = some (role.origin number, .delete changed) := by rw [happened]; rfl
      by_cases here : key = changed
      · subst here
        exact .freed _ written ⟨number, owned⟩ removed
      · refine .same (same key under fun equal => here (Option.some.inj equal)) fun origin call other equal => ?_
        cases written.symm.trans other
        exact here equal.symm
  | @kept number origin changed answer happened owned success handed stored same =>
      have written : event.write? = some (origin, .put changed (keptBytes answer)) := by rw [happened]; rfl
      by_cases here : key = changed
      · subst here
        exact .kept origin number answer written ⟨number, owned⟩ success handed stored
      · refine .same (same key under fun equal => here (Option.some.inj equal)) fun origin call other equal => ?_
        cases written.symm.trans other
        exact here equal.symm
  | passed _ _ _ same unwritten =>
      exact .same (by rw [same]) fun origin call written equal => unwritten origin call written (equal ▸ under)
  | forgotten _ _ same unwritten =>
      exact .same (by rw [same]) fun origin call written equal => unwritten origin call written (equal ▸ under)

-- Only a placeholder or nothing is ever written over.
theorem answer_stays {bytes : Bytes} (exclusive : Exclusive scope events world held)
    (change : KeyChange (event :: events) world held event after key) (lies : world.memory.get? key = some bytes)
    (answer : bytes ≠ placeholder) : after.memory.get? key = some bytes := by
  have unowned : ¬ ∃ i, held i = some key := by
    rintro ⟨i, holds⟩
    exact answer (Option.some.inj (lies.symm.trans (exclusive.marked i key holds).stored))
  cases change with
  | same value _ => exact value.trans lies
  | won _ _ absent _ => exact nomatch absent.symm.trans lies
  | freed _ _ owned _ => exact absurd owned unowned
  | kept _ _ _ _ owned _ _ _ => exact absurd owned unowned

-- What can lie under a key: what was there at the start, nothing, a placeholder or an answer.
def Known (start world : World) (key : String) : Prop :=
  world.memory.get? key = start.memory.get? key ∨ world.memory.get? key = none ∨
    world.memory.get? key = some placeholder ∨
    ∃ answer : Answer, isKept answer.statusCode = true ∧ world.memory.get? key = some (keptBytes answer)

theorem known_preserved (known : Known start world key) (change : KeyChange events world held event after key) :
    Known start after key := by
  cases change with
  | same value _ =>
      rw [Known, value]
      exact known
  | won _ _ _ value => exact .inr (.inr (.inl value))
  | freed _ _ _ value => exact .inr (.inl value)
  | kept _ _ answer _ _ success _ value => exact .inr (.inr (.inr ⟨answer, success, value⟩))

-- Under a key that was empty at the start lies an answer exactly if it was stored there, once and for good.
inductive Filed (events : List Event) (world : World) (key : String) : Prop where
  | pending (never : commits key events = [])
      (value : world.memory.get? key = none ∨ world.memory.get? key = some placeholder)
  | final (origin child : Nat) (answer : Answer) (success : isKept answer.statusCode = true)
      (handed : .handed origin child (Ownership.settlement key answer) ∈ events)
      (once : commits key events = [(origin, keptBytes answer)])
      (value : world.memory.get? key = some (keptBytes answer))

end
end ConfigRegistry.Concurrent
