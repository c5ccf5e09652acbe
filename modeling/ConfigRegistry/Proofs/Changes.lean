import ConfigRegistry.Proofs.Ledger

set_option autoImplicit false

/-!
What one step does to the ownerships and to the records under the namespace. Main statement: a step of disciplined
tasks makes one of six changes, so nothing later looks into the processes again.
-/
namespace ConfigRegistry.Concurrent

open Store (Call Outcome Memory)
open Work (Process Settlement)
open Session (Product)
open Dedup

-- The request and the call behind the event, if it was a write that took effect.
def Event.write? : Event → Option (Nat × Call)
  | .called number role (.create key value) (.ok true) => some (role.origin number, .create key value)
  | .called number role (.put key value) (.ok ()) => some (role.origin number, .put key value)
  | .called number role (.delete key) (.ok _) => some (role.origin number, .delete key)
  | _ => none

def Event.Careless : Event → Prop
  | .lost _ _ => True
  | .called _ (.cleanup _ _) _ (.failed _) => True
  | .called _ (.cleanup _ _) _ (.panicked _) => True
  | _ => False

-- Nothing under the namespace has changed, but perhaps the value of the one key.
def SameBut (scope : String) (key : Option String) (before after : Memory) : Prop :=
  ∀ other, Under scope other → some other ≠ key → after.get? other = before.get? other

def Unwritten (scope : String) (event : Event) : Prop :=
  ∀ origin call, event.write? = some (origin, call) → ¬ Under scope call.key

-- What one step does to the ledger and to the records under the namespace.
inductive Change (scope : String) (events : List Event) (world : World) (held : Nat → Option String) (event : Event)
    (after : World) : (Nat → Option String) → Prop where
  | quiet (same : SameBut scope none world.memory after.memory) (unwritten : Unwritten scope event) :
      Change scope events world held event after held
  | won {number : Nat} {key : String} (happened : event = .called number .request (.create key placeholder) (.ok true))
      (under : Under scope key) (present : ∃ stage, world.tasks number = some ⟨.request, stage⟩)
      (unowning : held number = none)
      (absent : world.memory.get? key = none) (created : after.memory.get? key = some placeholder)
      (same : SameBut scope (some key) world.memory after.memory) :
      Change scope events world held event after (Function.update held number (some key))
  | freed {number : Nat} {role : Role} {key : String} {existed : Bool}
      (happened : event = .called number role (.delete key) (.ok existed)) (owned : held number = some key)
      (removed : after.memory.get? key = none) (same : SameBut scope (some key) world.memory after.memory) :
      Change scope events world held event after (Function.update held number none)
  | kept {number origin : Nat} {key : String} {answer : Answer}
      (happened : event = .called number (.settlement origin) (.put key (keptBytes answer)) (.ok ()))
      (owned : held number = some key) (success : isKept answer.statusCode = true)
      (handed : .handed origin number (Ownership.settlement key answer) ∈ events)
      (stored : after.memory.get? key = some (keptBytes answer))
      (same : SameBut scope (some key) world.memory after.memory) :
      Change scope events world held event after (Function.update held number none)
  | passed {number child : Nat} {key : String} (owned : held number = some key) (idle : world.tasks child = none)
      (heir : ∃ task parent, after.tasks child = some task ∧ world.tasks number = some parent ∧
        task.role.origin child = parent.role.origin number)
      (same : after.memory = world.memory) (unwritten : Unwritten scope event) :
      Change scope events world held event after (Function.update (Function.update held number none) child (some key))
  | forgotten {number : Nat} {key : String} (owned : held number = some key) (careless : event.Careless)
      (same : after.memory = world.memory) (unwritten : Unwritten scope event) :
      Change scope events world held event after (Function.update held number none)

section Steps

variable {scope : String} {events : List Event} {world after : World} {held : Nat → Option String} {number : Nat}
  {role : Role}

theorem same_but_none {scope : String} {before after : Memory} (same : SameBut scope none before after) (key : String)
    (under : Under scope key) : after.get? key = before.get? key := same key under (Option.some_ne_none key)

theorem perform_spared {call : Call} (spares : Spares scope call) (memory : Memory) :
    SameBut scope none memory (memory.perform call).2 := by
  intro key under _
  cases call with
  | get _ => rfl
  | ping => rfl
  | create other value => exact memory.get_perform_other _ fun (same : other = key) => spares (same ▸ under)
  | put other value => exact memory.get_perform_other _ fun (same : other = key) => spares (same ▸ under)
  | delete other => exact memory.get_perform_other _ fun (same : other = key) => spares (same ▸ under)

theorem perform_same_but (memory : Memory) (call : Call) :
    SameBut scope (some call.key) memory (memory.perform call).2 :=
  fun _ _ different => memory.get_perform_other call fun same => different (congrArg some same.symm)

theorem spared_unwritten {call : Call} (spares : Spares scope call) (outcome : Outcome call.Answer) :
    Unwritten scope (.called number role call outcome) := by
  intro origin written event
  cases call with
  | get _ => exact nomatch event
  | ping => exact nomatch event
  | create key value =>
      match outcome with
      | .ok true => cases event; exact spares
      | .ok false | .failed _ | .panicked _ => exact nomatch event
  | put key value =>
      match outcome with
      | .ok () => cases event; exact spares
      | .failed _ | .panicked _ => exact nomatch event
  | delete key =>
      match outcome with
      | .ok _ => cases event; exact spares
      | .failed _ | .panicked _ => exact nomatch event

theorem orderly_keep (orderly : Orderly scope events world held) (memory : Memory) {task : Task} {key : Option String}
    (holds : held number = key) (heeds : TaskHeeds scope events number key task) :
    Orderly scope events (World.put { world with memory } number task) held := by
  have placed := orderly_put orderly memory number heeds
  rwa [← holds, Function.update_eq_self] at placed

theorem unanswered_unwritten {call : Call} {outcome : Outcome call.Answer} (fails : ∀ answer, outcome ≠ .ok answer) :
    Unwritten scope (.called number role call outcome) := by
  intro origin written event
  cases outcome with
  | ok answer => exact absurd rfl (fails answer)
  | failed _ => cases call <;> exact nomatch event
  | panicked _ => cases call <;> exact nomatch event

theorem quiet_change {event : Event} {task : Task} {key : Option String} (orderly : Orderly scope events world held)
    (holds : held number = key) (heeds : TaskHeeds scope events number key task) (unwritten : Unwritten scope event) :
    ∃ ledger, Orderly scope events (world.put number task) ledger ∧
      Change scope events world held event (world.put number task) ledger :=
  ⟨held, orderly_keep orderly world.memory holds heeds, .quiet (fun _ _ _ => rfl) unwritten⟩

theorem create_change {key : String} {guard : Option String} {next : Outcome Bool → Process Product}
    {outcome : Outcome (Call.create key placeholder).Answer} {memory : Memory}
    (orderly : Orderly scope events world held) (unowning : held number = none)
    (present : world.tasks number = some ⟨.request, .active (.ask guard (.create key placeholder) next)⟩)
    (under : Under scope key) (won : Heeds scope Settled (some key) (next (.ok true)))
    (lost : ∀ outcome, outcome ≠ .ok true → Heeds scope Settled none (next outcome))
    (allowed : Atomic world.memory (Call.create key placeholder) outcome memory) :
    ∃ ledger, Orderly scope events (World.put { world with memory } number ⟨.request, .active (next outcome)⟩) ledger ∧
      Change scope events world held (.called number .request (Call.create key placeholder) outcome)
        (World.put { world with memory } number ⟨.request, .active (next outcome)⟩) ledger := by
  cases allowed with
  | failed _ =>
      exact quiet_change orderly unowning (.working (lost _ (by simp)))
        (unanswered_unwritten (by simp))
  | panicked _ =>
      exact quiet_change orderly unowning (.working (lost _ (by simp)))
        (unanswered_unwritten (by simp))
  | answered =>
      by_cases taken : world.memory.contains key = true
      · rw [Memory.perform, if_pos taken]
        refine quiet_change orderly unowning (.working (lost _ (by simp))) fun _ _ event => ?_
        simp [Event.write?] at event
      · have absent : world.memory.get? key = none := by simpa [KeyMap.contains] using taken
        have same : SameBut scope (some key) world.memory _ := perform_same_but world.memory (.create key placeholder)
        rw [Memory.perform, if_neg taken] at same ⊢
        refine ⟨_, orderly_put orderly _ number (.working won), .won rfl under ⟨_, present⟩ unowning absent ?_ same⟩
        exact (KeyMap.get_insert world.memory key placeholder key).trans (if_pos rfl)

theorem delete_change {key : String} (next : Outcome Bool → Task) {outcome : Outcome (Call.delete key).Answer}
    {memory : Memory} (orderly : Orderly scope events world held) (owned : held number = some key)
    (answered : ∀ existed, TaskHeeds scope events number none (next (.ok existed)))
    (others : ∀ outcome, (∀ existed, outcome ≠ .ok existed) → TaskHeeds scope events number (some key) (next outcome))
    (allowed : Atomic world.memory (Call.delete key) outcome memory) :
    ∃ ledger, Orderly scope events (World.put { world with memory } number (next outcome)) ledger ∧
      Change scope events world held (.called number role (Call.delete key) outcome)
        (World.put { world with memory } number (next outcome)) ledger := by
  cases allowed with
  | failed _ =>
      exact quiet_change orderly owned (others _ fun _ same => nomatch same)
        (unanswered_unwritten fun _ same => nomatch same)
  | panicked _ =>
      exact quiet_change orderly owned (others _ fun _ same => nomatch same)
        (unanswered_unwritten fun _ same => nomatch same)
  | answered =>
      exact ⟨_, orderly_put orderly _ number (answered _), .freed rfl owned
        ((KeyMap.get_erase world.memory key key).trans (if_pos rfl)) (perform_same_but world.memory (.delete key))⟩

theorem put_change {origin : Nat} {key : String} {answer : Answer}
    {outcome : Outcome (Call.put key (keptBytes answer)).Answer} {memory : Memory}
    (orderly : Orderly scope events world held) (owned : held number = some key) (under : Under scope key)
    (kept : isKept answer.statusCode = true) (handed : .handed origin number (Ownership.settlement key answer) ∈ events)
    (allowed : Atomic world.memory (Call.put key (keptBytes answer)) outcome memory) :
    ∃ ledger,
      Orderly scope events (World.put { world with memory } number ⟨.settlement origin, .active (stored key outcome)⟩)
        ledger ∧
      Change scope events world held (.called number (.settlement origin) (Call.put key (keptBytes answer)) outcome)
        (World.put { world with memory } number ⟨.settlement origin, .active (stored key outcome)⟩) ledger := by
  cases allowed with
  | failed _ =>
      exact quiet_change orderly owned (.leaving under fun closed => nomatch closed)
        (unanswered_unwritten fun _ same => nomatch same)
  | panicked _ =>
      exact quiet_change orderly owned (.leaving under fun closed => nomatch closed)
        (unanswered_unwritten fun _ same => nomatch same)
  | answered =>
      exact ⟨_, orderly_put orderly _ number (.settled fun closed => nomatch closed), .kept rfl owned kept handed
        ((KeyMap.get_insert world.memory key _ key).trans (if_pos rfl)) (perform_same_but world.memory (.put key _))⟩

theorem call_change {guard : Option String} {call : Call} {next : Outcome call.Answer → Process Product}
    {outcome : Outcome call.Answer} {memory : Memory} (orderly : Orderly scope events world held)
    (present : world.tasks number = some ⟨role, .active (.ask guard call next)⟩)
    (allowed : Atomic world.memory call outcome memory) :
    ∃ ledger, Orderly scope events (World.put { world with memory } number ⟨role, .active (next outcome)⟩) ledger ∧
      Change scope events world held (.called number role call outcome)
        (World.put { world with memory } number ⟨role, .active (next outcome)⟩) ledger := by
  have heeded := orderly.heeded number _ present
  generalize holds : held number = key at heeded
  cases heeded with
  | working heeds =>
      cases heeds with
      | outside spares rest =>
          refine ⟨held, orderly_keep orderly memory holds (.working (rest outcome)), .quiet ?_
            (spared_unwritten spares outcome)⟩
          cases allowed with
          | answered => exact perform_spared spares world.memory
          | failed _ => exact fun _ _ _ => rfl
          | panicked _ => exact fun _ _ _ => rfl
      | create under won lost failed panicked =>
          refine create_change orderly holds present under won ?_ allowed
          intro other different
          match other with
          | .ok true => exact absurd rfl different
          | .ok false => exact lost
          | .failed failure => exact failed failure
          | .panicked message => exact panicked message
      | @delete _ next under answered failed panicked =>
          refine delete_change (fun outcome => ⟨.request, .active (next outcome)⟩) orderly holds
            (fun existed => .working (answered existed)) ?_ allowed
          intro other fails
          cases other with
          | ok existed => exact absurd rfl (fails existed)
          | failed failure => exact .working (failed failure)
          | panicked message => exact .working (panicked message)
  | storing under kept handed => exact put_change orderly holds under kept handed allowed
  | freeing under =>
      refine delete_change (fun outcome => ⟨.settlement _, .active (freed _ outcome)⟩) orderly holds
        (fun existed => .settled fun closed => nomatch closed) ?_ allowed
      intro other fails
      cases other with
      | ok existed => exact absurd rfl (fails existed)
      | failed _ => exact .leaving under fun closed => nomatch closed
      | panicked _ => exact .leaving under fun closed => nomatch closed
  | settled closed => exact absurd rfl closed
  | cleaning under =>
      cases allowed with
      | failed _ =>
          exact ⟨_, orderly_put orderly _ number .cleaned, .forgotten holds trivial rfl
            (unanswered_unwritten fun _ same => nomatch same)⟩
      | panicked _ =>
          exact ⟨_, orderly_put orderly _ number .cleaned, .forgotten holds trivial rfl
            (unanswered_unwritten fun _ same => nomatch same)⟩
      | answered =>
          exact ⟨_, orderly_put orderly _ number .cleaned, .freed rfl holds
            ((KeyMap.get_erase world.memory _ _).trans (if_pos rfl)) (perform_same_but world.memory (.delete _))⟩

theorem hand_over_change {event : Event} {child : Nat} {key : String} {parent rest heir : Task}
    (orderly : Orderly scope events world held) (present : world.tasks number = some parent)
    (owned : held number = some key) (free : world.tasks child = none)
    (remains : TaskHeeds scope events number none rest) (inherits : TaskHeeds scope events child (some key) heir)
    (origin : heir.role.origin child = parent.role.origin number) (unwritten : Unwritten scope event) :
    ∃ ledger, Orderly scope events ((world.put number rest).put child heir) ledger ∧
      Change scope events world held event ((world.put number rest).put child heir) ledger :=
  ⟨_, orderly_put (orderly_put orderly world.memory number remains) world.memory child inherits,
    .passed owned free ⟨heir, parent, World.put_tasks_self _ _ _, present, origin⟩ rfl unwritten⟩

-- Only an owner drops an ownership.
theorem abandon_remains {key : String} {next : Process Product}
    (orderly : Orderly scope events world held)
    (present : world.tasks number = some ⟨role, .active (.abandon key next)⟩) :
    (Under scope key ∧ held number = some key) ∧
      TaskHeeds scope events number none ⟨role, .active next⟩ := by
  have heeded := orderly.heeded number _ present
  generalize holds : held number = key at heeded
  cases heeded with
  | working heeds =>
      cases heeds with
      | abandon under rest => exact ⟨⟨under, rfl⟩, .working rest⟩
  | leaving under closed => exact ⟨⟨under, rfl⟩, .settled closed⟩
  | settled closed => exact absurd rfl closed

theorem step_change {program : Process Product → Prop} {event : Event}
    (disciplined : ∀ process, program process → Heeds scope Settled none process)
    (former : Orderly scope events world held) (step : Step Atomic program world event after) :
    ∃ ledger, Orderly scope (event :: events) after ledger ∧
      Change scope (event :: events) world held event after ledger := by
  have orderly := orderly_later event former
  cases step with
  | begin free admitted =>
      have unowning := orderly.idle _ free
      exact quiet_change orderly unowning (.working (disciplined _ admitted)) fun _ _ event => nomatch event
  | call present allowed => exact call_change orderly present allowed
  | @wait number _ _ _ present =>
      have heeded := orderly.heeded number _ present
      generalize holds : held number = key at heeded
      cases heeded with
      | settled closed => exact absurd rfl closed
      | working heeds =>
          cases heeds with
          | wait rest => exact quiet_change orderly holds (.working rest) fun _ _ event => nomatch event
  | @fresh number _ _ id present =>
      have heeded := orderly.heeded number _ present
      generalize holds : held number = key at heeded
      cases heeded with
      | settled closed => exact absurd rfl closed
      | working heeds =>
          cases heeds with
          | fresh rest => exact quiet_change orderly holds (.working (rest id)) fun _ _ event => nomatch event
  | @start number _ _ present =>
      have heeded := orderly.heeded number _ present
      generalize holds : held number = key at heeded
      cases heeded with
      | settled closed => exact absurd rfl closed
      | working heeds =>
          cases heeds with
          | started rest => exact quiet_change orderly holds (.working rest) fun _ _ event => nomatch event
  | @settle number _ _ _ _ present free =>
      have heeded := orderly.heeded number _ present
      generalize holds : held number = key at heeded
      cases heeded with
      | settled closed => exact absurd rfl closed
      | working heeds =>
          cases heeds with
          | settle under rest =>
              exact hand_over_change orderly present holds free (.settling rest)
                (settlement_heeds _ under List.mem_cons_self) rfl fun _ _ event => nomatch event
  | @abandon number _ _ _ _ present free =>
      obtain ⟨⟨under, holds⟩, remains⟩ := abandon_remains orderly present
      exact hand_over_change orderly present holds free remains (.cleaning under) rfl fun _ _ event => nomatch event
  | @lose number _ _ _ present =>
      obtain ⟨⟨_, holds⟩, remains⟩ := abandon_remains orderly present
      exact ⟨_, orderly_put orderly world.memory number remains,
        .forgotten holds trivial rfl fun _ _ event => nomatch event⟩
  | @resume number _ _ _ _ _ present _ _ =>
      have heeded := orderly.heeded number _ present
      generalize holds : held number = key at heeded
      cases heeded with
      | settling heeds => exact quiet_change orderly holds (.working (heeds _)) fun _ _ event => nomatch event
  | @cancel number stage _ present left =>
      have heeded := orderly.heeded number _ present
      generalize holds : held number = key at heeded
      cases heeded with
      | settling heeds =>
          cases left
          exact quiet_change orderly holds (.working (.done rfl)) fun _ _ event => nomatch event
      | @working _ process heeds =>
          -- Only a process that waits can be cancelled, and there its guard is what it owns.
          have abandons := dropped_heeds heeds
          cases heeds <;> cases left <;>
            exact quiet_change orderly holds (.working abandons) fun _ _ event => nomatch event

end Steps
end ConfigRegistry.Concurrent
