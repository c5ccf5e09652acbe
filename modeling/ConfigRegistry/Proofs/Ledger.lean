import Mathlib.Logic.Function.Basic
import ConfigRegistry.Proofs.Discipline

set_option autoImplicit false

/-!
Who owns which key. Main statement: what the place of a task shows of its ownership is what its discipline says.
-/
namespace ConfigRegistry.Concurrent

open Store (Memory Outcome)
open Work (Process)
open Session (Product)
open Dedup

section Owning

variable {ρ : Type}

-- Whether the process holds the ownership of the key at its present place.
def ProcessOwns (key : String) : Process ρ → Prop
  | .done _ => False
  | .crash _ => False
  | .ask guard _ _ => guard = some key
  | .wait guard _ => guard = some key
  | .fresh next => ∃ id, ProcessOwns key (next id)
  | .started next => ProcessOwns key next
  | .settle settlement _ => settlement.key = key
  | .abandon abandoned _ => abandoned = key

-- A deferred deletion counts as the ownership that it cleans up after, until it has been tried.
def Task.Owns (key : String) (task : Task) : Prop :=
  match task.stage with
  | .settling _ _ => False
  | .active process =>
      match task.role with
      | .cleanup _ abandoned => abandoned = key ∧ task.stage.outcome? = none
      | _ => ProcessOwns key process

def World.Owns (world : World) (number : Nat) (key : String) : Prop :=
  ∃ task, world.tasks number = some task ∧ task.Owns key

theorem heeds_owns {scope key : String} {post : Option String → ρ → Prop} {held : Option String}
    {process : Process ρ} (heeds : Heeds scope post held process) (owns : ProcessOwns key process) :
    held = some key := by
  induction heeds with
  | done _ => exact owns.elim
  | crash _ => exact owns.elim
  | outside _ _ _ => exact owns
  | create _ _ _ _ _ => exact owns
  | delete _ _ _ _ => exact owns
  | wait _ _ => exact owns
  | fresh _ ih =>
      obtain ⟨id, owns⟩ := owns
      exact ih id owns
  | started _ ih => exact ih owns
  | settle _ _ _ => exact congrArg some owns
  | abandon _ _ _ => exact congrArg some owns

theorem owns_heeds {scope key : String} {held : Option String} {process : Process ρ}
    (heeds : Heeds scope Settled held process) (holds : held = some key) : ProcessOwns key process := by
  induction heeds with
  | done settled => exact nomatch settled.symm.trans holds
  | crash _ => exact nomatch holds
  | outside _ _ _ => exact holds
  | create _ _ _ _ _ => exact nomatch holds
  | delete _ _ _ _ => exact holds
  | wait _ _ => exact holds
  | fresh _ ih => exact ⟨"", ih "" holds⟩
  | started _ ih => exact ih holds
  | settle _ _ _ => exact Option.some.inj holds
  | abandon _ _ _ => exact Option.some.inj holds

theorem heeds_under {scope key : String} {held : Option String} {process : Process ρ}
    (heeds : Heeds scope Settled held process) (holds : held = some key) : Under scope key := by
  induction heeds with
  | done settled => exact nomatch settled.symm.trans holds
  | crash _ => exact nomatch holds
  | outside _ _ ih => exact ih (.panicked "") holds
  | create _ _ _ _ _ => exact nomatch holds
  | delete under _ _ _ => exact Option.some.inj holds ▸ under
  | wait _ ih => exact ih holds
  | fresh _ ih => exact ih "" holds
  | started _ ih => exact ih holds
  | settle under _ _ => exact Option.some.inj holds ▸ under
  | abandon under _ _ => exact Option.some.inj holds ▸ under

theorem dropped_heeds {scope : String} {held : Option String} {process : Process ρ}
    (heeds : Heeds scope Settled held process) : Heeds scope Settled held (dropped held) := by
  cases held with
  | none => exact .done rfl
  | some key => exact .abandon (heeds_under heeds rfl) (.done rfl)

end Owning

-- What the task of a settlement does after its write.
def stored (key : String) : Outcome Unit → Process Product
  | .ok _ => .done (.verdict (.ok ()))
  | .failed failure => .abandon key (.done (.verdict (.error failure)))
  | .panicked message => .abandon key (.crash message)

def freed (key : String) : Outcome Bool → Process Product
  | .ok _ => .done (.verdict (.ok ()))
  | .failed failure => .abandon key (.done (.verdict (.error failure)))
  | .panicked message => .abandon key (.crash message)

theorem settlement_stores (key : String) {answer : Answer} (kept : isKept answer.statusCode = true) :
    settlementProcess (Ownership.settlement key answer) =
      .ask (some key) (.put key (keptBytes answer)) (stored key) := by
  rw [settlementProcess, Ownership.settlement, if_pos kept]
  refine congrArg (Process.ask (some key) (.put key (keptBytes answer))) (funext fun outcome => ?_)
  cases outcome <;> rfl

theorem settlement_frees (key : String) {answer : Answer} (other : ¬ isKept answer.statusCode = true) :
    settlementProcess (Ownership.settlement key answer) = .ask (some key) (.delete key) (freed key) := by
  rw [settlementProcess, Ownership.settlement, if_neg other]
  refine congrArg (Process.ask (some key) (.delete key)) (funext fun outcome => ?_)
  cases outcome <;> rfl

-- The places at which a task can be, with the key that it owns there. Only the task of a settlement stores an answer,
-- and it was handed the settlement by the request; a cleanup owns its key until its deletion has been tried.
inductive TaskHeeds (scope : String) (events : List Event) (number : Nat) : Option String → Task → Prop where
  | working {held : Option String} {process : Process Product} (heeds : Heeds scope Settled held process) :
      TaskHeeds scope events number held ⟨.request, .active process⟩
  | settling {child : Nat} {next : Except StoreFailure Unit → Process Product}
      (heeds : ∀ verdict, Heeds scope Settled none (next verdict)) :
      TaskHeeds scope events number none ⟨.request, .settling child next⟩
  | storing {origin : Nat} {key : String} {answer : Answer} (under : Under scope key)
      (kept : isKept answer.statusCode = true)
      (handed : .handed origin number (Ownership.settlement key answer) ∈ events) :
      TaskHeeds scope events number (some key)
        ⟨.settlement origin, .active (.ask (some key) (.put key (keptBytes answer)) (stored key))⟩
  | freeing {origin : Nat} {key : String} (under : Under scope key) :
      TaskHeeds scope events number (some key)
        ⟨.settlement origin, .active (.ask (some key) (.delete key) (freed key))⟩
  | leaving {origin : Nat} {key : String} {ending : Process Product} (under : Under scope key)
      (closed : (Stage.active ending).outcome? ≠ none) :
      TaskHeeds scope events number (some key) ⟨.settlement origin, .active (.abandon key ending)⟩
  | settled {origin : Nat} {ending : Process Product} (closed : (Stage.active ending).outcome? ≠ none) :
      TaskHeeds scope events number none ⟨.settlement origin, .active ending⟩
  | cleaning {origin : Nat} {key : String} (under : Under scope key) :
      TaskHeeds scope events number (some key)
        ⟨.cleanup origin key, .active (.ask none (.delete key) fun _ => .done .nothing)⟩
  | cleaned {origin : Nat} {key : String} :
      TaskHeeds scope events number none ⟨.cleanup origin key, .active (.done .nothing)⟩

theorem ended_owns_nothing {key : String} {process : Process Product}
    (closed : (Stage.active process).outcome? ≠ none) : ¬ ProcessOwns key process := by
  cases process with
  | done _ => exact id
  | crash _ => exact id
  | _ => exact absurd rfl closed

theorem task_owns_iff {scope key : String} {events : List Event} {number : Nat} {held : Option String} {task : Task}
    (heeds : TaskHeeds scope events number held task) : task.Owns key ↔ held = some key := by
  cases heeds with
  | working heeds => exact ⟨heeds_owns heeds, owns_heeds heeds⟩
  | settling _ => exact ⟨False.elim, fun holds => nomatch holds⟩
  | storing _ _ _ => exact Iff.rfl
  | freeing _ => exact Iff.rfl
  | leaving _ _ => exact ⟨congrArg some, Option.some.inj⟩
  | settled closed => exact ⟨fun owns => (ended_owns_nothing closed owns).elim, fun holds => nomatch holds⟩
  | cleaning _ => exact ⟨fun owns => congrArg some owns.1, fun holds => ⟨Option.some.inj holds, rfl⟩⟩
  | cleaned => exact ⟨fun owns => (nomatch owns.2), fun holds => nomatch holds⟩

theorem task_heeds_later {scope : String} {events : List Event} {number : Nat} {held : Option String} {task : Task}
    (event : Event) (heeds : TaskHeeds scope events number held task) :
    TaskHeeds scope (event :: events) number held task := by
  cases heeds with
  | working heeds => exact .working heeds
  | settling heeds => exact .settling heeds
  | storing under kept handed => exact .storing under kept (List.mem_cons_of_mem _ handed)
  | freeing under => exact .freeing under
  | leaving under closed => exact .leaving under closed
  | settled closed => exact .settled closed
  | cleaning under => exact .cleaning under
  | cleaned => exact .cleaned

theorem settlement_heeds {scope key : String} {events : List Event} {origin child : Nat} (answer : Answer)
    (under : Under scope key) (handed : .handed origin child (Ownership.settlement key answer) ∈ events) :
    TaskHeeds scope events child (some key)
      ⟨.settlement origin, .active (settlementProcess (Ownership.settlement key answer))⟩ := by
  by_cases kept : isKept answer.statusCode = true
  · rw [settlement_stores key kept]
    exact .storing under kept handed
  · rw [settlement_frees key kept]
    exact .freeing under

-- The ledger of a world: for each task the key that it owns.
structure Orderly (scope : String) (events : List Event) (world : World) (held : Nat → Option String) : Prop where
  heeded : ∀ number task, world.tasks number = some task → TaskHeeds scope events number (held number) task
  idle : ∀ number, world.tasks number = none → held number = none

section Ledger

variable {scope : String} {events : List Event} {world : World} {held : Nat → Option String}

theorem owns_iff_held (orderly : Orderly scope events world held) (number : Nat) (key : String) :
    world.Owns number key ↔ held number = some key := by
  constructor
  · rintro ⟨task, present, owns⟩
    exact (task_owns_iff (orderly.heeded number task present)).mp owns
  · intro holds
    cases present : world.tasks number with
    | none => exact nomatch (orderly.idle number present).symm.trans holds
    | some task => exact ⟨task, present, (task_owns_iff (orderly.heeded number task present)).mpr holds⟩

theorem orderly_later (event : Event) (orderly : Orderly scope events world held) :
    Orderly scope (event :: events) world held :=
  ⟨fun number task present => task_heeds_later event (orderly.heeded number task present), orderly.idle⟩

theorem orderly_put (orderly : Orderly scope events world held) (memory : Memory) (number : Nat) {task : Task}
    {key : Option String} (heeds : TaskHeeds scope events number key task) :
    Orderly scope events (World.put { world with memory } number task) (Function.update held number key) := by
  constructor
  · intro other found present
    by_cases same : other = number
    · subst other
      rw [World.put_tasks_self] at present
      cases present
      rwa [Function.update_self]
    · rw [World.put_tasks_other _ _ _ _ same] at present
      rw [Function.update_of_ne same]
      exact orderly.heeded other found present
  · intro other absent
    by_cases same : other = number
    · subst other
      rw [World.put_tasks_self] at absent
      exact nomatch absent
    · rw [World.put_tasks_other _ _ _ _ same] at absent
      rw [Function.update_of_ne same]
      exact orderly.idle other absent

end Ledger

end ConfigRegistry.Concurrent
