import ConfigRegistry.Proofs.Changes

set_option autoImplicit false

/-!
At most one task owns a key, and what is stored under the key is then the placeholder that its ownership created.
-/
namespace ConfigRegistry.Concurrent

open Store (Call Memory)
open Work (Job Process)
open Session (Product)
open Dedup

-- The last call that wrote the key, with the request behind it.
def lastWrite? (key : String) : List Event → Option (Nat × Call)
  | [] => none
  | event :: earlier =>
      match event.write? with
      | some (origin, call) => if call.key = key then some (origin, call) else lastWrite? key earlier
      | none => lastWrite? key earlier

-- The request whose work a task does.
def World.originOf (world : World) (number : Nat) : Nat :=
  match world.tasks number with
  | some task => task.role.origin number
  | none => number

-- The key holds the placeholder, written last by the request whose ownership the task carries.
structure Marked (scope : String) (events : List Event) (world : World) (number : Nat) (key : String) : Prop where
  under : Under scope key
  stored : world.memory.get? key = some placeholder
  traced : lastWrite? key events = some (world.originOf number, .create key placeholder)

structure Exclusive (scope : String) (events : List Event) (world : World) (held : Nat → Option String) : Prop where
  single : ∀ i j key, held i = some key → held j = some key → i = j
  marked : ∀ i key, held i = some key → Marked scope events world i key

section

variable {scope key : String} {world after : World} {held ledger : Nat → Option String} {events : List Event}
  {event : Event} {conduct : Conduct} {program : Process Product → Prop}

theorem last_write_other {origin : Nat} {call : Call} (written : event.write? = some (origin, call))
    (different : call.key ≠ key) : lastWrite? key (event :: events) = lastWrite? key events := by
  rw [lastWrite?, written]
  exact if_neg different

theorem last_write_unwritten (unwritten : Unwritten scope event) (under : Under scope key) :
    lastWrite? key (event :: events) = lastWrite? key events := by
  cases written : event.write? with
  | none => rw [lastWrite?, written]
  | some write => exact last_write_other written fun same => unwritten write.1 write.2 written (same ▸ under)

theorem last_write_self {origin : Nat} {call : Call} (written : event.write? = some (origin, call)) :
    lastWrite? call.key (event :: events) = some (origin, call) := by
  rw [lastWrite?, written]
  exact if_pos rfl

theorem put_keeps_role {number other : Nat} {role : Role} {task : Task} {stage stage' : Stage}
    (present : world.tasks number = some ⟨role, stage⟩) (found : world.tasks other = some task) :
    ∃ stage, (world.put number ⟨role, stage'⟩).tasks other = some ⟨task.role, stage⟩ := by
  by_cases same : other = number
  · subst other
    cases present.symm.trans found
    exact ⟨stage', World.put_tasks_self _ _ _⟩
  · exact ⟨task.stage, (World.put_tasks_other _ _ _ _ same).trans found⟩

theorem put_keeps_others {number other : Nat} {task added : Task} (free : world.tasks number = none)
    (found : world.tasks other = some task) : (world.put number added).tasks other = some task := by
  have different : other ≠ number := by
    rintro rfl
    exact nomatch free.symm.trans found
  exact (World.put_tasks_other _ _ _ _ different).trans found

theorem put_keeps_free {number child : Nat} {task added : Task} (present : world.tasks number = some task)
    (free : world.tasks child = none) : (world.put number added).tasks child = none := by
  have different : child ≠ number := by
    rintro rfl
    exact nomatch free.symm.trans present
  exact (World.put_tasks_other _ _ _ _ different).trans free

theorem step_keeps_role {other : Nat} {task : Task} (step : Step conduct program world event after)
    (found : world.tasks other = some task) : ∃ stage, after.tasks other = some ⟨task.role, stage⟩ := by
  cases step with
  | begin free _ => exact ⟨task.stage, put_keeps_others free found⟩
  | call present _ =>
      show ∃ stage, (world.put _ _).tasks other = some ⟨task.role, stage⟩
      exact put_keeps_role present found
  | wait present => exact put_keeps_role present found
  | fresh _ present => exact put_keeps_role present found
  | start present => exact put_keeps_role present found
  | settle present free =>
      obtain ⟨stage, kept⟩ := put_keeps_role present found
      exact ⟨stage, put_keeps_others (put_keeps_free present free) kept⟩
  | abandon present free =>
      obtain ⟨stage, kept⟩ := put_keeps_role present found
      exact ⟨stage, put_keeps_others (put_keeps_free present free) kept⟩
  | lose present => exact put_keeps_role present found
  | resume present _ _ => exact put_keeps_role present found
  | cancel present _ => exact put_keeps_role present found

theorem step_keeps_origin {other : Nat} (orderly : Orderly scope events world held)
    (step : Step conduct program world event after) (holds : held other = some key) :
    after.originOf other = world.originOf other := by
  cases found : world.tasks other with
  | none => exact nomatch (orderly.idle other found).symm.trans holds
  | some task =>
      obtain ⟨stage, kept⟩ := step_keeps_role step found
      simp only [World.originOf, found, kept]

theorem mark_unwritten {number : Nat} (marked : Marked scope events world number key)
    (origin : after.originOf number = world.originOf number) (same : SameBut scope none world.memory after.memory)
    (unwritten : Unwritten scope event) : Marked scope (event :: events) after number key where
  under := marked.under
  stored := (same_but_none same key marked.under).trans marked.stored
  traced := by rw [last_write_unwritten unwritten marked.under, origin, marked.traced]

theorem mark_elsewhere {number writer : Nat} {call : Call} {touched : String}
    (marked : Marked scope events world number key) (origin : after.originOf number = world.originOf number)
    (same : SameBut scope (some touched) world.memory after.memory) (written : event.write? = some (writer, call))
    (touches : call.key = touched) (different : key ≠ touched) : Marked scope (event :: events) after number key where
  under := marked.under
  stored := (same key marked.under fun equal => different (Option.some.inj equal)).trans marked.stored
  traced := by rw [last_write_other written fun equal => different (equal.symm.trans touches), origin, marked.traced]

theorem released_held {number i : Nat} (holds : Function.update held number none i = some key) :
    i ≠ number ∧ held i = some key := by
  by_cases same : i = number
  · subst i
    rw [Function.update_self] at holds
    exact nomatch holds
  · exact ⟨same, (Function.update_of_ne same _ _).symm.trans holds⟩

theorem exclusive_release {number : Nat} {earlier : List Event} (exclusive : Exclusive scope earlier world held)
    (marks : ∀ i key, i ≠ number → held i = some key → Marked scope events after i key) :
    Exclusive scope events after (Function.update held number none) where
  single i j key left right := exclusive.single i j key (released_held left).2 (released_held right).2
  marked i key holds := marks i key (released_held holds).1 (released_held holds).2

theorem exclusive_gain {number : Nat} (exclusive : Exclusive scope events world held) (unheld : ∀ i, held i ≠ some key)
    (marked : Marked scope events world number key) :
    Exclusive scope events world (Function.update held number (some key)) := by
  have entry : ∀ i other, Function.update held number (some key) i = some other →
      (i = number ∧ other = key) ∨ (i ≠ number ∧ held i = some other) := by
    intro i other holds
    by_cases same : i = number
    · subst i
      rw [Function.update_self] at holds
      exact .inl ⟨rfl, (Option.some.inj holds).symm⟩
    · exact .inr ⟨same, (Function.update_of_ne same _ _).symm.trans holds⟩
  constructor
  · intro i j other left right
    rcases entry i other left with ⟨hereLeft, equal⟩ | ⟨_, oldLeft⟩
    · rcases entry j other right with ⟨hereRight, _⟩ | ⟨_, oldRight⟩
      · exact hereLeft.trans hereRight.symm
      · exact absurd (equal ▸ oldRight) (unheld j)
    · rcases entry j other right with ⟨_, equal⟩ | ⟨_, oldRight⟩
      · exact absurd (equal ▸ oldLeft) (unheld i)
      · exact exclusive.single i j other oldLeft oldRight
  · intro i other holds
    rcases entry i other holds with ⟨rfl, rfl⟩ | ⟨_, holds⟩
    · exact marked
    · exact exclusive.marked i other holds

theorem exclusive_preserved (orderly : Orderly scope events world held) (exclusive : Exclusive scope events world held)
    (step : Step conduct program world event after)
    (change : Change scope (event :: events) world held event after ledger) :
    Exclusive scope (event :: events) after ledger := by
  have origin : ∀ i key, held i = some key → after.originOf i = world.originOf i := fun i key holds =>
    step_keeps_origin orderly step holds
  cases change with
  | quiet same unwritten =>
      exact ⟨exclusive.single, fun i key holds =>
        mark_unwritten (exclusive.marked i key holds) (origin i key holds) same unwritten⟩
  | @won number key happened under present _ absent created same =>
      -- Nobody owns the key before, for an owned key has a value.
      have unheld : ∀ i, held i ≠ some key := fun i holds =>
        nomatch absent.symm.trans (exclusive.marked i key holds).stored
      have written : event.write? = some (number, .create key placeholder) := by rw [happened]; rfl
      have others : Exclusive scope (event :: events) after held := ⟨exclusive.single, fun i other holds =>
        mark_elsewhere (exclusive.marked i other holds) (origin i other holds) same written rfl
          fun equal => unheld i (equal ▸ holds)⟩
      refine exclusive_gain others unheld ⟨under, created, ?_⟩
      obtain ⟨stage, present⟩ := present
      obtain ⟨stage, kept⟩ := step_keeps_role step present
      rw [World.originOf, kept]
      exact last_write_self written
  | @freed number role key existed happened owned removed same =>
      have written : event.write? = some (role.origin number, .delete key) := by rw [happened]; rfl
      exact exclusive_release exclusive fun i other different holds =>
        mark_elsewhere (exclusive.marked i other holds) (origin i other holds) same written rfl
          fun equal => different (exclusive.single i number key (equal ▸ holds) owned)
  | @kept number origin' key answer happened owned success handed stored same =>
      have written : event.write? = some (origin', .put key (keptBytes answer)) := by rw [happened]; rfl
      exact exclusive_release exclusive fun i other different holds =>
        mark_elsewhere (exclusive.marked i other holds) (origin i other holds) same written rfl
          fun equal => different (exclusive.single i number key (equal ▸ holds) owned)
  | @passed number child key owned idle heir same unwritten =>
      have unchanged : SameBut scope none world.memory after.memory := fun _ _ _ => by rw [same]
      have mark := exclusive.marked number key owned
      have others : Exclusive scope (event :: events) after (Function.update held number none) :=
        exclusive_release exclusive fun i other _ holds =>
          mark_unwritten (exclusive.marked i other holds) (origin i other holds) unchanged unwritten
      refine exclusive_gain others ?_ ⟨mark.under, (congrArg (KeyMap.get? · key) same).trans mark.stored, ?_⟩
      · intro i holds
        exact (released_held holds).1 (exclusive.single i number key (released_held holds).2 owned)
      · obtain ⟨task, parent, found, present, inherited⟩ := heir
        rw [last_write_unwritten unwritten mark.under, mark.traced]
        simp only [World.originOf, found, present, inherited]
  | @forgotten number key owned careless same unwritten =>
      have unchanged : SameBut scope none world.memory after.memory := fun _ _ _ => by rw [same]
      exact exclusive_release exclusive fun i other _ holds =>
        mark_unwritten (exclusive.marked i other holds) (origin i other holds) unchanged unwritten

theorem run_ledger {start : World} (disciplined : ∀ process, program process → Heeds scope Settled none process)
    (idle : ∀ number, start.tasks number = none) (run : Run Atomic program start events world) :
    ∃ held, Orderly scope events world held ∧ Exclusive scope events world held := by
  induction run with
  | start =>
      refine ⟨fun _ => none, ⟨fun number task present => ?_, fun _ _ => rfl⟩, ⟨?_, ?_⟩⟩
      · exact nomatch (idle number).symm.trans present
      · exact fun _ _ _ holds => nomatch holds
      · exact fun _ _ holds => nomatch holds
  | step _ last ih =>
      obtain ⟨held, orderly, exclusive⟩ := ih
      obtain ⟨ledger, after, change⟩ := step_change disciplined orderly last
      exact ⟨ledger, after, exclusive_preserved orderly exclusive last change⟩

end
end ConfigRegistry.Concurrent
