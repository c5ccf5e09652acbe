import ConfigRegistry.Proofs.Requests

set_option autoImplicit false

/-!
Orders of steps that a scheduler can choose when no call fails: a claim that wins its key, and an owner whose answer
is stored. Main statement: a request that is left alone wins a key where nothing lies, and in no other way.
-/
namespace ConfigRegistry.Concurrent

open Store (Call)
open Work (Process)
open Session (Product)
open Dedup

-- Where no record lies under the key and nobody comes in between, the claim wins.
theorem claim_wins {program : Process Product → Prop} (world : World) (number : Nat) (desk : Desk) {key : String}
    {use : Except StoreFailure Claim → Process Product} (keyed : key.isEmpty = false)
    (free : world.tasks number = none) (admitted : program ((desk.claim (some key)).bind use))
    (absent : world.memory.get? (desk.storeKey key) = none) :
    ∃ after, Run Faultless program world
        [.called number .request (.create (desk.storeKey key) placeholder) (.ok true),
          .called number .request (.get (desk.storeKey key)) (.ok none), .began number] after ∧
      after.memory = world.memory.insert (desk.storeKey key) placeholder ∧
      after.tasks number = some ⟨.request, .active (use (.ok (.owned (desk.storeKey key))))⟩ ∧
      ∀ other, other ≠ number → after.tasks other = world.tasks other := by
  have claimed := claim_keyed desk keyed
  have begun : Run Faultless program world [.began number]
      (world.put number ⟨.request, .active ((desk.claim (some key)).bind use)⟩) := .step .start (.begin free admitted)
  rw [claimed] at begun
  have look : Faultless world.memory (.get (desk.storeKey key)) (.ok none) world.memory := by
    have reply : Faultless world.memory (.get (desk.storeKey key)) (.ok (world.memory.get? (desk.storeKey key)))
      world.memory := .answered
    rwa [absent] at reply
  have looked := Run.step begun (.call (World.put_tasks_self _ _ _) look)
  have win : Faultless world.memory (.create (desk.storeKey key) placeholder) (.ok true)
      (world.memory.insert (desk.storeKey key) placeholder) := by
    have created : world.memory.perform (.create (desk.storeKey key) placeholder) =
        (true, world.memory.insert (desk.storeKey key) placeholder) :=
      if_neg (by simp [KeyMap.contains, absent])
    have reply : Faultless world.memory (.create (desk.storeKey key) placeholder) _ _ := .answered
    rwa [created] at reply
  refine ⟨_, .step looked (.call (World.put_tasks_self _ _ _) win), rfl, World.put_tasks_self _ _ _, ?_⟩
  intro other different
  simp only [World.put, if_neg different]

def Event.actor : Event → Nat
  | .began number => number
  | .called number _ _ _ => number
  | .moved number => number
  | .started number => number
  | .handed number _ _ => number
  | .deferred number _ _ => number
  | .lost number _ => number
  | .resumed number _ => number
  | .cancelled number => number

-- What becomes of the world when a task takes a step, by the place where the task stands.
def Stage.Moves (conduct : Conduct) (world : World) (number : Nat) (role : Role) (after : World) : Stage → Prop
  | .active (.ask _ call next) => ∃ outcome memory, conduct world.memory call outcome memory ∧
      after = World.put { world with memory } number ⟨role, .active (next outcome)⟩
  | .active (.wait _ next) | .active (.started next) => after = world.put number ⟨role, .active next⟩
  | .active (.fresh next) => ∃ id, after = world.put number ⟨role, .active (next id)⟩
  | .active (.settle settlement next) => ∃ child, world.tasks child = none ∧
      after = (world.put number ⟨role, .settling child next⟩).put child
        ⟨.settlement (role.origin number), .active (settlementProcess settlement)⟩
  | .active (.abandon key next) => after = world.put number ⟨role, .active next⟩ ∨ ∃ child, world.tasks child = none ∧
      after = (world.put number ⟨role, .active next⟩).put child
        ⟨.cleanup (role.origin number) key, .active (cleanupProcess key)⟩
  | .settling child next => ∃ task outcome, world.tasks child = some task ∧ task.stage.outcome? = some outcome ∧
      after = world.put number ⟨role, .active (next (verdictOf child outcome))⟩
  | .active (.done _) | .active (.crash _) => False

-- What becomes of a task that takes a step, and what the step is called.
def Does (conduct : Conduct) (world : World) (number : Nat) (role : Role) (event : Event) (after : World) :
    Process Product → Prop
  | .ask _ call next => ∃ outcome memory, conduct world.memory call outcome memory ∧
      event = .called number role call outcome ∧
      after = World.put { world with memory } number ⟨role, .active (next outcome)⟩
  | .wait _ next => event = .moved number ∧ after = world.put number ⟨role, .active next⟩
  | .fresh next => ∃ id, event = .moved number ∧ after = world.put number ⟨role, .active (next id)⟩
  | .started next => event = .started number ∧ after = world.put number ⟨role, .active next⟩
  | _ => True

-- No request begins but this one.
def Only (process other : Process Product) : Prop := other = process

-- Nobody but the one request takes a step, and nobody cancels it.
def Undisturbed (number : Nat) (events : List Event) : Prop :=
  ∀ event ∈ events, event.actor = number ∧ event ≠ .cancelled number

section Alone

variable {conduct : Conduct} {program : Process Product → Prop} {world after : World} {event : Event} {number : Nat}

theorem begin_alone (free : world.tasks number = none) (step : Step conduct program world event after)
    (actor : event.actor = number) :
    ∃ process, program process ∧ after = world.put number ⟨.request, .active process⟩ := by
  subst actor
  cases step with
  | begin _ admitted => exact ⟨_, admitted, rfl⟩
  | call present _ => exact nomatch free.symm.trans present
  | wait present => exact nomatch free.symm.trans present
  | fresh _ present => exact nomatch free.symm.trans present
  | start present => exact nomatch free.symm.trans present
  | settle present _ => exact nomatch free.symm.trans present
  | abandon present _ => exact nomatch free.symm.trans present
  | lose present => exact nomatch free.symm.trans present
  | resume present _ _ => exact nomatch free.symm.trans present
  | cancel present _ => exact nomatch free.symm.trans present

theorem step_moves {role : Role} {stage : Stage} (present : world.tasks number = some ⟨role, stage⟩)
    (step : Step conduct program world event after) (actor : event.actor = number)
    (uncancelled : event ≠ .cancelled number) : stage.Moves conduct world number role after := by
  subst actor
  cases step with
  | begin free _ => exact nomatch free.symm.trans present
  | call asks allowed =>
      cases present.symm.trans asks
      exact ⟨_, _, allowed, rfl⟩
  | wait waits =>
      cases present.symm.trans waits
      exact rfl
  | fresh id asks =>
      cases present.symm.trans asks
      exact ⟨id, rfl⟩
  | start starts =>
      cases present.symm.trans starts
      exact rfl
  | settle settles free =>
      cases present.symm.trans settles
      exact ⟨_, free, rfl⟩
  | abandon abandons free =>
      cases present.symm.trans abandons
      exact .inr ⟨_, free, rfl⟩
  | lose abandons =>
      cases present.symm.trans abandons
      exact .inl rfl
  | resume waits ended ending =>
      cases present.symm.trans waits
      exact ⟨_, _, ended, ending, rfl⟩
  | cancel _ _ => exact absurd rfl uncancelled

theorem step_does {role : Role} {process : Process Product}
    (present : world.tasks number = some ⟨role, .active process⟩) (step : Step conduct program world event after)
    (actor : event.actor = number) (uncancelled : event ≠ .cancelled number) :
    Does conduct world number role event after process := by
  subst actor
  cases step with
  | begin free _ => exact nomatch free.symm.trans present
  | call asks allowed =>
      cases present.symm.trans asks
      exact ⟨_, _, allowed, rfl, rfl⟩
  | wait waits =>
      cases present.symm.trans waits
      exact ⟨rfl, rfl⟩
  | fresh id asks =>
      cases present.symm.trans asks
      exact ⟨id, rfl, rfl⟩
  | start starts =>
      cases present.symm.trans starts
      exact ⟨rfl, rfl⟩
  | settle settles _ =>
      cases present.symm.trans settles
      trivial
  | abandon abandons _ =>
      cases present.symm.trans abandons
      trivial
  | lose abandons =>
      cases present.symm.trans abandons
      trivial
  | resume waits _ _ => exact nomatch present.symm.trans waits
  | cancel _ _ => exact absurd rfl uncancelled

theorem start_alone {role : Role} {next : Process Product}
    (starts : world.tasks number = some ⟨role, .active (.started next)⟩)
    (step : Step conduct program world event after) (actor : event.actor = number)
    (uncancelled : event ≠ .cancelled number) :
    event = .started number ∧ after.tasks number = some ⟨role, .active next⟩ := by
  obtain ⟨same, rfl⟩ := step_does starts step actor uncancelled
  exact ⟨same, World.put_tasks_self _ _ _⟩

theorem ask_alone {role : Role} {guard : Option String} {call : Call}
    {next : Store.Outcome call.Answer → Process Product}
    (asks : world.tasks number = some ⟨role, .active (.ask guard call next)⟩)
    (step : Step Faultless program world event after) (actor : event.actor = number)
    (uncancelled : event ≠ .cancelled number) :
    after = World.put { world with memory := (world.memory.perform call).2 } number
      ⟨role, .active (next (.ok (world.memory.perform call).1))⟩ := by
  obtain ⟨outcome, memory, allowed, rfl⟩ := step_moves asks step actor uncancelled
  cases allowed with
  | answered => rfl

theorem claim_alone {events : List Event} {desk : Desk} {key : String}
    {use : Except StoreFailure Claim → Process Product} (keyed : key.isEmpty = false)
    (free : world.tasks number = none) (absent : world.memory.get? (desk.storeKey key) = none)
    (run : Run Faultless (Only ((desk.claim (some key)).bind use)) world events after)
    (undisturbed : Undisturbed number events) (three : events.length = 3) :
    after.tasks number = some ⟨.request, .active (use (.ok (.owned (desk.storeKey key))))⟩ := by
  match events, run, undisturbed, three with
  | [third, second, first], .step (.step (.step .start begins) looks) creates, undisturbed, _ =>
      have alone := fun event found => undisturbed event found
      obtain ⟨process, rfl, rfl⟩ := begin_alone free begins (alone first (by simp)).1
      rw [claim_keyed desk keyed] at looks
      have looked := ask_alone (World.put_tasks_self _ _ _) looks (alone second (by simp)).1 (alone second (by simp)).2
      have found : world.memory.perform (.get (desk.storeKey key)) = (none, world.memory) :=
        congrArg (·, world.memory) absent
      simp only [World.put_memory, found] at looked
      subst looked
      have won := ask_alone (World.put_tasks_self _ _ _) creates (alone third (by simp)).1 (alone third (by simp)).2
      have created : world.memory.perform (.create (desk.storeKey key) placeholder) =
          (true, world.memory.insert (desk.storeKey key) placeholder) :=
        if_neg (by simp [KeyMap.contains, absent])
      simp only [World.put_memory, created] at won
      subst won
      exact World.put_tasks_self _ _ _

end Alone

-- The task of the settlement stores the answer, and the owner hears of it.
theorem owner_stores (program : Process Product → Prop) {world : World} {number child : Nat} {role : Role}
    {key : String} {answer : Answer} {next : Except StoreFailure Unit → Process Product}
    (kept : isKept answer.statusCode = true)
    (present : world.tasks number = some ⟨role, .active (.settle (Ownership.settlement key answer) next)⟩)
    (free : world.tasks child = none) :
    ∃ after, Run Faultless program world
        [.resumed number child,
          .called child (.settlement (role.origin number)) (.put key (keptBytes answer)) (.ok ()),
          .handed number child (Ownership.settlement key answer)] after ∧
      after.memory = world.memory.insert key (keptBytes answer) ∧
      after.tasks number = some ⟨role, .active (next (.ok ()))⟩ ∧
      ∀ other, other ≠ number → other ≠ child → after.tasks other = world.tasks other := by
  have different : number ≠ child := by
    rintro rfl
    exact nomatch free.symm.trans present
  have handed : Run Faultless program world [.handed number child (Ownership.settlement key answer)]
      ((world.put number ⟨role, .settling child next⟩).put child ⟨.settlement (role.origin number),
        .active (settlementProcess (Ownership.settlement key answer))⟩) := .step .start (.settle present free)
  rw [settlement_stores key kept] at handed
  obtain ⟨middle, stored, memory, waits, ended, others⟩ : ∃ middle,
      Run Faultless program world
        [.called child (.settlement (role.origin number)) (.put key (keptBytes answer)) (.ok ()),
          .handed number child (Ownership.settlement key answer)] middle ∧
      middle.memory = world.memory.insert key (keptBytes answer) ∧
      middle.tasks number = some ⟨role, .settling child next⟩ ∧
      middle.tasks child = some ⟨.settlement (role.origin number), .active (.done (.verdict (.ok ())))⟩ ∧
      ∀ other, other ≠ number → other ≠ child → middle.tasks other = world.tasks other := by
    refine ⟨_, .step handed (.call (World.put_tasks_self _ _ _) .answered), rfl, ?_, World.put_tasks_self _ _ _, ?_⟩
    · simp only [World.put, if_neg different, if_true]
    · intro other notOwner notChild
      simp only [World.put, if_neg notOwner, if_neg notChild]
  refine ⟨_, .step stored (.resume waits ended rfl), memory, World.put_tasks_self _ _ _, ?_⟩
  intro other notOwner notChild
  exact (World.put_tasks_other _ _ _ _ notOwner).trans (others other notOwner notChild)

-- An owner is cancelled while it waits, and a task of its own deletes its record.
theorem cancelled_cleans (program : Process Product → Prop) {world : World} {number child : Nat} {key : String}
    {next : Process Product} (present : world.tasks number = some ⟨.request, .active (.wait (some key) next)⟩)
    (free : world.tasks child = none) :
    ∃ after, Run Faultless program world
        [.called child (.cleanup number key) (.delete key) (.ok (world.memory.contains key)),
          .deferred number child key, .cancelled number] after ∧
      after.memory = world.memory.erase key ∧
      after.tasks number = some ⟨.request, .active (.done .nothing)⟩ ∧
      after.tasks child = some ⟨.cleanup number key, .active (.done .nothing)⟩ ∧
      ∀ other, other ≠ number → other ≠ child → after.tasks other = world.tasks other := by
  have different : number ≠ child := by
    rintro rfl
    exact nomatch free.symm.trans present
  have cancelled : Run Faultless program world [.cancelled number]
      (world.put number ⟨.request, .active (.abandon key (.done .nothing))⟩) := .step .start (.cancel present rfl)
  have vacant : (world.put number ⟨.request, .active (.abandon key (.done .nothing))⟩).tasks child = none :=
    (World.put_tasks_other _ _ _ _ (Ne.symm different)).trans free
  have deferred := Run.step cancelled (.abandon (World.put_tasks_self _ _ _) vacant)
  refine ⟨_, .step deferred (.call (World.put_tasks_self _ _ _) .answered), rfl, ?_, World.put_tasks_self _ _ _, ?_⟩
  · simp only [World.put, if_neg different, if_true]
  · intro other notOwner notChild
    simp only [World.put, if_neg notOwner, if_neg notChild]

end ConfigRegistry.Concurrent
