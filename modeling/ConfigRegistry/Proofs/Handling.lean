import ConfigRegistry.Proofs.Calls
import ConfigRegistry.Proofs.SoleOwner

set_option autoImplicit false

/-!
A keyed request on its way to its handler and through it. Main statements: what such a request does besides the calls
of the desk, it does where its handler is handled under the key; so two requests under one key cannot both be at a
step of their handlers.
-/
namespace ConfigRegistry.Concurrent

open Store (Call Outcome)
open Work (Job Process)
open Session (Product)
open Dedup

-- What is left of a job after some of its steps.
inductive Left {α : Type} (job : Job α) : Job α → Prop where
  | whole : Left job job
  | asked {call : Call} {next : Except StoreFailure call.Answer → Job α} (before : Left job (.ask call next))
      (answer : Except StoreFailure call.Answer) : Left job (next answer)
  | named {next : String → Job α} (before : Left job (.fresh next)) (id : String) : Left job (next id)
  | marked {next : Job α} (before : Left job (.started next)) : Left job next
  | waited {next : Job α} (before : Left job (.wait next)) : Left job next

theorem left_trans {α : Type} {first second third : Job α} (left : Left first second) (further : Left second third) :
    Left first third := by
  induction further with
  | whole => exact left
  | asked _ answer ih => exact ih.asked answer
  | named _ id ih => exact ih.named id
  | marked _ ih => exact ih.marked
  | waited _ ih => exact ih.waited

-- What only a handler does: it asks for something that the desk does not, gives its mark, takes an id or waits.
def Event.OfHandler (key : String) : Event → Prop
  | .called _ _ call _ => ¬ RecordCall key call
  | .moved _ | .started _ => True
  | _ => False

-- Where a keyed request stands: in its handler, at something that the desk does for the key, or at its end.
inductive Attends {α : Type} (key : String) (answerOf : α → Answer) (handler : Job (Except ServiceFailure α))
    (finish : Except ServiceFailure α → Product) : Process Product → Prop where
  | handling {job : Job (Except ServiceFailure α)} (left : Left handler job) :
      Attends key answerOf handler finish
        ((Ownership.handle key answerOf job).bind fun result => .done (finish result))
  | asking {guard : Option String} {call : Call} {next : Outcome call.Answer → Process Product}
      (own : RecordCall key call) (goes : ∀ outcome, Attends key answerOf handler finish (next outcome)) :
      Attends key answerOf handler finish (.ask guard call next)
  | leaving {left : String} {next : Process Product} (goes : Attends key answerOf handler finish next) :
      Attends key answerOf handler finish (.abandon left next)
  | ended (product : Product) : Attends key answerOf handler finish (.done product)
  | crashed (message : String) : Attends key answerOf handler finish (.crash message)

def Working {α : Type} : Job α → Prop
  | .done _ | .crash _ => False
  | .ask .. | .fresh _ | .started _ | .wait _ => True

-- A handler under way, with what is left of it.
def Handled {α : Type} (key : String) (answerOf : α → Answer) (handler : Job (Except ServiceFailure α))
    (finish : Except ServiceFailure α → Product) (process : Process Product) : Prop :=
  ∃ job, Left handler job ∧ Working job ∧
    process = (Ownership.handle key answerOf job).bind fun result => .done (finish result)

def Stage.Attended {α : Type} (key : String) (answerOf : α → Answer) (handler : Job (Except ServiceFailure α))
    (finish : Except ServiceFailure α → Product) : Stage → Prop
  | .active process => Attends key answerOf handler finish process
  | .settling _ next => ∀ verdict, Attends key answerOf handler finish (next verdict)

section

variable {α : Type} {key : String} {answerOf : α → Answer} {handler : Job (Except ServiceFailure α)}
  {finish : Except ServiceFailure α → Product}

-- What is next on the way, by what the request does.
def Opens (key : String) (answerOf : α → Answer) (handler : Job (Except ServiceFailure α))
    (finish : Except ServiceFailure α → Product) (process : Process Product) : Process Product → Prop
  | .ask _ call next => (RecordCall key call ∨ Handled key answerOf handler finish process) ∧
      ∀ outcome, Attends key answerOf handler finish (next outcome)
  | .wait _ next | .started next =>
      Handled key answerOf handler finish process ∧ Attends key answerOf handler finish next
  | .fresh next =>
      Handled key answerOf handler finish process ∧ ∀ id, Attends key answerOf handler finish (next id)
  | .settle _ next => ∀ verdict, Attends key answerOf handler finish (next verdict)
  | .abandon _ next => Attends key answerOf handler finish next
  | .done _ | .crash _ => True

theorem freeing_opens {process : Process Product} {use : Except StoreFailure Unit → Process Product}
    (goes : ∀ freed, Attends key answerOf handler finish (use freed)) :
    Opens key answerOf handler finish process ((Ownership.free key).bind use) := by
  refine ⟨.inl .delete, fun outcome => ?_⟩
  cases outcome with
  | ok _ => exact goes _
  | failed failure => exact .leaving (goes _)
  | panicked message => exact .leaving (.crashed message)

-- A crash, of the handler or of the store under it, frees the key and is passed on.
theorem crash_opens (process : Process Product) (message : String) :
    Opens key answerOf handler finish process (((Ownership.free key).bind fun _ => .crash message).bind fun result =>
      .done (finish result)) := by
  rw [bind_assoc]
  exact freeing_opens fun _ => .crashed message

theorem crash_attends (message : String) :
    Attends key answerOf handler finish (((Ownership.free key).bind fun _ => .crash message).bind fun result =>
      .done (finish result)) :=
  .asking .delete (crash_opens (.crash message) message).2

theorem handling_opens {process : Process Product} {job : Job (Except ServiceFailure α)} (left : Left handler job)
    (whole : process = (Ownership.handle key answerOf job).bind fun result => .done (finish result)) :
    Opens key answerOf handler finish process
      ((Ownership.handle key answerOf job).bind fun result => .done (finish result)) := by
  have handled (working : Working job) : Handled key answerOf handler finish process := ⟨job, left, working, whole⟩
  cases job with
  | done result =>
      cases result with
      | ok value =>
          intro verdict
          cases verdict with
          | ok _ => exact .ended _
          | error failure => exact .ended _
      | error failure =>
          rw [Ownership.handle, Job.host, bind_assoc]
          exact freeing_opens fun _ => .ended _
  | crash message => exact crash_opens process message
  | ask call next =>
      rw [Ownership.handle, Job.host]
      refine ⟨.inr (handled trivial), fun outcome => ?_⟩
      cases outcome with
      | ok answer => exact .handling (left.asked _)
      | failed failure => exact .handling (left.asked _)
      | panicked message => exact crash_attends message
  | fresh next => exact ⟨handled trivial, fun id => .handling (left.named id)⟩
  | started next => exact ⟨handled trivial, .handling left.marked⟩
  | wait next => exact ⟨handled trivial, .handling left.waited⟩

theorem attends_opens {process : Process Product} (attends : Attends key answerOf handler finish process) :
    Opens key answerOf handler finish process process := by
  cases attends with
  | handling left => exact handling_opens left rfl
  | asking own goes => exact ⟨.inl own, goes⟩
  | leaving goes => exact goes
  | ended _ => trivial
  | crashed _ => trivial

theorem claim_attends (desk : Desk) {clientKey : String} (keyed : clientKey.isEmpty = false)
    (report : Except ServiceFailure (Served α) → Product) :
    Attends (desk.storeKey clientKey) answerOf handler (fun result => report (result.map .made))
      ((desk.claim (some clientKey)).bind (carryOn answerOf handler report)) := by
  have create : Attends (desk.storeKey clientKey) answerOf handler (fun result => report (result.map .made))
      ((Process.ask none (.create (desk.storeKey clientKey) placeholder) (created (desk.storeKey clientKey))).bind
        (carryOn answerOf handler report)) := by
    refine .asking .create fun outcome => ?_
    rcases outcome with (_ | _) | failure | message
    · exact .ended _
    · exact .handling .whole
    · exact .ended _
    · exact .crashed message
  rw [claim_keyed desk keyed]
  refine .asking .get fun outcome => ?_
  rcases outcome with (_ | bytes) | failure | message
  · exact create
  · cases read : Record.decode (desk.storeKey clientKey) bytes with
    | error failure =>
        simp only [lookedUp, read]
        exact .ended _
    | ok record =>
        cases record <;> simp only [lookedUp, read] <;> exact .ended _
  · exact create
  · exact .crashed message

variable {conduct : Conduct} {program : Process Product → Prop} {start world after : World} {events : List Event}
  {event : Event} {number : Nat} {stage : Stage}

theorem dropped_attends {process : Process Product} (left : stage.dropped? = some process) :
    Attends key answerOf handler finish process := by
  have drops : ∃ guard, process = dropped guard := by
    cases stage with
    | settling child next => exact ⟨none, (Option.some.inj left).symm⟩
    | active own =>
        cases own <;> first | exact ⟨_, (Option.some.inj left).symm⟩ | cases left
  obtain ⟨guard, rfl⟩ := drops
  cases guard with
  | none => exact .ended _
  | some key => exact .leaving (.ended _)

theorem step_other {other : Nat} {task : Task} (step : Step conduct program world event after)
    (different : other ≠ event.actor) (found : world.tasks other = some task) : after.tasks other = some task := by
  cases step with
  | begin free _ => exact put_keeps_others free found
  | call _ _ => exact (World.put_tasks_other _ _ _ _ different).trans found
  | wait _ => exact (World.put_tasks_other _ _ _ _ different).trans found
  | fresh _ _ => exact (World.put_tasks_other _ _ _ _ different).trans found
  | start _ => exact (World.put_tasks_other _ _ _ _ different).trans found
  | settle present free =>
      exact put_keeps_others (put_keeps_free present free) ((World.put_tasks_other _ _ _ _ different).trans found)
  | abandon present free =>
      exact put_keeps_others (put_keeps_free present free) ((World.put_tasks_other _ _ _ _ different).trans found)
  | lose _ => exact (World.put_tasks_other _ _ _ _ different).trans found
  | resume _ _ _ => exact (World.put_tasks_other _ _ _ _ different).trans found
  | cancel _ _ => exact (World.put_tasks_other _ _ _ _ different).trans found

theorem step_attended (attended : stage.Attended key answerOf handler finish)
    (present : world.tasks number = some ⟨.request, stage⟩) (step : Step conduct program world event after)
    (actor : event.actor = number) :
    (∃ stage', after.tasks number = some ⟨.request, stage'⟩ ∧ stage'.Attended key answerOf handler finish) ∧
      (event.OfHandler key → ∃ process, stage = .active process ∧ Handled key answerOf handler finish process) := by
  subst actor
  cases step with
  | begin free _ => exact nomatch free.symm.trans present
  | call asks _ =>
      cases present.symm.trans asks
      obtain ⟨why, goes⟩ := attends_opens attended
      exact ⟨⟨_, World.put_tasks_self _ _ _, goes _⟩, fun other => ⟨_, rfl, why.resolve_left other⟩⟩
  | wait waits =>
      cases present.symm.trans waits
      obtain ⟨handled, goes⟩ := attends_opens attended
      exact ⟨⟨_, World.put_tasks_self _ _ _, goes⟩, fun _ => ⟨_, rfl, handled⟩⟩
  | fresh id asks =>
      cases present.symm.trans asks
      obtain ⟨handled, goes⟩ := attends_opens attended
      exact ⟨⟨_, World.put_tasks_self _ _ _, goes id⟩, fun _ => ⟨_, rfl, handled⟩⟩
  | start starts =>
      cases present.symm.trans starts
      obtain ⟨handled, goes⟩ := attends_opens attended
      exact ⟨⟨_, World.put_tasks_self _ _ _, goes⟩, fun _ => ⟨_, rfl, handled⟩⟩
  | @settle _ child role settlement next settles free =>
      cases present.symm.trans settles
      refine ⟨⟨.settling child next, ?_, attends_opens attended⟩, False.elim⟩
      exact put_keeps_others (put_keeps_free present free) (World.put_tasks_self _ _ _)
  | @abandon _ child role left next abandons free =>
      cases present.symm.trans abandons
      refine ⟨⟨.active next, ?_, attends_opens attended⟩, False.elim⟩
      exact put_keeps_others (put_keeps_free present free) (World.put_tasks_self _ _ _)
  | lose abandons =>
      cases present.symm.trans abandons
      exact ⟨⟨_, World.put_tasks_self _ _ _, attends_opens attended⟩, False.elim⟩
  | resume waits _ _ =>
      cases present.symm.trans waits
      exact ⟨⟨_, World.put_tasks_self _ _ _, attended _⟩, False.elim⟩
  | cancel _ left =>
      cases present.symm.trans ‹_›
      exact ⟨⟨_, World.put_tasks_self _ _ _, dropped_attends left⟩, False.elim⟩

theorem run_attended (attended : stage.Attended key answerOf handler finish)
    (present : start.tasks number = some ⟨.request, stage⟩) (run : Run conduct program start events world) :
    ∃ stage', world.tasks number = some ⟨.request, stage'⟩ ∧ stage'.Attended key answerOf handler finish := by
  induction run with
  | start => exact ⟨stage, present, attended⟩
  | @step _ _ _ event _ last ih =>
      obtain ⟨stage', here, attended⟩ := ih
      by_cases actor : event.actor = number
      · exact (step_attended attended here last actor).1
      · exact ⟨stage', step_other last (Ne.symm actor) here, attended⟩

-- A keyed request does nothing of its handler's but where the handler is handled, with what is left of it.
theorem handler_steps_handled {desk : Desk} {clientKey : String} (keyed : clientKey.isEmpty = false)
    {report : Except ServiceFailure (Served α) → Product}
    (begun : start.tasks number =
      some ⟨.request, .active ((desk.serve (some clientKey) answerOf handler).map report)⟩)
    (run : Run conduct program start events world) (step : Step conduct program world event after)
    (actor : event.actor = number) (own : event.OfHandler (desk.storeKey clientKey)) :
    ∃ job rest, Left handler job ∧ Working job ∧ world.tasks number =
      some ⟨.request, .active ((Ownership.handle (desk.storeKey clientKey) answerOf job).bind rest)⟩ := by
  rw [serve_claim] at begun
  have claims : Stage.Attended (desk.storeKey clientKey) answerOf handler _ (.active _) :=
    claim_attends desk keyed report
  obtain ⟨stage, present, attended⟩ := run_attended claims begun run
  obtain ⟨process, rfl, job, left, working, rfl⟩ := (step_attended attended present step actor).2 own
  exact ⟨job, _, left, working, present⟩

end

-- A keyed request, wherever it stands, takes a step of its handler.
def World.Enacts (conduct : Conduct) (program : Process Product → Prop) (world : World) (number : Nat) (key : String) :
    Prop :=
  ∃ (α : Type) (answerOf : α → Answer) (handler : Job (Except ServiceFailure α))
    (finish : Except ServiceFailure α → Product) (stage : Stage) (event : Event) (after : World),
    world.tasks number = some ⟨.request, stage⟩ ∧ stage.Attended key answerOf handler finish ∧
      Step conduct program world event after ∧ event.actor = number ∧ event.OfHandler key

section

variable {scope key : String} {conduct : Conduct} {program : Process Product → Prop} {start world : World}
  {events : List Event} {number : Nat}

theorem enacts_handles (enacts : world.Enacts conduct program number key) : world.Handles number key := by
  obtain ⟨α, answerOf, handler, finish, stage, event, after, present, attended, step, actor, own⟩ := enacts
  obtain ⟨process, rfl, job, -, -, rfl⟩ := (step_attended attended present step actor).2 own
  exact ⟨α, answerOf, job, _, present⟩

theorem handlers_apart (idle : ∀ number, start.tasks number = none)
    (run : Run Atomic (Customer scope) start events world) {first second : Nat}
    (left : world.Enacts conduct program first key) (right : world.Enacts conduct program second key) :
    first = second := by
  obtain ⟨held, orderly, exclusive⟩ := run_ledger customer_heeds idle run
  have holds (number : Nat) (enacts : world.Enacts conduct program number key) : held number = some key :=
    (owns_iff_held orderly number key).mp (handles_owns (enacts_handles enacts))
  exact exclusive.single first second key (holds first left) (holds second right)

end
end ConfigRegistry.Concurrent
