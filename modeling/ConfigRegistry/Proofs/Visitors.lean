import ConfigRegistry.Proofs.Gating

set_option autoImplicit false

/-!
All requests to a service, in any order and over any store. Main statements: what the processes of the requests keep
to is kept to in every run, by the tasks that finish their work as well, and the calls of a service are those of its
desk for records and those of its handlers for items.
-/
namespace ConfigRegistry.Concurrent

open Store (Call Outcome)
open Work (Job Process Settlement)
open Session (Product)
open Http (Request Response Target)
open Throttle (Gate Amount)
open Dedup
open Service

section Runs

variable {allowed : Call → Prop} {conduct : Conduct} {program : Process Product → Prop} {start world after : World}
  {events : List Event} {event : Event}

def Stage.Abides (allowed : Call → Prop) : Stage → Prop
  | .active process => Concurrent.Abides allowed (fun _ => True) process
  | .settling _ next => ∀ verdict, Concurrent.Abides allowed (fun _ => True) (next verdict)

def World.Abides (allowed : Call → Prop) (world : World) : Prop :=
  ∀ number task, world.tasks number = some task → task.stage.Abides allowed

theorem settlement_abides {settlement : Settlement} (calls : ∀ call ∈ settlementCalls settlement, allowed call) :
    Abides allowed (fun _ => True) (settlementProcess settlement) := by
  have delete : allowed (.delete settlement.key) := calls _ (by simp [settlementCalls])
  refine abides_map ?_
  rw [carryOut]
  cases stored : settlement.value with
  | none => exact free_abides delete
  | some value =>
      have put : allowed (.put settlement.key value) := calls _ (by simp [settlementCalls, stored])
      refine ⟨fun _ same => Option.some.inj same ▸ delete, put, fun outcome => ?_⟩
      cases outcome with
      | ok _ => trivial
      | failed _ => exact ⟨delete, trivial⟩
      | panicked _ => exact ⟨delete, trivial⟩

theorem cleanup_abides {key : String} (delete : allowed (.delete key)) :
    Abides allowed (fun _ => True) (cleanupProcess key) :=
  ⟨(fun _ same => nomatch same), delete, fun _ => trivial⟩

theorem dropped_abides {stage : Stage} {process : Process Product} (abides : stage.Abides allowed)
    (left : stage.dropped? = some process) : Abides allowed (fun _ => True) process := by
  have drops : ∀ guard, (∀ key, guard = some key → allowed (.delete key)) →
      Abides allowed (fun _ => True) (dropped guard) := by
    intro guard guarded
    cases guard with
    | none => trivial
    | some key => exact ⟨guarded key rfl, trivial⟩
  cases stage with
  | settling child next =>
      cases left
      trivial
  | active process =>
      cases process with
      | ask guard call next =>
          cases left
          exact drops guard abides.1
      | wait guard next =>
          cases left
          exact drops guard abides.1
      | _ => exact nomatch left

theorem put_abides {number : Nat} {task : Task} (abides : world.Abides allowed)
    (fresh : task.stage.Abides allowed) : (world.put number task).Abides allowed := by
  intro other found present
  by_cases same : other = number
  · subst same
    rw [World.put_tasks_self] at present
    cases present
    exact fresh
  · rw [World.put_tasks_other world number other task same] at present
    exact abides other found present

theorem step_abides (programs : ∀ process, program process → Abides allowed (fun _ => True) process)
    (abides : world.Abides allowed) (step : Step conduct program world event after) :
    after.Abides allowed ∧
      ∀ number role call outcome, event = .called number role call outcome → allowed call := by
  cases step with
  | begin free admitted => exact ⟨put_abides abides (programs _ admitted), fun _ _ _ _ same => nomatch same⟩
  | @call number role guard call next outcome memory present may =>
      have goes := abides _ _ present
      refine ⟨put_abides abides (goes.2.2 outcome), ?_⟩
      intro _ _ _ _ same
      cases same
      exact goes.2.1
  | wait present =>
      have goes := abides _ _ present
      exact ⟨put_abides abides goes.2, fun _ _ _ _ same => nomatch same⟩
  | fresh id present =>
      have goes := abides _ _ present
      exact ⟨put_abides abides (goes id), fun _ _ _ _ same => nomatch same⟩
  | start present =>
      have goes := abides _ _ present
      exact ⟨put_abides abides goes, fun _ _ _ _ same => nomatch same⟩
  | settle present free =>
      have goes := abides _ _ present
      refine ⟨put_abides (put_abides abides goes.2) ?_, fun _ _ _ _ same => nomatch same⟩
      exact settlement_abides goes.1
  | abandon present free =>
      have goes := abides _ _ present
      refine ⟨put_abides (put_abides abides goes.2) ?_, fun _ _ _ _ same => nomatch same⟩
      exact cleanup_abides goes.1
  | lose present =>
      have goes := abides _ _ present
      exact ⟨put_abides abides goes.2, fun _ _ _ _ same => nomatch same⟩
  | resume present ended ending =>
      have goes := abides _ _ present
      exact ⟨put_abides abides (goes _), fun _ _ _ _ same => nomatch same⟩
  | cancel present left =>
      have goes := abides _ _ present
      exact ⟨put_abides abides (dropped_abides goes left), fun _ _ _ _ same => nomatch same⟩

theorem run_abides (programs : ∀ process, program process → Abides allowed (fun _ => True) process)
    (idle : ∀ number, start.tasks number = none) (run : Run conduct program start events world) :
    world.Abides allowed ∧
      ∀ number role call outcome, .called number role call outcome ∈ events → allowed call := by
  induction run with
  | start =>
      refine ⟨?_, fun _ _ _ _ called => nomatch called⟩
      exact fun number _ present => nomatch (idle number).symm.trans present
  | step _ last ih =>
      obtain ⟨abides, earlier⟩ := ih
      obtain ⟨later, called⟩ := step_abides programs abides last
      refine ⟨later, fun number role call outcome present => ?_⟩
      rcases List.mem_cons.mp present with same | before
      · exact called number role call outcome same.symm
      · exact earlier number role call outcome before

end Runs

section Requests

-- A call of the desk for some record of its own, or one of a handler for an item.
def ServiceCall (desk : Desk) (call : Call) : Prop := (∃ key, RecordCall (desk.storeKey key) call) ∨ ItemCall call

-- Any request that the service receives.
inductive Visitor (desk : Desk) : Process Product → Prop where
  | receive {α : Type} [Amount α] (gate : Gate α) (clock : Clock) (request : Request) :
      Visitor desk ((receive desk gate clock request).2.map responded)

variable {α : Type} [Amount α] {allowed : Call → Prop} {desk : Desk} {request : Request} {handler : Job Response}

theorem deduplicate_abides
    (records : ∀ key, clientKeyOf request.keys = some key → ∀ call, RecordCall (desk.storeKey key) call → allowed call)
    (operates : Operates allowed (fun _ => True) handler) :
    Abides allowed (fun _ => True) (deduplicate desk request handler) := by
  rw [deduplicate]
  cases keyed : clientKeyOf request.keys with
  | none => exact process_abides operates
  | some key =>
      dsimp only
      split
      · trivial
      · have buffers : Operates allowed (fun _ => True) (buffered desk.bodyLimit handler) :=
          operates_bind operates fun _ _ => trivial
        exact abides_map (serve_abides desk (client_key_nonempty keyed) answerOf (records key keyed) buffers)

theorem pass_abides
    (records : ∀ key, clientKeyOf request.keys = some key → ∀ call, RecordCall (desk.storeKey key) call → allowed call)
    (gate : Gate α) (clock : Clock) (operates : Operates allowed (fun _ => True) handler) :
    Abides allowed (fun _ => True) (caught (pass desk gate clock request handler).2) := by
  refine abides_rescue ?_ fun _ => trivial
  rw [pass_process]
  split
  · exact deduplicate_abides records operates
  · trivial

theorem dispatch_abides
    (records : ∀ key, clientKeyOf request.keys = some key → ∀ call, RecordCall (desk.storeKey key) call → allowed call)
    (items : ∀ call, ItemCall call → allowed call) (gate : Gate α) (clock : Clock) (query : Option Bytes)
    (route : Route) : Abides allowed (fun _ => True) (dispatch desk gate clock request query route).2 := by
  by_cases mutation : route.mutation? = some request.method
  · rw [mutation_dispatch desk gate clock query mutation]
    exact pass_abides records gate clock (operates_widen (mutate_operates request query route) items fun _ _ => trivial)
  · by_cases readable : route.isReadable = true
    · rw [reading_dispatch desk gate clock query readable mutation]
      exact abides_widen (reading_abides clock query route _) (fun call reads => items call (reading_item call reads))
        fun _ reached => reached
    · rw [dispatch]
      by_cases options : request.method = "OPTIONS"
      · rw [if_pos options]
        trivial
      · rw [if_neg options, if_neg mutation, if_neg readable]
        exact abides_map (pass_abides records gate clock trivial)

theorem receive_abides
    (records : ∀ key, clientKeyOf request.keys = some key → ∀ call, RecordCall (desk.storeKey key) call → allowed call)
    (items : ∀ call, ItemCall call → allowed call) (gate : Gate α) (clock : Clock) :
    Abides allowed (fun _ => True) (receive desk gate clock request).2 := by
  simp only [receive]
  split
  · exact dispatch_abides records items gate clock _ _
  · trivial

theorem visitor_abides (process : Process Product) (visitor : Visitor desk process) :
    Abides (ServiceCall desk) (fun _ => True) process := by
  cases visitor with
  | receive gate clock request =>
      exact abides_map (receive_abides (fun key _ _ record => .inl ⟨key, record⟩) (fun _ item => .inr item) gate clock)

end Requests
end ConfigRegistry.Concurrent
