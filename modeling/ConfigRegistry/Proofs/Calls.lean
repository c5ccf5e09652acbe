import ConfigRegistry.Proofs.Requests
import ConfigRegistry.Service.Pipeline

set_option autoImplicit false

/-!
What jobs and processes ask of the store, and what they come to. Main statement: whatever a handler keeps to, the
desk that runs it keeps to as well, apart from its own calls under its own namespace.
-/
namespace ConfigRegistry.Concurrent

open Store (Call Outcome)
open Work (Job Process Settlement)
open Dedup

-- A job that does nothing but ask the store and take ids, and that ends.
def Operates {α : Type} (allowed : Call → Prop) (post : α → Prop) : Job α → Prop
  | .done value => post value
  | .crash _ => False
  | .ask call next => allowed call ∧ ∀ answer, Operates allowed post (next answer)
  | .fresh next => ∀ id, Operates allowed post (next id)
  | .started _ => False
  | .wait _ => False

-- The calls that the task of a settlement can make.
def settlementCalls (settlement : Settlement) : List Call :=
  settlement.value.toList.map (Call.put settlement.key) ++ [.delete settlement.key]

-- A process that is cancelled under a guard leaves a deletion behind, so that has to be allowed there too.
def Abides {ρ : Type} (allowed : Call → Prop) (post : ρ → Prop) : Process ρ → Prop
  | .done result => post result
  | .crash _ => True
  | .ask guard call next =>
      (∀ key, guard = some key → allowed (.delete key)) ∧ allowed call ∧ ∀ outcome, Abides allowed post (next outcome)
  | .wait guard next => (∀ key, guard = some key → allowed (.delete key)) ∧ Abides allowed post next
  | .fresh next => ∀ id, Abides allowed post (next id)
  | .started next => Abides allowed post next
  | .settle settlement next =>
      (∀ call ∈ settlementCalls settlement, allowed call) ∧ ∀ verdict, Abides allowed post (next verdict)
  | .abandon key next => allowed (.delete key) ∧ Abides allowed post next

section Jobs

variable {α β : Type} {allowed : Call → Prop}

theorem operates_bind {first : α → Prop} {second : β → Prop} {job : Job α} {next : α → Job β}
    (operates : Operates allowed first job) (rest : ∀ value, first value → Operates allowed second (next value)) :
    Operates allowed second (job.bind next) := by
  induction job with
  | done value => exact rest value operates
  | crash message => exact operates.elim
  | ask call following ih => exact ⟨operates.1, fun answer => ih answer (operates.2 answer)⟩
  | fresh following ih => exact fun id => ih id (operates id)
  | started following _ => exact operates.elim
  | wait following _ => exact operates.elim

theorem operates_widen {wide : Call → Prop} {first second : α → Prop} {job : Job α}
    (operates : Operates allowed first job) (calls : ∀ call, allowed call → wide call)
    (values : ∀ value, first value → second value) : Operates wide second job := by
  induction job with
  | done value => exact values value operates
  | crash message => exact operates.elim
  | ask call following ih => exact ⟨calls call operates.1, fun answer => ih answer (operates.2 answer)⟩
  | fresh following ih => exact fun id => ih id (operates id)
  | started following _ => exact operates.elim
  | wait following _ => exact operates.elim

theorem operates_and_then {ε : Type} {first : Except ε α → Prop} {second : Except ε β → Prop}
    {job : Job (Except ε α)} {next : α → Job (Except ε β)} (operates : Operates allowed first job)
    (rest : ∀ value, first (.ok value) → Operates allowed second (next value))
    (fails : ∀ failure, first (.error failure) → second (.error failure)) :
    Operates allowed second (job.andThen next) := by
  refine operates_bind operates fun result reached => ?_
  cases result with
  | ok value => exact rest value reached
  | error failure => exact fails failure reached

end Jobs

section Processes

variable {ρ σ α : Type} {allowed : Call → Prop}

theorem abides_bind {first : ρ → Prop} {second : σ → Prop} {process : Process ρ} {next : ρ → Process σ}
    (abides : Abides allowed first process) (rest : ∀ result, first result → Abides allowed second (next result)) :
    Abides allowed second (process.bind next) := by
  induction process with
  | done result => exact rest result abides
  | crash message => trivial
  | ask guard call following ih => exact ⟨abides.1, abides.2.1, fun outcome => ih outcome (abides.2.2 outcome)⟩
  | wait guard following ih => exact ⟨abides.1, ih abides.2⟩
  | fresh following ih => exact fun id => ih id (abides id)
  | started following ih => exact ih abides
  | settle settlement following ih => exact ⟨abides.1, fun verdict => ih verdict (abides.2 verdict)⟩
  | abandon key following ih => exact ⟨abides.1, ih abides.2⟩

theorem abides_widen {wide : Call → Prop} {first second : ρ → Prop} {process : Process ρ}
    (abides : Abides allowed first process) (calls : ∀ call, allowed call → wide call)
    (results : ∀ result, first result → second result) : Abides wide second process := by
  induction process with
  | done result => exact results result abides
  | crash message => trivial
  | ask guard call following ih =>
      obtain ⟨guarded, may, rest⟩ := abides
      exact ⟨fun key same => calls _ (guarded key same), calls _ may, fun outcome => ih outcome (rest outcome)⟩
  | wait guard following ih => exact ⟨fun key same => calls _ (abides.1 key same), ih abides.2⟩
  | fresh following ih => exact fun id => ih id (abides id)
  | started following ih => exact ih abides
  | settle settlement following ih =>
      exact ⟨fun call asked => calls _ (abides.1 call asked), fun verdict => ih verdict (abides.2 verdict)⟩
  | abandon key following ih => exact ⟨calls _ abides.1, ih abides.2⟩

theorem abides_map {post : σ → Prop} {process : Process ρ} {f : ρ → σ}
    (abides : Abides allowed (fun result => post (f result)) process) : Abides allowed post (process.map f) :=
  abides_bind abides fun _ reached => reached

theorem abides_rescue {post : ρ → Prop} {process : Process ρ} {f : String → ρ}
    (abides : Abides allowed post process)
    (rescued : ∀ message, post (f message)) : Abides allowed post (process.rescue f) := by
  induction process with
  | done result => exact abides
  | crash message => exact rescued message
  | ask guard call following ih => exact ⟨abides.1, abides.2.1, fun outcome => ih outcome (abides.2.2 outcome)⟩
  | wait guard following ih => exact ⟨abides.1, ih abides.2⟩
  | fresh following ih => exact fun id => ih id (abides id)
  | started following ih => exact ih abides
  | settle settlement following ih => exact ⟨abides.1, fun verdict => ih verdict (abides.2 verdict)⟩
  | abandon key following ih => exact ⟨abides.1, ih abides.2⟩

theorem abides_host {first : α → Prop} {post : ρ → Prop} {guard : Option String} {job : Job α}
    {crashed : String → Process ρ} {ended : α → Process ρ} (operates : Operates allowed first job)
    (guarded : ∀ key, guard = some key → allowed (.delete key))
    (afterCrash : ∀ message, Abides allowed post (crashed message))
    (afterEnd : ∀ value, first value → Abides allowed post (ended value)) :
    Abides allowed post (job.host guard crashed ended) := by
  induction job with
  | done value => exact afterEnd value operates
  | crash message => exact afterCrash message
  | ask call next ih =>
      rw [Job.host]
      refine ⟨guarded, operates.1, fun outcome => ?_⟩
      cases outcome with
      | ok answer => exact ih _ (operates.2 _)
      | failed failure => exact ih _ (operates.2 _)
      | panicked message => exact afterCrash message
  | fresh next ih => exact fun id => ih id (operates id)
  | started next _ => exact operates.elim
  | wait next _ => exact operates.elim

theorem process_abides {post : α → Prop} {job : Job α} (operates : Operates allowed post job) :
    Abides allowed post job.process :=
  abides_host operates (fun _ same => nomatch same) (fun _ => trivial) fun _ reached => reached

end Processes

section Desks

variable {α : Type} {allowed : Call → Prop} {storeKey : String}

theorem free_abides (delete : allowed (.delete storeKey)) :
    Abides allowed (fun _ => True) (Ownership.free storeKey) := by
  refine ⟨fun _ same => Option.some.inj same ▸ delete, delete, fun outcome => ?_⟩
  cases outcome with
  | ok _ => trivial
  | failed _ => exact ⟨delete, trivial⟩
  | panicked _ => exact ⟨delete, trivial⟩

theorem settlement_calls_allowed {answer : Answer} (delete : allowed (.delete storeKey))
    (put : isKept answer.statusCode = true → allowed (.put storeKey (keptBytes answer))) :
    ∀ call ∈ settlementCalls (Ownership.settlement storeKey answer), allowed call := by
  intro call member
  by_cases kept : isKept answer.statusCode = true
  · simp only [settlementCalls, Ownership.settlement, if_pos kept, Option.toList_some, List.map_cons, List.map_nil,
      List.cons_append, List.nil_append, List.mem_cons, List.not_mem_nil, or_false] at member
    rcases member with rfl | rfl
    · exact put kept
    · exact delete
  · simp only [settlementCalls, Ownership.settlement, if_neg kept, Option.toList_none, List.map_nil, List.nil_append,
      List.mem_cons, List.not_mem_nil, or_false] at member
    exact member ▸ delete

-- A handler's own calls are made under the ownership, and what it answers is passed on or replaced by a failure of
-- the store.
theorem handle_abides {post : Except ServiceFailure α → Prop} (answerOf : α → Answer)
    {handler : Job (Except ServiceFailure α)} (operates : Operates allowed post handler)
    (delete : allowed (.delete storeKey))
    (put : ∀ answer : Answer, isKept answer.statusCode = true → allowed (.put storeKey (keptBytes answer)))
    (unstored : ∀ failure, post (.error (.ofStore failure))) :
    Abides allowed post (Ownership.handle storeKey answerOf handler) := by
  refine abides_host operates (fun _ same => Option.some.inj same ▸ delete) ?_ ?_
  · exact fun message => abides_bind (free_abides delete) fun _ _ => trivial
  · intro result reached
    cases result with
    | error failure => exact abides_bind (free_abides delete) fun _ _ => reached
    | ok value =>
        refine ⟨settlement_calls_allowed delete (put _), fun verdict => ?_⟩
        cases verdict with
        | ok _ => exact reached
        | error failure => exact unstored failure

-- The calls of a desk for one of its keys.
inductive RecordCall (storeKey : String) : Call → Prop where
  | get : RecordCall storeKey (.get storeKey)
  | create : RecordCall storeKey (.create storeKey placeholder)
  | put {answer : Answer} (kept : isKept answer.statusCode = true) :
      RecordCall storeKey (.put storeKey (keptBytes answer))
  | delete : RecordCall storeKey (.delete storeKey)

theorem claim_abides (desk : Desk) {key : String} (keyed : key.isEmpty = false)
    (records : ∀ call, RecordCall (desk.storeKey key) call → allowed call) :
    Abides allowed (fun claim => ∀ owned, claim = .ok (.owned owned) → owned = desk.storeKey key)
      (desk.claim (some key)) := by
  have create : Abides allowed (fun claim => ∀ owned, claim = .ok (.owned owned) → owned = desk.storeKey key)
      (.ask none (.create (desk.storeKey key) placeholder) (created (desk.storeKey key))) := by
    refine ⟨by simp, records _ .create, fun outcome => ?_⟩
    rcases outcome with (_ | _) | failure | message
    · simp [created, Abides]
    · intro owned same
      cases same
      rfl
    · simp [created, Abides]
    · trivial
  rw [claim_keyed desk keyed]
  refine ⟨by simp, records _ .get, fun outcome => ?_⟩
  rcases outcome with (_ | bytes) | _ | _
  · exact create
  · cases read : Record.decode (desk.storeKey key) bytes with
    | error failure => simp [lookedUp, read, Abides]
    | ok record => cases record <;> simp [lookedUp, read, Abides]
  · exact create
  · trivial

theorem serve_abides (desk : Desk) {key : String} (keyed : key.isEmpty = false) (answerOf : α → Answer)
    {handler : Job (Except ServiceFailure α)}
    (records : ∀ call, RecordCall (desk.storeKey key) call → allowed call)
    (operates : Operates allowed (fun _ => True) handler) :
    Abides allowed (fun _ => True) (desk.serve (some key) answerOf handler) := by
  refine abides_bind (claim_abides desk keyed records) fun claim owned => ?_
  cases claim with
  | error failure => trivial
  | ok claim =>
      cases claim with
      | unkeyed => exact abides_map (process_abides operates)
      | answered answer => trivial
      | busy => trivial
      | owned storeKey =>
          obtain rfl := owned storeKey rfl
          exact abides_map (handle_abides answerOf operates (records _ .delete) (fun _ kept => records _ (.put kept))
            fun _ => trivial)

end Desks
end ConfigRegistry.Concurrent
