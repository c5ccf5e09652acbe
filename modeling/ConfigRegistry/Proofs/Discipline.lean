import ConfigRegistry.Proofs.World
import ConfigRegistry.Session.Basic

set_option autoImplicit false

/-!
What a request does with the records under one namespace: it writes there only as the owner of a key, and it never
drops an ownership without a word. Main statement: whoever has a desk serve a handler keeps this discipline.
-/
namespace ConfigRegistry.Concurrent

open Store (Call Outcome)
open Work (Job Process Settlement)
open Session (Product)
open Dedup

def placeholder : Bytes := Record.inProgress.encode

def keptBytes (answer : Answer) : Bytes := (Record.completed answer.statusCode answer.body).encode

theorem kept_iff (status : UInt16) : isKept status = true ↔ 200 ≤ status ∧ status ≤ 399 := by
  have below : status < 400 ↔ status ≤ 399 := by
    rw [UInt16.lt_iff_toNat_lt, UInt16.le_iff_toNat_le]
    exact Nat.lt_succ_iff
  rw [isKept, Bool.and_eq_true, decide_eq_true_eq, decide_eq_true_eq, below]

def Under (scope key : String) : Prop := ∃ rest, key = scope ++ "/" ++ rest

def Spares (scope : String) : Call → Prop
  | .create key _ => ¬ Under scope key
  | .put key _ => ¬ Under scope key
  | .delete key => ¬ Under scope key
  | _ => True

-- The first index is the key whose ownership the process holds, if any. It is gained by a creation alone, and a
-- deletion that fails leaves it where it was.
inductive Heeds (scope : String) {ρ : Type} (post : Option String → ρ → Prop) : Option String → Process ρ → Prop where
  | done {held : Option String} {result : ρ} (reached : post held result) : Heeds scope post held (.done result)
  | crash (message : String) : Heeds scope post none (.crash message)
  | outside {held : Option String} {call : Call} {next : Outcome call.Answer → Process ρ}
      (spares : Spares scope call) (rest : ∀ outcome, Heeds scope post held (next outcome)) :
      Heeds scope post held (.ask held call next)
  | create {key : String} {next : Outcome Bool → Process ρ} (under : Under scope key)
      (won : Heeds scope post (some key) (next (.ok true))) (lost : Heeds scope post none (next (.ok false)))
      (failed : ∀ failure, Heeds scope post none (next (.failed failure)))
      (panicked : ∀ message, Heeds scope post none (next (.panicked message))) :
      Heeds scope post none (.ask none (.create key placeholder) next)
  | delete {key : String} {next : Outcome Bool → Process ρ} (under : Under scope key)
      (answered : ∀ existed, Heeds scope post none (next (.ok existed)))
      (failed : ∀ failure, Heeds scope post (some key) (next (.failed failure)))
      (panicked : ∀ message, Heeds scope post (some key) (next (.panicked message))) :
      Heeds scope post (some key) (.ask (some key) (.delete key) next)
  | wait {held : Option String} {next : Process ρ} (rest : Heeds scope post held next) :
      Heeds scope post held (.wait held next)
  | fresh {held : Option String} {next : String → Process ρ} (rest : ∀ id, Heeds scope post held (next id)) :
      Heeds scope post held (.fresh next)
  | started {held : Option String} {next : Process ρ} (rest : Heeds scope post held next) :
      Heeds scope post held (.started next)
  | settle {key : String} {answer : Answer} {next : Except StoreFailure Unit → Process ρ} (under : Under scope key)
      (rest : ∀ verdict, Heeds scope post none (next verdict)) :
      Heeds scope post (some key) (.settle (Ownership.settlement key answer) next)
  | abandon {key : String} {next : Process ρ} (under : Under scope key) (rest : Heeds scope post none next) :
      Heeds scope post (some key) (.abandon key next)

-- A process that has ended owns nothing.
def Settled {ρ : Type} (held : Option String) (_ : ρ) : Prop := held = none

section Composition

variable {scope : String} {ρ σ α : Type}

theorem heeds_bind {first : Option String → ρ → Prop} {second : Option String → σ → Prop} {held : Option String}
    {process : Process ρ} {next : ρ → Process σ} (heeds : Heeds scope first held process)
    (rest : ∀ held result, first held result → Heeds scope second held (next result)) :
    Heeds scope second held (process.bind next) := by
  induction heeds with
  | done reached => exact rest _ _ reached
  | crash message => exact .crash message
  | outside spares _ ih => exact .outside spares ih
  | create under _ _ _ _ won lost failed panicked => exact .create under won lost failed panicked
  | delete under _ _ _ answered failed panicked => exact .delete under answered failed panicked
  | wait _ ih => exact .wait ih
  | fresh _ ih => exact .fresh ih
  | started _ ih => exact .started ih
  | settle under _ ih => exact .settle under ih
  | abandon under _ ih => exact .abandon under ih

theorem heeds_map {held : Option String} {process : Process ρ} (f : ρ → σ)
    (heeds : Heeds scope Settled held process) : Heeds scope Settled held (process.map f) :=
  heeds_bind heeds fun _ _ settled => .done settled

-- A job makes its calls under the guard of whoever runs it, so it may write only elsewhere.
def JobSpares (scope : String) (post : α → Prop) : Job α → Prop
  | .done value => post value
  | .crash _ => True
  | .ask call next => Spares scope call ∧ ∀ answer, JobSpares scope post (next answer)
  | .fresh next => ∀ id, JobSpares scope post (next id)
  | .started next => JobSpares scope post next
  | .wait next => JobSpares scope post next

theorem host_heeds {post : α → Prop} {result : Option String → ρ → Prop} {held : Option String} {job : Job α}
    {crashed : String → Process ρ} {ended : α → Process ρ} (spares : JobSpares scope post job)
    (afterCrash : ∀ message, Heeds scope result held (crashed message))
    (afterEnd : ∀ value, post value → Heeds scope result held (ended value)) :
    Heeds scope result held (job.host held crashed ended) := by
  induction job with
  | done value => exact afterEnd value spares
  | crash message => exact afterCrash message
  | ask call next ih =>
      rw [Job.host]
      refine .outside spares.1 fun outcome => ?_
      cases outcome with
      | ok answer => exact ih _ (spares.2 _)
      | failed failure => exact ih _ (spares.2 _)
      | panicked message => exact afterCrash message
  | fresh next ih => exact .fresh fun id => ih id (spares id)
  | started next ih => exact .started (ih spares)
  | wait next ih => exact .wait (ih spares)

theorem process_heeds {post : α → Prop} {job : Job α} (spares : JobSpares scope post job) :
    Heeds scope Settled none job.process :=
  host_heeds spares .crash fun _ _ => .done rfl

end Composition

section Owners

variable {scope key : String} {α : Type}

theorem free_heeds (under : Under scope key) : Heeds scope Settled (some key) (Ownership.free key) :=
  .delete under (fun _ => .done rfl) (fun _ => .abandon under (.done rfl)) fun message =>
    .abandon under (.crash message)

theorem settle_heeds (under : Under scope key) (answer : Answer) :
    Heeds scope Settled (some key) (Ownership.settle key answer) :=
  .settle under fun _ => .done rfl

theorem leave_heeds (under : Under scope key) : Heeds scope Settled (some key) (Ownership.leave key) :=
  .abandon under (.done rfl)

theorem handle_heeds (under : Under scope key) (answerOf : α → Answer) {handler : Job (Except ServiceFailure α)}
    (spares : JobSpares scope (fun _ => True) handler) :
    Heeds scope Settled (some key) (Ownership.handle key answerOf handler) := by
  refine host_heeds spares ?_ ?_
  · intro message
    refine heeds_bind (free_heeds under) fun held _ settled => ?_
    cases settled
    exact .crash message
  · intro result _
    cases result with
    | error failure => exact heeds_bind (free_heeds under) fun _ _ settled => .done settled
    | ok value =>
        refine heeds_bind (settle_heeds under (answerOf value)) fun _ verdict settled => ?_
        cases verdict with
        | ok => exact .done settled
        | error failure => exact .done settled

-- What a claim comes to, with the key that is owned after it.
def Claimed (scope : String) : Option String → Except StoreFailure Claim → Prop
  | held, .ok (.owned key) => held = some key ∧ Under scope key
  | held, _ => held = none

theorem claim_heeds (desk : Desk) (key : Option String) :
    Heeds desk.scope (Claimed desk.scope) none (desk.claim key) := by
  cases key with
  | none => exact .done rfl
  | some key =>
      rw [Desk.claim]
      split
      · exact .done rfl
      · have under : Under desk.scope (desk.storeKey key) := ⟨key, rfl⟩
        refine .outside trivial fun outcome => ?_
        cases outcome with
        | panicked message => exact .crash message
        -- A look-up that fails goes on to the conditional creation, as one does that finds nothing.
        | failed failure => exact .create under (.done ⟨rfl, under⟩) (.done rfl) (fun _ => .done rfl) .crash
        | ok found =>
            cases found with
            | none => exact .create under (.done ⟨rfl, under⟩) (.done rfl) (fun _ => .done rfl) .crash
            | some bytes =>
                dsimp only
                split <;> exact .done rfl

theorem serve_heeds (desk : Desk) (key : Option String) (answerOf : α → Answer)
    {handler : Job (Except ServiceFailure α)} (spares : JobSpares desk.scope (fun _ => True) handler) :
    Heeds desk.scope Settled none (desk.serve key answerOf handler) := by
  refine heeds_bind (claim_heeds desk key) fun held claim claimed => ?_
  cases claim with
  | error failure => exact .done claimed
  | ok claim =>
      cases claim with
      | unkeyed =>
          cases claimed
          exact heeds_map _ (process_heeds spares)
      | answered answer => exact .done claimed
      | busy => exact .done claimed
      | owned storeKey =>
          obtain ⟨rfl, under⟩ := claimed
          exact heeds_map _ (handle_heeds under answerOf spares)

end Owners
end ConfigRegistry.Concurrent
