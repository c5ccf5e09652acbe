import ConfigRegistry.Proofs.Ledger

set_option autoImplicit false

/-!
The requests of a desk: those that have it run their handler, and those that claim a key and do with the ownership
what they like. Main statement: both keep the discipline of their namespace.
-/
namespace ConfigRegistry.Concurrent

open Store (Outcome)
open Work (Job Process)
open Session (Product)
open Dedup

-- What the owner of a key can do with its ownership in the end.
inductive Disposal where
  | handle (handler : Job (Except ServiceFailure Answer))
  | settle (answer : Answer)
  | free
  | leave

def Disposal.Spares (scope : String) : Disposal → Prop
  | .handle handler => JobSpares scope (fun _ => True) handler
  | _ => True

def Disposal.process (storeKey : String) : Disposal → Process Product
  | .handle handler => (Ownership.handle storeKey id handler).map fun result =>
      .answer (Session.orServiceFailure .handled result)
  | .settle answer => (Ownership.settle storeKey answer).map fun verdict =>
      .answer (Session.orStoreFailure (fun _ => .ok) verdict)
  | .free => (Ownership.free storeKey).map fun verdict => .answer (Session.orStoreFailure (fun _ => .ok) verdict)
  | .leave => (Ownership.leave storeKey).map fun _ => .answer .nothing

-- Holds on to the ownership for as long as the job takes. A crash drops it.
def hold (storeKey : String) (holder : Job Disposal) : Process Product :=
  holder.host (some storeKey) (fun message => .abandon storeKey (.crash message)) (Disposal.process storeKey)

def afterClaim (holder : String → Job Disposal) : Except StoreFailure Claim → Process Product
  | .ok (.owned storeKey) => hold storeKey (holder storeKey)
  | .ok claim => .done (.answer (.claimed claim))
  | .error failure => .done (.answer (.storeFailure failure))

-- A request of any desk of the namespace. What its jobs write themselves lies elsewhere.
inductive Customer (scope : String) : Process Product → Prop where
  | execute {α : Type} (desk : Desk) (key : Option String) (answerOf : α → Answer)
      (handler : Job (Except ServiceFailure α)) (report : Except ServiceFailure (Served α) → Product)
      (here : desk.scope = scope) (spares : JobSpares scope (fun _ => True) handler) :
      Customer scope ((desk.serve key answerOf handler).map report)
  | intercept (desk : Desk) (key : Option String) (holder : String → Job Disposal) (here : desk.scope = scope)
      (spares : ∀ storeKey, JobSpares scope (Disposal.Spares scope) (holder storeKey)) :
      Customer scope ((desk.claim key).bind (afterClaim holder))

section

variable {scope key : String}

theorem disposal_heeds {disposal : Disposal} (under : Under scope key) (spares : disposal.Spares scope) :
    Heeds scope Settled (some key) (disposal.process key) := by
  cases disposal with
  | handle handler => exact heeds_map _ (handle_heeds under id spares)
  | settle answer => exact heeds_map _ (settle_heeds under answer)
  | free => exact heeds_map _ (free_heeds under)
  | leave => exact heeds_map _ (leave_heeds under)

theorem hold_heeds {holder : Job Disposal} (under : Under scope key)
    (spares : JobSpares scope (Disposal.Spares scope) holder) : Heeds scope Settled (some key) (hold key holder) :=
  host_heeds spares (fun message => .abandon under (.crash message)) fun _ spares => disposal_heeds under spares

theorem customer_heeds (process : Process Product) (customer : Customer scope process) :
    Heeds scope Settled none process := by
  cases customer with
  | execute desk key answerOf handler report here spares =>
      subst here
      exact heeds_map _ (serve_heeds desk key answerOf spares)
  | intercept desk key holder here spares =>
      subst here
      refine heeds_bind (claim_heeds desk key) fun held claim claimed => ?_
      cases claim with
      | error failure => exact .done claimed
      | ok claim =>
          cases claim with
          | owned storeKey =>
              obtain ⟨rfl, under⟩ := claimed
              exact hold_heeds under (spares storeKey)
          | unkeyed => exact .done claimed
          | answered answer => exact .done claimed
          | busy => exact .done claimed

-- Prefixes that differ in slashes at their end name one namespace.
theorem scope_slashes (name : List Char) (slashes limit limit' : Nat) :
    (Desk.ofScope (String.ofList (name ++ List.replicate slashes '/')) limit).scope =
      (Desk.ofScope (String.ofList name) limit').scope := by
  simp [Desk.ofScope]

end

theorem bind_assoc {ρ σ τ : Type} (process : Process ρ) (f : ρ → Process σ) (g : σ → Process τ) :
    (process.bind f).bind g = process.bind fun result => (f result).bind g := by
  induction process with
  | done _ => rfl
  | crash _ => rfl
  | ask guard call next ih => exact congrArg (Process.ask guard call) (funext ih)
  | wait guard next ih => exact congrArg (Process.wait guard) ih
  | fresh next ih => exact congrArg Process.fresh (funext ih)
  | started next ih => exact congrArg Process.started ih
  | settle settlement next ih => exact congrArg (Process.settle settlement) (funext ih)
  | abandon key next ih => exact congrArg (Process.abandon key) ih

theorem host_bind {α ρ σ : Type} (guard : Option String) (crashed : String → Process ρ) (ended : α → Process ρ)
    (next : ρ → Process σ) (job : Job α) :
    (job.host guard crashed ended).bind next =
      job.host guard (fun message => (crashed message).bind next) fun value => (ended value).bind next := by
  induction job with
  | done value => rfl
  | crash message => rfl
  | ask call following ih =>
      rw [Job.host, Job.host, Process.bind]
      refine congrArg (Process.ask guard call) (funext fun outcome => ?_)
      cases outcome with
      | ok answer => exact ih _
      | failed failure => exact ih _
      | panicked message => rfl
  | fresh following ih => exact congrArg Process.fresh (funext ih)
  | started following ih => exact congrArg Process.started ih
  | wait following ih => exact congrArg (Process.wait guard) ih

-- What a request that has its handler run does after its claim.
def carryOn {α : Type} (answerOf : α → Answer) (handler : Job (Except ServiceFailure α))
    (report : Except ServiceFailure (Served α) → Product) : Except StoreFailure Claim → Process Product
  | .error failure => .done (report (.error (.ofStore failure)))
  | .ok .unkeyed => handler.process.bind fun result => .done (report (result.map .made))
  | .ok (.answered answer) => .done (report (.ok (.kept answer)))
  | .ok .busy => .done (report (.error .conflict))
  | .ok (.owned storeKey) => (Ownership.handle storeKey answerOf handler).bind fun result =>
      .done (report (result.map .made))

theorem serve_claim {α : Type} (desk : Desk) (key : Option String) (answerOf : α → Answer)
    (handler : Job (Except ServiceFailure α)) (report : Except ServiceFailure (Served α) → Product) :
    (desk.serve key answerOf handler).map report = (desk.claim key).bind (carryOn answerOf handler report) := by
  rw [Desk.serve, Process.map, bind_assoc]
  congr 1
  funext claim
  cases claim with
  | error failure => rfl
  | ok claim =>
      cases claim with
      | unkeyed => exact bind_assoc _ _ _
      | answered answer => rfl
      | busy => rfl
      | owned storeKey => exact bind_assoc _ _ _

-- What a claim makes of the answers to its two calls.
def created (storeKey : String) : Outcome Bool → Process (Except StoreFailure Claim)
  | .ok true => .done (.ok (.owned storeKey))
  | .ok false => .done (.ok .busy)
  | .failed failure => .done (.error failure)
  | .panicked message => .crash message

def lookedUp (storeKey : String) : Outcome (Option Bytes) → Process (Except StoreFailure Claim)
  | .ok (some bytes) => match Record.decode storeKey bytes with
      | .ok (.completed statusCode body) => .done (.ok (.answered ⟨statusCode, body⟩))
      | .ok .inProgress => .done (.ok .busy)
      | .error failure => .done (.error failure)
  | .ok none => .ask none (.create storeKey placeholder) (created storeKey)
  | .failed _ => .ask none (.create storeKey placeholder) (created storeKey)
  | .panicked message => .crash message

theorem claim_keyed (desk : Desk) {key : String} (keyed : key.isEmpty = false) :
    desk.claim (some key) = .ask none (.get (desk.storeKey key)) (lookedUp (desk.storeKey key)) := by
  rw [Desk.claim, if_neg (by simp [keyed])]
  dsimp only
  congr 1
  funext outcome
  rcases outcome with (_ | bytes) | _ | _
  case ok.some =>
    cases read : Record.decode (desk.storeKey key) bytes with
    | error failure => simp only [lookedUp, read]
    | ok record => cases record <;> simp only [lookedUp, read]
  case panicked => rfl
  -- Nothing found, and a look-up that failed, both go on to the creation.
  all_goals
    refine congrArg (Process.ask none (.create (desk.storeKey key) placeholder)) (funext fun outcome => ?_)
    rcases outcome with (_ | _) | _ | _ <;> rfl

end ConfigRegistry.Concurrent
