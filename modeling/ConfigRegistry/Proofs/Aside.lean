import ConfigRegistry.Proofs.Gating
import ConfigRegistry.Proofs.Solitary

set_option autoImplicit false

/-!
Two stores that differ under one key at most, and work that leaves this key alone. Main statements: such work does the
same over both, and a request under a key does nothing of its own but at the key's record.
-/
namespace ConfigRegistry.Concurrent

open Store (Call Memory)
open Work (Job Process)
open Http (Request Response)
open Dedup
open Service
open Solitary (Scene playJob play)

def Elsewhere (storeKey : String) (call : Call) : Prop := call = .ping ∨ call.key ≠ storeKey

def Shuns {α : Type} (storeKey : String) : Job α → Prop
  | .done _ => True
  | .crash _ => True
  | .ask call next => Elsewhere storeKey call ∧ ∀ answer, Shuns storeKey (next answer)
  | .fresh next => ∀ id, Shuns storeKey (next id)
  | .started next => Shuns storeKey next
  | .wait next => Shuns storeKey next

-- One store has the value under the key, the other one nothing, and elsewhere they are the same.
structure Aside (storeKey : String) (value : Option Bytes) (held bare : Memory) : Prop where
  here : held.get? storeKey = value
  free : bare.get? storeKey = none
  same : ∀ key, key ≠ storeKey → held.get? key = bare.get? key

section Stores

variable {storeKey : String} {value : Option Bytes} {held bare : Memory}

theorem aside_refl (free : bare.get? storeKey = none) : Aside storeKey none bare bare := ⟨free, free, fun _ _ => rfl⟩

theorem aside_perform {call : Call} (aside : Aside storeKey value held bare) (elsewhere : Elsewhere storeKey call) :
    (held.perform call).1 = (bare.perform call).1 ∧
      Aside storeKey value (held.perform call).2 (bare.perform call).2 := by
  rcases elsewhere with rfl | different
  · exact ⟨rfl, aside⟩
  have here := (Memory.get_perform_other held call different).trans aside.here
  have free := (Memory.get_perform_other bare call different).trans aside.free
  have found := aside.same call.key different
  have alike : (held.perform call).1 = (bare.perform call).1 ∧
      (held.perform call).2.get? call.key = (bare.perform call).2.get? call.key := by
    cases call with
    | get key => exact ⟨found, found⟩
    | create key value =>
        have present : held.contains key = bare.contains key := congrArg Option.isSome found
        rw [Memory.perform, Memory.perform, present]
        split
        · exact ⟨rfl, found⟩
        · refine ⟨rfl, ?_⟩
          simp only [Call.key, KeyMap.get_insert, if_pos]
    | put key value =>
        refine ⟨rfl, ?_⟩
        simp only [Memory.perform, Call.key, KeyMap.get_insert, if_pos]
    | delete key =>
        refine ⟨congrArg Option.isSome found, ?_⟩
        simp only [Memory.perform, Call.key, KeyMap.get_erase, if_pos]
    | ping => exact ⟨rfl, found⟩
  refine ⟨alike.1, here, free, fun key other => ?_⟩
  by_cases same : call.key = key
  · exact same ▸ alike.2
  · rw [Memory.get_perform_other held call same, Memory.get_perform_other bare call same, aside.same key other]

theorem aside_insert (aside : Aside storeKey value held bare) (bytes : Bytes) :
    Aside storeKey (some bytes) (held.insert storeKey bytes) bare where
  here := by rw [KeyMap.get_insert, if_pos rfl]
  free := aside.free
  same := fun key other => by rw [KeyMap.get_insert, if_neg other.symm, aside.same key other]

theorem aside_erase (aside : Aside storeKey value held bare) : Aside storeKey none (held.erase storeKey) bare where
  here := by rw [KeyMap.get_erase, if_pos rfl]
  free := aside.free
  same := fun key other => by rw [KeyMap.get_erase, if_neg other.symm, aside.same key other]

theorem aside_none (aside : Aside storeKey none held bare) : held = bare := by
  refine KeyMap.eq_of_get fun key => ?_
  by_cases same : key = storeKey
  · rw [same, aside.here, aside.free]
  · exact aside.same key same

theorem aside_some {bytes : Bytes} (aside : Aside storeKey (some bytes) held bare) :
    held = bare.insert storeKey bytes := by
  refine KeyMap.eq_of_get fun key => ?_
  rw [KeyMap.get_insert]
  by_cases same : storeKey = key
  · rw [if_pos same, ← same, aside.here]
  · rw [if_neg same, aside.same key (Ne.symm same)]

end Stores

section Jobs

variable {α : Type} {storeKey : String} {job : Job α}

theorem operates_shuns {allowed : Call → Prop} {post : α → Prop} (operates : Operates allowed post job)
    (elsewhere : ∀ call, allowed call → Elsewhere storeKey call) : Shuns storeKey job := by
  induction job with
  | done value => trivial
  | crash message => trivial
  | ask call next ih => exact ⟨elsewhere call operates.1, fun answer => ih answer (operates.2 answer)⟩
  | fresh next ih => exact fun id => ih id (operates id)
  | started next _ => exact operates.elim
  | wait next _ => exact operates.elim

theorem item_elsewhere (apart : ∀ kind name version, storeKey ≠ Catalog.Kind.key kind name version) (call : Call)
    (item : ItemCall call) : Elsewhere storeKey call := by
  rcases item with ping | ⟨kind, name, version, key⟩
  · exact .inl ping
  · exact .inr fun same => apart kind name version (same.symm.trans key)

theorem play_job_handed {scene after : Scene} {ending : Except String α}
    (plays : playJob job scene = some (ending, after)) :
    after.handed = scene.handed := by
  induction job generalizing scene with
  | done value =>
      cases plays
      rfl
  | crash message =>
      cases plays
      rfl
  | ask call next ih =>
      have rest : after.handed = (scene.called call).handed := ih _ plays
      exact rest
  | fresh next ih =>
      have rest : after.handed = scene.named.handed := ih _ plays
      exact rest
  | started next ih => exact ih plays
  | wait next _ => exact nomatch plays

theorem play_job_aside {value : Option Bytes} {bare after : Scene} {held : Memory} {ending : Except String α}
    (shuns : Shuns storeKey job) (aside : Aside storeKey value held bare.memory)
    (plays : playJob job bare = some (ending, after)) :
    ∃ last, playJob job { bare with memory := held } = some (ending, { after with memory := last }) ∧
      Aside storeKey value last after.memory := by
  induction job generalizing bare held with
  | done result =>
      cases plays
      exact ⟨held, rfl, aside⟩
  | crash message =>
      cases plays
      exact ⟨held, rfl, aside⟩
  | ask call next ih =>
      obtain ⟨same, later⟩ := aside_perform aside shuns.1
      rw [playJob] at plays ⊢
      dsimp only
      rw [same]
      have called : Aside storeKey value (held.perform call).2 (bare.called call).memory := later
      have rest := ih _ (shuns.2 _) called plays
      exact rest
  | fresh next ih =>
      have named : Aside storeKey value held bare.named.memory := aside
      have rest := ih _ (shuns _) named plays
      exact rest
  | started next ih => exact ih shuns aside plays
  | wait next _ => exact nomatch plays

-- A job that only asks the store and takes ids comes to its end.
theorem operates_plays {allowed : Call → Prop} {post : α → Prop} (operates : Operates allowed post job)
    (scene : Scene) :
    ∃ value after, playJob job scene = some (.ok value, after) ∧ post value := by
  induction job generalizing scene with
  | done value => exact ⟨value, scene, rfl, operates⟩
  | crash message => exact operates.elim
  | ask call next ih => exact ih _ (operates.2 _) _
  | fresh next ih => exact ih _ (operates _) _
  | started next _ => exact operates.elim
  | wait next _ => exact operates.elim

end Jobs

section Processes

variable {α ρ σ : Type}

-- Frees the key on the way to a response.
def cleared (storeKey : String) (response : Response) : Process Response :=
  .ask (some storeKey) (.delete storeKey) fun
    | .ok _ => .done response
    | .failed _ => .abandon storeKey (.done response)
    | .panicked _ => .abandon storeKey (.done crashAnswer)

def tooLong (limit : Nat) : Response :=
  (ServiceFailure.handlerFailure ("response body could not be buffered within " ++ toString limit ++
    " bytes: length limit exceeded")).response

-- What is left to do for a response under an owned key.
def concluded (limit : Nat) (storeKey : String) (response : Response) : Process Response :=
  if limit < response.body.length then cleared storeKey (tooLong limit)
  else .settle (Ownership.settlement storeKey (answerOf response)) fun
    | .ok () => .done response
    | .error failure => .done (ServiceFailure.ofStore failure).response

theorem caught_host (handler : Job Response) :
    caught handler.process = handler.host none (fun _ => .done crashAnswer) .done := by
  induction handler with
  | done response => rfl
  | crash message => rfl
  | ask call next ih =>
      rw [Job.process, Job.host, Job.host]
      refine congrArg (Process.ask none call) (funext fun outcome => ?_)
      cases outcome with
      | ok answer => exact ih _
      | failed failure => exact ih _
      | panicked message => rfl
  | fresh next ih => exact congrArg Process.fresh (funext ih)
  | started next ih => exact congrArg Process.started ih
  | wait next ih => exact congrArg (Process.wait none) ih

theorem under_key_host (desk : Desk) (storeKey : String) (handler : Job Response) :
    underKey desk storeKey handler =
      handler.host (some storeKey) (fun _ => cleared storeKey crashAnswer) (concluded desk.bodyLimit storeKey) := by
  have crashes (message : String) : underKey desk storeKey (.crash message) = cleared storeKey crashAnswer := by
    refine congrArg (Process.ask (some storeKey) (.delete storeKey)) (funext fun outcome => ?_)
    cases outcome <;> rfl
  induction handler with
  | done response =>
      change _ = concluded desk.bodyLimit storeKey response
      by_cases long : desk.bodyLimit < response.body.length
      · have refused : buffered desk.bodyLimit (.done response) = .done (.error _) := congrArg Job.done (if_pos long)
        rw [concluded, if_pos long, underKey, refused]
        refine congrArg (Process.ask (some storeKey) (.delete storeKey)) (funext fun outcome => ?_)
        cases outcome <;> rfl
      · have passed : buffered desk.bodyLimit (.done response) = .done (.ok response) := congrArg Job.done (if_neg long)
        rw [concluded, if_neg long, underKey, passed]
        refine congrArg (Process.settle _) (funext fun verdict => ?_)
        cases verdict <;> rfl
  | crash message => exact crashes message
  | ask call next ih =>
      rw [underKey, Ownership.handle, buffered, Job.bind, Job.host, Job.host]
      refine congrArg (Process.ask (some storeKey) call) (funext fun outcome => ?_)
      cases outcome with
      | ok answer => exact ih _
      | failed failure => exact ih _
      | panicked message => exact crashes message
  | fresh next ih => exact congrArg Process.fresh (funext ih)
  | started next ih => exact congrArg Process.started ih
  | wait next ih => exact congrArg (Process.wait (some storeKey)) ih

end Processes
end ConfigRegistry.Concurrent
