import ConfigRegistry.Proofs.Solitary

set_option autoImplicit false

/-!
Processes that are served alone, with whatever ids they are given. Main statement: a composed process is served as
its parts are, one after the other.
-/
namespace ConfigRegistry.Solitary

open Store (Call Memory)
open Work (Job Process)

-- How a process may end over a store that never fails and that nobody else asks, and what it leaves there.
def Serves {ρ : Type} : Process ρ → Memory → Except String ρ → Memory → Prop
  | .done result, memory, ending, after => ending = .ok result ∧ after = memory
  | .crash message, memory, ending, after => ending = .error message ∧ after = memory
  | .ask _ call next, memory, ending, after =>
      Serves (next (.ok (memory.perform call).1)) (memory.perform call).2 ending after
  | .wait _ _, _, _, _ => False
  | .fresh next, memory, ending, after => ∃ id, Serves (next id) memory ending after
  | .started next, memory, ending, after => Serves next memory ending after
  | .settle settlement next, memory, ending, after => Serves (next (.ok ())) (settled memory settlement) ending after
  | .abandon _ _, _, _, _ => False

-- A process that takes ids and does nothing else.
def Names {ρ : Type} (post : ρ → Prop) : Process ρ → Prop
  | .done result => post result
  | .fresh next => ∀ id, Names post (next id)
  | _ => False

section Parts

variable {α β ρ σ : Type} {memory after : Memory}

theorem serves_bind {process : Process ρ} {next : ρ → Process σ} {ending : Except String σ}
    (serves : Serves (process.bind next) memory ending after) :
    (∃ result between, Serves process memory (.ok result) between ∧ Serves (next result) between ending after) ∨
      ∃ message, Serves process memory (.error message) after ∧ ending = .error message := by
  induction process generalizing memory with
  | done result => exact .inl ⟨result, memory, ⟨rfl, rfl⟩, serves⟩
  | crash message =>
      obtain ⟨rfl, rfl⟩ := serves
      exact .inr ⟨message, ⟨rfl, rfl⟩, rfl⟩
  | ask guard call following ih => exact ih _ serves
  | wait guard following _ => exact serves.elim
  | fresh following ih =>
      obtain ⟨id, serves⟩ := serves
      rcases ih id serves with ⟨result, between, first, rest⟩ | ⟨message, crashes, same⟩
      · exact .inl ⟨result, between, ⟨id, first⟩, rest⟩
      · exact .inr ⟨message, ⟨id, crashes⟩, same⟩
  | started following ih => exact ih serves
  | settle settlement following ih => exact ih _ serves
  | abandon key following _ => exact serves.elim

theorem serves_then {process : Process ρ} {next : ρ → Process σ} {last : σ}
    (serves : Serves (process.bind next) memory (.ok last) after) :
    ∃ result between, Serves process memory (.ok result) between ∧ Serves (next result) between (.ok last) after := by
  rcases serves_bind serves with goes | ⟨message, -, same⟩
  · exact goes
  · cases same

theorem serves_map {process : Process ρ} {f : ρ → σ} {ending : Except String σ}
    (serves : Serves (process.map f) memory ending after) :
    ∃ first, Serves process memory first after ∧ ending = first.map f := by
  rcases serves_bind serves with ⟨result, between, first, rfl, rfl⟩ | ⟨message, crashes, rfl⟩
  · exact ⟨.ok result, first, rfl⟩
  · exact ⟨.error message, crashes, rfl⟩

theorem serves_rescue {process : Process ρ} {f : String → ρ} {ending : Except String ρ}
    (serves : Serves (process.rescue f) memory ending after) :
    ∃ first, Serves process memory first after ∧
      ending = .ok (match first with | .ok result => result | .error message => f message) := by
  induction process generalizing memory with
  | done result =>
      obtain ⟨rfl, rfl⟩ := serves
      exact ⟨_, ⟨rfl, rfl⟩, rfl⟩
  | crash message =>
      obtain ⟨rfl, rfl⟩ := serves
      exact ⟨_, ⟨rfl, rfl⟩, rfl⟩
  | ask guard call following ih => exact ih _ serves
  | wait guard following _ => exact serves.elim
  | fresh following ih =>
      obtain ⟨id, serves⟩ := serves
      obtain ⟨first, goes, same⟩ := ih id serves
      exact ⟨first, ⟨id, goes⟩, same⟩
  | started following ih => exact ih serves
  | settle settlement following ih => exact ih _ serves
  | abandon key following _ => exact serves.elim

theorem process_bind (job : Job α) (next : α → Job β) :
    (job.bind next).process = job.process.bind fun value => (next value).process := by
  induction job with
  | done value => rfl
  | crash message => rfl
  | ask call following ih =>
      rw [Job.bind, Job.process, Job.process, Job.host, Job.host, Process.bind, Process.ask.injEq]
      refine ⟨rfl, rfl, heq_of_eq (funext fun outcome => ?_)⟩
      cases outcome with
      | ok answer => exact ih _
      | failed failure => exact ih _
      | panicked message => rfl
  | fresh following ih => exact congrArg Process.fresh (funext ih)
  | started following ih => exact congrArg Process.started ih
  | wait following ih => exact congrArg (Process.wait none) ih

variable {first : ρ → Prop} {second : σ → Prop}

theorem names_bind {process : Process ρ} {next : ρ → Process σ} (names : Names first process)
    (rest : ∀ result, first result → Names second (next result)) : Names second (process.bind next) := by
  induction process with
  | done result => exact rest result names
  | fresh following ih => exact fun id => ih id (names id)
  | _ => exact names.elim

theorem names_serves {process : Process ρ} {ending : Except String ρ} (names : Names first process)
    (serves : Serves process memory ending after) : ∃ result, ending = .ok result ∧ first result ∧ after = memory := by
  induction process with
  | done result => exact ⟨result, serves.1, names, serves.2⟩
  | fresh following ih =>
      obtain ⟨id, serves⟩ := serves
      exact ih id (names id) serves
  | _ => exact names.elim

end Parts
end ConfigRegistry.Solitary
