import ConfigRegistry.Proofs.Aside
import ConfigRegistry.Proofs.Schedules
import ConfigRegistry.Proofs.Visitors

set_option autoImplicit false

/-!
A request under a new key among others, beside the same request without a key among the same others. Main statement:
in every run the one is as far as the other, their worlds differ in the record and in the task that writes it, and
leaving out what the desk does makes the one run the other.
-/
namespace ConfigRegistry.Concurrent

open Store (Call Outcome Memory)
open Work (Job Process Settlement)
open Session (Product)
open Http (Response)
open Dedup
open Service

def owning (desk : Desk) (storeKey : String) (report : Response → Product) (job : Job Response) : Process Product :=
  (job.host (some storeKey) (fun _ => cleared storeKey crashAnswer) (concluded desk.bodyLimit storeKey)).map report

def unkeyed (report : Response → Product) (job : Job Response) : Process Product :=
  (job.host none (fun _ => .done crashAnswer) .done).map report

def recordOf (storeKey : String) (response : Response) : Option Bytes :=
  (Ownership.settlement storeKey (answerOf response)).value

-- How far the request is: its stage under the key, the task of its settlement, its process without the key, and what
-- lies under the key.
inductive Abreast (desk : Desk) (storeKey : String) (report : Response → Product) :
    Stage → Option (Nat × Process Product) → Process Product → Option Bytes → Prop where
  | looking {handler : Job Response} (shuns : Shuns storeKey handler) :
      Abreast desk storeKey report
        (.active ((claimed desk handler (.ask none (.get storeKey) (lookedUp storeKey))).map report)) none
        (unkeyed report handler) none
  | creating {handler : Job Response} (shuns : Shuns storeKey handler) :
      Abreast desk storeKey report
        (.active ((claimed desk handler (.ask none (.create storeKey placeholder) (created storeKey))).map report)) none
        (unkeyed report handler) none
  | running {job : Job Response} (shuns : Shuns storeKey job) :
      Abreast desk storeKey report (.active (owning desk storeKey report job)) none (unkeyed report job)
        (some placeholder)
  | storing {child : Nat} {next : Except StoreFailure Unit → Process Product} {response : Response}
      (resumes : next (.ok ()) = .done (report response)) :
      Abreast desk storeKey report (.settling child next)
        (some (child, settlementProcess (Ownership.settlement storeKey (answerOf response)))) (.done (report response))
        (some placeholder)
  | stored {child : Nat} {next : Except StoreFailure Unit → Process Product} {response : Response}
      (resumes : next (.ok ()) = .done (report response)) :
      Abreast desk storeKey report (.settling child next) (some (child, .done (.verdict (.ok ()))))
        (.done (report response)) (recordOf storeKey response)
  | told {child : Nat} {response : Response} :
      Abreast desk storeKey report (.active (.done (report response))) (some (child, .done (.verdict (.ok ()))))
        (.done (report response)) (recordOf storeKey response)
  | refused {response other : Response}
      (why : other = response ∧ isKept response.status = false ∨ desk.bodyLimit < response.body.length) :
      Abreast desk storeKey report (.active (.done (report other))) none (.done (report response)) none

structure Alongside (desk : Desk) (storeKey : String) (report : Response → Product) (number : Nat) (stage : Stage)
    (child : Option (Nat × Process Product)) (process : Process Product) (value : Option Bytes) (held bare : World) :
    Prop where
  abreast : Abreast desk storeKey report stage child process value
  keyed : held.tasks number = some ⟨.request, stage⟩
  plain : bare.tasks number = some ⟨.request, .active process⟩
  aside : Aside storeKey value held.memory bare.memory
  extra : ∀ other process, child = some (other, process) → other ≠ number ∧
    held.tasks other = some ⟨.settlement number, .active process⟩ ∧ bare.tasks other = none
  others : ∀ other, other ≠ number → (∀ process, child ≠ some (other, process)) → held.tasks other = bare.tasks other
  waits : ∀ other role awaited next, bare.tasks other = some ⟨role, .settling awaited next⟩ →
    awaited ≠ number ∧ bare.tasks awaited ≠ none

def Beside (desk : Desk) (storeKey : String) (report : Response → Product) (number : Nat) (held bare : World) : Prop :=
  ∃ stage child process value, Alongside desk storeKey report number stage child process value held bare

section

variable {desk : Desk} {storeKey : String} {report : Response → Product} {number : Nat} {stage : Stage}
  {child : Option (Nat × Process Product)} {process : Process Product} {value : Option Bytes} {held bare after : World}
  {program : Process Product → Prop} {event : Event}

section Tasks

theorem alongside_free (alongside : Alongside desk storeKey report number stage child process value held bare)
    {other : Nat} (free : held.tasks other = none) :
    other ≠ number ∧ (∀ process, child ≠ some (other, process)) ∧ bare.tasks other = none := by
  have different : other ≠ number := by
    rintro rfl
    exact nomatch free.symm.trans alongside.keyed
  have apart (process : Process Product) : child ≠ some (other, process) := by
    intro same
    exact nomatch free.symm.trans (alongside.extra other process same).2.1
  exact ⟨different, apart, (alongside.others other different apart).symm.trans free⟩

-- The request takes a step in both worlds.
theorem alongside_own {stage' : Stage} {process' : Process Product} {value' : Option Bytes} {memory memory' : Memory}
    (alongside : Alongside desk storeKey report number stage none process value held bare)
    (abreast : Abreast desk storeKey report stage' none process' value')
    (aside : Aside storeKey value' memory memory') :
    Alongside desk storeKey report number stage' none process' value'
      (World.put { held with memory } number ⟨.request, stage'⟩)
      (World.put { bare with memory := memory' } number ⟨.request, .active process'⟩) where
  abreast := abreast
  keyed := World.put_tasks_self _ _ _
  plain := World.put_tasks_self _ _ _
  aside := aside
  extra := fun _ _ same => nomatch same
  others := by
    intro other different apart
    rw [World.put_tasks_other _ _ _ _ different, World.put_tasks_other _ _ _ _ different]
    exact alongside.others other different apart
  waits := by
    intro other role awaited next present
    have different : other ≠ number := by
      rintro rfl
      rw [World.put_tasks_self] at present
      exact nomatch present
    rw [World.put_tasks_other _ _ _ _ different] at present
    obtain ⟨apart, there⟩ := alongside.waits other role awaited next present
    exact ⟨apart, (World.put_tasks_other _ _ _ _ apart).symm ▸ there⟩

-- The request takes a step under the key alone.
theorem alongside_keyed {stage' : Stage} {value' : Option Bytes} {memory : Memory}
    (alongside : Alongside desk storeKey report number stage child process value held bare)
    (abreast : Abreast desk storeKey report stage' child process value')
    (aside : Aside storeKey value' memory bare.memory) :
    Alongside desk storeKey report number stage' child process value'
      (World.put { held with memory } number ⟨.request, stage'⟩) bare where
  abreast := abreast
  keyed := World.put_tasks_self _ _ _
  plain := alongside.plain
  aside := aside
  extra := by
    intro other process same
    obtain ⟨different, present, absent⟩ := alongside.extra other process same
    exact ⟨different, (World.put_tasks_other _ _ _ _ different).trans present, absent⟩
  others := fun other different apart =>
    (World.put_tasks_other _ _ _ _ different).trans (alongside.others other different apart)
  waits := alongside.waits

-- Another task takes a step in both worlds.
theorem alongside_put {other : Nat} {task : Task} (different : other ≠ number)
    (apart : ∀ process, child ≠ some (other, process))
    (settles : ∀ awaited next, task.stage = .settling awaited next → awaited ≠ number ∧ bare.tasks awaited ≠ none)
    (alongside : Alongside desk storeKey report number stage child process value held bare) :
    Alongside desk storeKey report number stage child process value (held.put other task) (bare.put other task) where
  abreast := alongside.abreast
  keyed := (World.put_tasks_other _ _ _ _ different.symm).trans alongside.keyed
  plain := (World.put_tasks_other _ _ _ _ different.symm).trans alongside.plain
  aside := alongside.aside
  extra := by
    intro last process same
    have far : last ≠ other := by
      rintro rfl
      exact apart process same
    rw [World.put_tasks_other _ _ _ _ far, World.put_tasks_other _ _ _ _ far]
    exact alongside.extra last process same
  others := by
    intro last distinct clear
    by_cases same : last = other
    · subst same
      rw [World.put_tasks_self, World.put_tasks_self]
    · rw [World.put_tasks_other _ _ _ _ same, World.put_tasks_other _ _ _ _ same]
      exact alongside.others last distinct clear
  waits := by
    intro last role awaited next present
    have there : awaited ≠ number ∧ bare.tasks awaited ≠ none := by
      by_cases same : last = other
      · subst same
        rw [World.put_tasks_self, Option.some.injEq] at present
        exact settles awaited next (congrArg Task.stage present)
      · rw [World.put_tasks_other _ _ _ _ same] at present
        exact alongside.waits last role awaited next present
    refine ⟨there.1, ?_⟩
    by_cases same : awaited = other
    · subst same
      rw [World.put_tasks_self]
      exact Option.some_ne_none _
    · rw [World.put_tasks_other _ _ _ _ same]
      exact there.2

-- The task of the settlement takes a step.
theorem alongside_child {other : Nat} {own own' : Process Product} {value' : Option Bytes} {memory : Memory}
    (alongside : Alongside desk storeKey report number stage (some (other, own)) process value held bare)
    (abreast : Abreast desk storeKey report stage (some (other, own')) process value')
    (aside : Aside storeKey value' memory bare.memory) :
    Alongside desk storeKey report number stage (some (other, own')) process value'
      (World.put { held with memory } other ⟨.settlement number, .active own'⟩) bare := by
  obtain ⟨different, -, absent⟩ := alongside.extra other own rfl
  exact
    { abreast := abreast
      keyed := (World.put_tasks_other _ _ _ _ different.symm).trans alongside.keyed
      plain := alongside.plain
      aside := aside
      extra := by
        intro last process same
        cases same
        exact ⟨different, World.put_tasks_self _ _ _, absent⟩
      others := by
        intro last distinct apart
        have far : last ≠ other := by
          rintro rfl
          exact apart _ rfl
        rw [World.put_tasks_other _ _ _ _ far]
        exact alongside.others last distinct fun _ same => far (congrArg Prod.fst (Option.some.inj same)).symm
      waits := alongside.waits }

theorem put_comm (world : World) {first second : Nat} (task added : Task) (different : first ≠ second) :
    (world.put first task).put second added = (world.put second added).put first task := by
  rw [World.put, World.put, World.put, World.put]
  congr 1
  funext other
  by_cases last : other = second
  · subst last
    simp [different.symm]
  · simp [last]

theorem alongside_active {other : Nat} {role : Role} {own : Process Product} (different : other ≠ number)
    (apart : ∀ process, child ≠ some (other, process))
    (alongside : Alongside desk storeKey report number stage child process value held bare) :
    Alongside desk storeKey report number stage child process value (held.put other ⟨role, .active own⟩)
      (bare.put other ⟨role, .active own⟩) :=
  alongside_put different apart (fun _ _ same => nomatch same) alongside

theorem alongside_memory {memory memory' : Memory} (aside : Aside storeKey value memory memory')
    (alongside : Alongside desk storeKey report number stage child process value held bare) :
    Alongside desk storeKey report number stage child process value { held with memory }
      { bare with memory := memory' } :=
  { alongside with aside }

end Tasks

section Settlements

theorem settlement_asks (settlement : Settlement) :
    ∃ call next, settlementProcess settlement = .ask (some settlement.key) call next ∧
      (∀ memory : Memory, (memory.perform call).2 = Solitary.settled memory settlement) ∧
        ∀ answer, next (.ok answer) = .done (.verdict (.ok ())) := by
  obtain ⟨key, value⟩ := settlement
  cases value with
  | none => exact ⟨_, _, rfl, fun _ => rfl, fun _ => rfl⟩
  | some value => exact ⟨_, _, rfl, fun _ => rfl, fun _ => rfl⟩

theorem aside_settled {held bare : Memory} (aside : Aside storeKey value held bare) (response : Response) :
    Aside storeKey (recordOf storeKey response)
      (Solitary.settled held (Ownership.settlement storeKey (answerOf response))) bare := by
  rw [recordOf, Solitary.settled]
  cases (Ownership.settlement storeKey (answerOf response)).value with
  | none => exact aside_erase aside
  | some bytes => exact aside_insert aside bytes

end Settlements

section Steps

-- A step under the key is one without it, or one that the request without a key does not take.
def Followed (desk : Desk) (storeKey : String) (report : Response → Product) (number : Nat)
    (program : Process Product → Prop) (event : Event) (after bare : World) : Prop :=
  Beside desk storeKey report number after bare ∨
    ∃ later, Step Faultless program bare event later ∧ Beside desk storeKey report number after later

theorem cleared_followed {response other : Response}
    (why : other = response ∧ isKept response.status = false ∨ desk.bodyLimit < response.body.length)
    (alongside : Alongside desk storeKey report number stage none (.done (report response)) value held bare)
    (present : held.tasks number = some ⟨.request, .active ((cleared storeKey other).map report)⟩)
    (step : Step Faultless program held event after) (actor : event.actor = number)
    (uncancelled : event ≠ .cancelled number) : Followed desk storeKey report number program event after bare := by
  obtain ⟨outcome, memory, allowed, rfl, rfl⟩ := step_does present step actor uncancelled
  cases allowed with
  | answered =>
      have moved := alongside_keyed alongside (.refused why) (aside_erase alongside.aside)
      exact .inl ⟨_, _, _, _, moved⟩

theorem handed_followed {response : Response} {next : Except StoreFailure Unit → Process Product}
    (resumes : next (.ok ()) = .done (report response))
    (alongside : Alongside desk storeKey report number stage none (.done (report response)) (some placeholder)
      held bare)
    (present : held.tasks number =
      some ⟨.request, .active (.settle (Ownership.settlement storeKey (answerOf response)) next)⟩)
    (step : Step Faultless program held event after) (actor : event.actor = number)
    (uncancelled : event ≠ .cancelled number) : Followed desk storeKey report number program event after bare := by
  obtain ⟨child, free, rfl⟩ := step_moves present step actor uncancelled
  obtain ⟨different, -, absent⟩ := alongside_free alongside free
  have moved : Alongside desk storeKey report number (.settling child next) (some (child, _)) _ _
      ((held.put number ⟨.request, .settling child next⟩).put child ⟨.settlement number, .active _⟩) bare :=
    { abreast := .storing resumes
      keyed := (World.put_tasks_other _ _ _ _ different.symm).trans (World.put_tasks_self _ _ _)
      plain := alongside.plain
      aside := alongside.aside
      extra := by
        intro other process same
        cases same
        exact ⟨different, World.put_tasks_self _ _ _, absent⟩
      others := by
        intro other distinct apart
        have far : other ≠ child := by
          rintro rfl
          exact apart _ rfl
        rw [World.put_tasks_other _ _ _ _ far, World.put_tasks_other _ _ _ _ distinct]
        exact alongside.others other distinct fun _ same => nomatch same
      waits := alongside.waits }
  exact .inl ⟨_, _, _, _, moved⟩

theorem running_followed {job : Job Response} (shuns : Shuns storeKey job)
    (alongside : Alongside desk storeKey report number (.active (owning desk storeKey report job)) none
      (unkeyed report job) (some placeholder) held bare)
    (step : Step Faultless program held event after) (actor : event.actor = number)
    (uncancelled : event ≠ .cancelled number) : Followed desk storeKey report number program event after bare := by
  have keyed := alongside.keyed
  have plain := alongside.plain
  cases job with
  | done response =>
      have ends : owning desk storeKey report (.done response) =
          (concluded desk.bodyLimit storeKey response).map report :=
        rfl
      rw [ends, concluded] at keyed
      by_cases long : desk.bodyLimit < response.body.length
      · rw [if_pos long] at keyed
        exact cleared_followed (.inr long) alongside keyed step actor uncancelled
      · rw [if_neg long] at keyed
        exact handed_followed rfl alongside keyed step actor uncancelled
  | crash message => exact cleared_followed (.inl ⟨rfl, rfl⟩) alongside keyed step actor uncancelled
  | ask call next =>
      rw [owning, Job.host] at keyed
      rw [unkeyed, Job.host] at plain
      obtain ⟨outcome, memory, allowed, rfl, rfl⟩ := step_does keyed step actor uncancelled
      cases allowed with
      | answered =>
          obtain ⟨same, aside⟩ := aside_perform alongside.aside shuns.1
          rw [same]
          have moved := alongside_own alongside (.running (shuns.2 (.ok (bare.memory.perform call).1))) aside
          exact .inr ⟨_, .call plain .answered, _, _, _, _, moved⟩
  | fresh next =>
      obtain ⟨id, rfl, rfl⟩ := step_does keyed step actor uncancelled
      have moved := alongside_own alongside (.running (shuns id)) alongside.aside
      exact .inr ⟨_, .fresh id plain, _, _, _, _, moved⟩
  | started next =>
      have rest : Shuns storeKey next := shuns
      obtain ⟨rfl, rfl⟩ := step_does keyed step actor uncancelled
      have moved := alongside_own alongside (.running rest) alongside.aside
      exact .inr ⟨_, .start plain, _, _, _, _, moved⟩
  | wait next =>
      have rest : Shuns storeKey next := shuns
      obtain ⟨rfl, rfl⟩ := step_does keyed step actor uncancelled
      have moved := alongside_own alongside (.running rest) alongside.aside
      exact .inr ⟨_, .wait plain, _, _, _, _, moved⟩

-- The request itself takes a step.
theorem own_followed (alongside : Alongside desk storeKey report number stage child process value held bare)
    (step : Step Faultless program held event after) (actor : event.actor = number)
    (uncancelled : event ≠ .cancelled number) : Followed desk storeKey report number program event after bare := by
  have keyed := alongside.keyed
  cases alongside.abreast with
  | looking shuns =>
      obtain ⟨outcome, memory, allowed, rfl, rfl⟩ := step_does keyed step actor uncancelled
      cases allowed with
      | answered =>
          have absent : (held.memory.perform (.get storeKey)).1 = none := alongside.aside.here
          rw [absent]
          exact .inl ⟨_, _, _, _, alongside_keyed alongside (.creating shuns) alongside.aside⟩
  | creating shuns =>
      obtain ⟨outcome, memory, allowed, rfl, rfl⟩ := step_does keyed step actor uncancelled
      cases allowed with
      | answered =>
          have won : held.memory.perform (.create storeKey placeholder) =
              (true, held.memory.insert storeKey placeholder) :=
            if_neg (by simp [KeyMap.contains, alongside.aside.here])
          rw [won]
          have moved := alongside_keyed alongside (.running shuns) (aside_insert alongside.aside placeholder)
          rw [owning, ← under_key_host] at moved
          exact .inl ⟨_, _, _, _, moved⟩
  | running shuns => exact running_followed shuns alongside step actor uncancelled
  | storing resumes =>
      obtain ⟨task, outcome, ended, ending, -⟩ := step_moves keyed step actor uncancelled
      obtain ⟨-, present, -⟩ := alongside.extra _ _ rfl
      obtain ⟨call, next, asks, -⟩ := settlement_asks (Ownership.settlement storeKey (answerOf _))
      rw [asks] at present
      cases present.symm.trans ended
      cases ending
  | stored resumes =>
      obtain ⟨task, outcome, ended, ending, rfl⟩ := step_moves keyed step actor uncancelled
      obtain ⟨-, present, -⟩ := alongside.extra _ _ rfl
      cases present.symm.trans ended
      cases ending
      rw [verdictOf, resumes]
      exact .inl ⟨_, _, _, _, alongside_keyed alongside .told alongside.aside⟩
  | told => exact (step_moves keyed step actor uncancelled).elim
  | refused why => exact (step_moves keyed step actor uncancelled).elim

-- The task of the request's settlement takes a step.
theorem child_followed {other : Nat} {own : Process Product}
    (alongside : Alongside desk storeKey report number stage (some (other, own)) process value held bare)
    (step : Step Faultless program held event after) (actor : event.actor = other) :
    Followed desk storeKey report number program event after bare := by
  obtain ⟨different, present, absent⟩ := alongside.extra other own rfl
  have uncancelled : event ≠ .cancelled other := by
    rintro rfl
    cases step with
    | cancel waits _ => exact nomatch present.symm.trans waits
  cases alongside.abreast with
  | storing resumes =>
      obtain ⟨call, next, asks, writes, goes⟩ := settlement_asks (Ownership.settlement storeKey (answerOf _))
      rw [asks] at present
      obtain ⟨outcome, memory, allowed, rfl, rfl⟩ := step_does present step actor uncancelled
      cases allowed with
      | answered =>
          rw [writes, goes]
          have moved := alongside_child alongside (.stored resumes) (aside_settled alongside.aside _)
          exact .inl ⟨_, _, _, _, moved⟩
  | stored resumes => exact (step_moves present step actor uncancelled).elim
  | told => exact (step_moves present step actor uncancelled).elim

-- Anybody else takes a step.
theorem other_followed (alongside : Alongside desk storeKey report number stage child process value held bare)
    (abides : bare.Abides (Elsewhere storeKey)) (step : Step Faultless program held event after)
    (different : event.actor ≠ number) (apart : ∀ process, child ≠ some (event.actor, process)) :
    ∃ later, Step Faultless program bare event later ∧ Beside desk storeKey report number after later := by
  have alike := alongside.others event.actor different apart
  cases step with
  | begin free admitted =>
      exact ⟨_, .begin (alike.symm.trans free) admitted, _, _, _, _, alongside_active different apart alongside⟩
  | @call other role guard call next outcome memory present allowed =>
      have plain := alike.symm.trans present
      cases allowed with
      | answered =>
          obtain ⟨same, aside⟩ := aside_perform alongside.aside (abides _ _ plain).2.1
          rw [same]
          exact ⟨_, .call plain .answered, _, _, _, _,
            alongside_active different apart (alongside_memory aside alongside)⟩
  | wait present =>
      exact ⟨_, .wait (alike.symm.trans present), _, _, _, _, alongside_active different apart alongside⟩
  | fresh id present =>
      exact ⟨_, .fresh id (alike.symm.trans present), _, _, _, _, alongside_active different apart alongside⟩
  | start present =>
      exact ⟨_, .start (alike.symm.trans present), _, _, _, _, alongside_active different apart alongside⟩
  | @settle other fresh role settlement next present free =>
      obtain ⟨distinct, clear, absent⟩ := alongside_free alongside free
      have far : other ≠ fresh := by
        rintro rfl
        exact nomatch free.symm.trans present
      let added : Task := ⟨.settlement (role.origin other), .active (settlementProcess settlement)⟩
      let waiting : Task := ⟨role, .settling fresh next⟩
      have settles (awaited : Nat) (following : Except StoreFailure Unit → Process Product)
          (same : waiting.stage = .settling awaited following) :
          awaited ≠ number ∧ (bare.put fresh added).tasks awaited ≠ none := by
        cases same
        rw [World.put_tasks_self]
        exact ⟨distinct, Option.some_ne_none _⟩
      have moved : Alongside desk storeKey report number stage child process value
          ((held.put fresh added).put other waiting) ((bare.put fresh added).put other waiting) :=
        alongside_put different apart settles (alongside_active distinct clear alongside)
      rw [put_comm held added waiting far.symm, put_comm bare added waiting far.symm] at moved
      exact ⟨_, .settle (alike.symm.trans present) absent, _, _, _, _, moved⟩
  | abandon present free =>
      obtain ⟨distinct, clear, absent⟩ := alongside_free alongside free
      exact ⟨_, .abandon (alike.symm.trans present) absent, _, _, _, _,
        alongside_active distinct clear (alongside_active different apart alongside)⟩
  | lose present =>
      exact ⟨_, .lose (alike.symm.trans present), _, _, _, _, alongside_active different apart alongside⟩
  | @resume other awaited role next task outcome present ended ending =>
      have plain := alike.symm.trans present
      obtain ⟨distinct, there⟩ := alongside.waits _ _ _ _ plain
      have same := alongside.others awaited distinct fun own mine => there (alongside.extra awaited own mine).2.2
      exact ⟨_, .resume plain (same.symm.trans ended) ending, _, _, _, _, alongside_active different apart alongside⟩
  | cancel present left =>
      exact ⟨_, .cancel (alike.symm.trans present) left, _, _, _, _, alongside_active different apart alongside⟩

theorem step_followed (beside : Beside desk storeKey report number held bare)
    (abides : bare.Abides (Elsewhere storeKey)) (step : Step Faultless program held event after)
    (uncancelled : event ≠ .cancelled number) : Followed desk storeKey report number program event after bare := by
  obtain ⟨stage, child, process, value, alongside⟩ := beside
  by_cases own : event.actor = number
  · exact own_followed alongside step own uncancelled
  · cases child with
    | none => exact .inr (other_followed alongside abides step own fun _ same => nomatch same)
    | some mine =>
        obtain ⟨other, process⟩ := mine
        by_cases same : event.actor = other
        · exact child_followed alongside step same
        · exact .inr (other_followed alongside abides step own fun _ equal =>
            same (congrArg Prod.fst (Option.some.inj equal)).symm)

-- What the request's own steps are left out of is a run without the key.
theorem run_beside {start first : World} {events : List Event}
    (programs : ∀ process, program process → Abides (Elsewhere storeKey) (fun _ => True) process)
    (beside : Beside desk storeKey report number start first) (abides : first.Abides (Elsewhere storeKey))
    (run : Run Faultless program start events held) (uncancelled : .cancelled number ∉ events) :
    ∃ fewer last, Run Faultless program first fewer last ∧ fewer.Sublist events ∧ last.Abides (Elsewhere storeKey) ∧
      Beside desk storeKey report number held last := by
  induction run with
  | start => exact ⟨[], first, .start, List.Sublist.refl _, abides, beside⟩
  | @step events world after event earlier step ih =>
      obtain ⟨fewer, last, run, among, abides, beside⟩ := ih fun found => uncancelled (List.mem_cons_of_mem _ found)
      have other : event ≠ .cancelled number := by
        rintro rfl
        exact uncancelled List.mem_cons_self
      rcases step_followed beside abides step other with still | ⟨later, moves, both⟩
      · exact ⟨fewer, last, run, among.cons event, abides, still⟩
      · exact ⟨event :: fewer, later, .step run moves, among.cons_cons event, (step_abides programs abides moves).1,
          both⟩

end Steps
end
end ConfigRegistry.Concurrent
