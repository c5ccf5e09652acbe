import ConfigRegistry.Proofs.Courses
import ConfigRegistry.Proofs.World

set_option autoImplicit false

/-!
What an ownership does once its handler has ended. Main statement: it makes one call, which keeps or frees the key, and
after one that failed it makes a deletion; it never frees a key that it has kept; and it says that the key was kept
or freed only where the store has said so.
-/
namespace ConfigRegistry.Concurrent

open Store (Call Outcome)
open Work (Job Process Settlement)
open Session (Product)
open Dedup

-- The calls of a course, with those of the tasks that it starts.
inductive Engages : List Happening → List Exchange → Prop where
  | nil : Engages [] []
  | asked {call : Call} {rest : List Happening} {later : List Exchange} (result : Except StoreFailure call.Answer)
      (follows : Engages rest later) : Engages (.asked call (outcomeOf result) :: rest) (⟨call, result⟩ :: later)
  | waited {rest : List Happening} {later : List Exchange} (follows : Engages rest later) :
      Engages (.waited :: rest) later
  | named {id : String} {rest : List Happening} {later : List Exchange} (follows : Engages rest later) :
      Engages (.named id :: rest) later
  | started {rest : List Happening} {later : List Exchange} (follows : Engages rest later) :
      Engages (.started :: rest) later
  | settled {settlement : Settlement} {inner rest : List Happening} {ending : Except String Product}
      {calls later : List Exchange} (child : Nat) (takes : Takes (settlementProcess settlement) inner ending)
      (within : Engages inner calls) (follows : Engages rest later) :
      Engages (.settled settlement (verdictOf child ending) :: rest) (calls ++ later)
  | abandoned {key : String} {inner rest : List Happening} {ending : Except String Product}
      {calls later : List Exchange} (takes : Takes (cleanupProcess key) inner ending) (within : Engages inner calls)
      (follows : Engages rest later) : Engages (.abandoned key :: rest) (calls ++ later)

-- A call under a key, and the deletion of the key after one that failed.
inductive Tries (key : String) (call : Call) : List Exchange → Except StoreFailure Unit → Prop where
  | acknowledged (answer : call.Answer) : Tries key call [⟨call, .ok answer⟩] (.ok ())
  | failed (failure : StoreFailure) (result : Except StoreFailure (Call.delete key).Answer) :
      Tries key call [⟨call, .error failure⟩, ⟨.delete key, result⟩] (.error failure)

section Tasks

variable {α ρ : Type} {key : String} {course : List Happening} {calls : List Exchange}

theorem engages_abandoned (engages : Engages [.abandoned key] calls) : ∃ result, calls = [⟨.delete key, result⟩] := by
  cases engages with
  | abandoned takes within follows =>
      cases follows
      obtain ⟨outcome, rest, rfl, after⟩ := takes_ask takes
      obtain ⟨rfl, -⟩ := takes_done after
      cases within with
      | asked result follows =>
          cases follows
          exact ⟨result, rfl⟩

-- How an ownership makes a call: the store's failure is passed on, and the key is abandoned.
def attempt (key : String) (call : Call) : Process (Except StoreFailure Unit) :=
  .ask (some key) call fun
    | .ok _ => .done (.ok ())
    | .failed failure => .abandon key (.done (.error failure))
    | .panicked message => .abandon key (.crash message)

theorem attempt_tries {call : Call} {ending : Except String (Except StoreFailure Unit)}
    (takes : Takes (attempt key call) course ending) (engages : Engages course calls) :
    ∃ verdict, ending = .ok verdict ∧ Tries key call calls verdict := by
  obtain ⟨outcome, rest, rfl, after⟩ := takes_ask takes
  cases engages with
  | asked result follows =>
      cases result with
      | ok answer =>
          obtain ⟨rfl, rfl⟩ := takes_done after
          cases follows
          exact ⟨_, rfl, .acknowledged answer⟩
      | error failure =>
          cases after with
          | abandon after =>
              obtain ⟨rfl, rfl⟩ := takes_done after
              obtain ⟨result, rfl⟩ := engages_abandoned follows
              exact ⟨_, rfl, .failed failure result⟩

theorem attempt_happens {call : Call} {verdict : Except StoreFailure Unit} (tries : Tries key call calls verdict) :
    ∃ course, Takes (attempt key call) course (.ok verdict) ∧ Engages course calls := by
  cases tries with
  | acknowledged answer => exact ⟨_, .ask (.ok answer) (.done _), .asked (.ok answer) .nil⟩
  | failed failure result =>
      have deletes : Takes (cleanupProcess key) [.asked (.delete key) (outcomeOf result)] (.ok .nothing) :=
        .ask (outcomeOf result) (.done _)
      have asks : Engages [.asked (.delete key) (outcomeOf result)] [⟨.delete key, result⟩] := .asked result .nil
      exact ⟨[.asked call (.failed failure), .abandoned key], .ask (.failed failure) (.abandon (.done _)),
        .asked (.error failure) (.abandoned deletes asks .nil)⟩

theorem free_attempt (key : String) : Ownership.free key = attempt key (.delete key) := by
  rw [Ownership.free, attempt]
  congr 1
  funext outcome
  cases outcome <;> rfl

def settlementCall (settlement : Settlement) : Call :=
  match settlement.value with
  | some value => .put settlement.key value
  | none => .delete settlement.key

theorem carry_out_attempt (settlement : Settlement) :
    carryOut settlement = attempt settlement.key (settlementCall settlement) := by
  obtain ⟨key, value⟩ := settlement
  cases value with
  | none => exact free_attempt key
  | some value =>
      change Process.ask (some key) (.put key value) _ = attempt key (.put key value)
      rw [attempt]
      congr 1
      funext outcome
      cases outcome <;> rfl

end Tasks

section Composition

variable {α ρ σ : Type} {course : List Happening} {ending : Except String σ}

-- What comes after a first part, by how it ended.
def afterwards (crashed : String → Process σ) (ended : ρ → Process σ) : Except String ρ → Process σ
  | .ok result => ended result
  | .error message => crashed message

theorem takes_bind {process : Process ρ} {next : ρ → Process σ} (takes : Takes (process.bind next) course ending) :
    ∃ first rest middle, course = first ++ rest ∧ Takes process first middle ∧
      Takes (afterwards .crash next middle) rest ending := by
  induction process generalizing course with
  | done result => exact ⟨[], course, _, rfl, .done result, takes⟩
  | crash message => exact ⟨[], course, _, rfl, .crash message, takes⟩
  | ask guard call following ih =>
      cases takes with
      | ask outcome later =>
          obtain ⟨first, rest, middle, rfl, goes, last⟩ := ih outcome later
          exact ⟨_ :: first, rest, middle, rfl, .ask outcome goes, last⟩
  | wait guard following ih =>
      cases takes with
      | wait later =>
          obtain ⟨first, rest, middle, rfl, goes, last⟩ := ih later
          exact ⟨_ :: first, rest, middle, rfl, .wait goes, last⟩
  | fresh following ih =>
      cases takes with
      | fresh id later =>
          obtain ⟨first, rest, middle, rfl, goes, last⟩ := ih id later
          exact ⟨_ :: first, rest, middle, rfl, .fresh id goes, last⟩
  | started following ih =>
      cases takes with
      | started later =>
          obtain ⟨first, rest, middle, rfl, goes, last⟩ := ih later
          exact ⟨_ :: first, rest, middle, rfl, .started goes, last⟩
  | settle settlement following ih =>
      cases takes with
      | settle verdict later =>
          obtain ⟨first, rest, middle, rfl, goes, last⟩ := ih verdict later
          exact ⟨_ :: first, rest, middle, rfl, .settle verdict goes, last⟩
  | abandon key following ih =>
      cases takes with
      | abandon later =>
          obtain ⟨first, rest, middle, rfl, goes, last⟩ := ih later
          exact ⟨_ :: first, rest, middle, rfl, .abandon goes, last⟩

theorem bind_takes {process : Process ρ} (next : ρ → Process σ) {first rest : List Happening}
    {middle : Except String ρ} (takes : Takes process first middle)
    (later : Takes (afterwards .crash next middle) rest ending) : Takes (process.bind next) (first ++ rest) ending := by
  induction takes with
  | done result => exact later
  | crash message => exact later
  | ask outcome _ ih => exact .ask outcome (ih later)
  | wait _ ih => exact .wait (ih later)
  | fresh id _ ih => exact .fresh id (ih later)
  | started _ ih => exact .started (ih later)
  | settle verdict _ ih => exact .settle verdict (ih later)
  | abandon _ ih => exact .abandon (ih later)

variable {guard : Option String} {crashed : String → Process σ} {ended : α → Process σ}

theorem takes_host {job : Job α} (takes : Takes (job.host guard crashed ended) course ending) :
    ∃ first rest middle, course = first ++ rest ∧ Takes (job.host guard .crash .done) first middle ∧
      Takes (afterwards crashed ended middle) rest ending := by
  induction job generalizing course with
  | done value => exact ⟨[], course, _, rfl, .done value, takes⟩
  | crash message => exact ⟨[], course, _, rfl, .crash message, takes⟩
  | ask call next ih =>
      rw [Job.host] at takes
      obtain ⟨outcome, later, rfl, after⟩ := takes_ask takes
      cases outcome with
      | ok answer =>
          obtain ⟨first, rest, middle, rfl, goes, last⟩ := ih (.ok answer) after
          exact ⟨_ :: first, rest, middle, rfl, by rw [Job.host]; exact .ask (.ok answer) goes, last⟩
      | failed failure =>
          obtain ⟨first, rest, middle, rfl, goes, last⟩ := ih (.error failure) after
          exact ⟨_ :: first, rest, middle, rfl, by rw [Job.host]; exact .ask (.failed failure) goes, last⟩
      | panicked message =>
          refine ⟨[_], later, .error message, rfl, ?_, after⟩
          rw [Job.host]
          exact .ask (.panicked message) (.crash message)
  | fresh next ih =>
      cases takes with
      | fresh id later =>
          obtain ⟨first, rest, middle, rfl, goes, last⟩ := ih id later
          exact ⟨_ :: first, rest, middle, rfl, .fresh id goes, last⟩
  | started next ih =>
      cases takes with
      | started later =>
          obtain ⟨first, rest, middle, rfl, goes, last⟩ := ih later
          exact ⟨_ :: first, rest, middle, rfl, .started goes, last⟩
  | wait next ih =>
      cases takes with
      | wait later =>
          obtain ⟨first, rest, middle, rfl, goes, last⟩ := ih later
          exact ⟨_ :: first, rest, middle, rfl, .wait goes, last⟩

theorem host_takes {job : Job α} {first rest : List Happening} {middle : Except String α}
    (takes : Takes (job.host guard .crash .done) first middle)
    (later : Takes (afterwards crashed ended middle) rest ending) :
    Takes (job.host guard crashed ended) (first ++ rest) ending := by
  induction job generalizing first with
  | done value =>
      obtain ⟨rfl, rfl⟩ := takes_done takes
      exact later
  | crash message =>
      cases takes
      exact later
  | ask call next ih =>
      rw [Job.host] at takes
      obtain ⟨outcome, others, rfl, after⟩ := takes_ask takes
      rw [Job.host, List.cons_append]
      apply Takes.ask outcome
      cases outcome with
      | ok answer => exact ih (.ok answer) after
      | failed failure => exact ih (.error failure) after
      | panicked message =>
          cases after
          exact later
  | fresh next ih =>
      cases takes with
      | fresh id after => exact .fresh id (ih id after)
  | started next ih =>
      cases takes with
      | started after => exact .started (ih after)
  | wait next ih =>
      cases takes with
      | wait after => exact .wait (ih after)

end Composition

section Owners

variable {α : Type} {storeKey : String} {answerOf : α → Answer} {own : List Happening} {calls : List Exchange}
  {ended : Except String (Except ServiceFailure α)} {ending : Except String (Except ServiceFailure α)}

-- A process that comes to its end with nothing on the way.
def EndsAs {ρ : Type} (process : Process ρ) (ending : Except String ρ) : Prop :=
  ∀ course last, Takes process course last ↔ course = [] ∧ last = ending

section Endings

variable {ρ : Type} {key : String} {call : Call} {ending : Except String ρ}

theorem done_ends (result : ρ) : EndsAs (.done result) (.ok result) := by
  intro course last
  constructor
  · exact takes_done
  · rintro ⟨rfl, rfl⟩
    exact .done result

theorem crash_ends (message : String) : EndsAs (.crash message : Process ρ) (.error message) := by
  intro course last
  constructor
  · intro takes
    cases takes
    exact ⟨rfl, rfl⟩
  · rintro ⟨rfl, rfl⟩
    exact .crash message

-- An attempt does not crash, as long as the store does not, so what follows it always hears its verdict.
theorem attempt_then_iff {next : Except StoreFailure Unit → Process ρ}
    {hears : Except StoreFailure Unit → Except String ρ} (ends : ∀ verdict, EndsAs (next verdict) (hears verdict)) :
    (∃ course, Takes ((attempt key call).bind next) course ending ∧ Engages course calls) ↔
      ∃ verdict, Tries key call calls verdict ∧ ending = hears verdict := by
  constructor
  · rintro ⟨course, takes, engages⟩
    obtain ⟨first, rest, middle, rfl, goes, last⟩ := takes_bind takes
    cases middle with
    | error message =>
        obtain ⟨rfl, -⟩ := (crash_ends message rest ending).mp last
        rw [List.append_nil] at engages
        obtain ⟨verdict, same, -⟩ := attempt_tries goes engages
        exact nomatch same
    | ok verdict =>
        obtain ⟨rfl, rfl⟩ := (ends verdict rest ending).mp last
        rw [List.append_nil] at engages
        obtain ⟨_, same, tries⟩ := attempt_tries goes engages
        cases same
        exact ⟨_, tries, rfl⟩
  · rintro ⟨verdict, tries, rfl⟩
    obtain ⟨course, takes, engages⟩ := attempt_happens tries
    have goes := bind_takes next takes ((ends verdict _ _).mpr ⟨rfl, rfl⟩)
    rw [List.append_nil] at goes
    exact ⟨course, goes, engages⟩

theorem settlement_iff {settlement : Settlement} {ending : Except String Product} :
    (∃ course, Takes (settlementProcess settlement) course ending ∧ Engages course calls) ↔
      ∃ verdict, Tries settlement.key (settlementCall settlement) calls verdict ∧ ending = .ok (.verdict verdict) := by
  rw [settlementProcess, carry_out_attempt]
  exact attempt_then_iff fun verdict => done_ends (Product.verdict verdict)

end Endings

-- How an ownership goes on, by how its handler has ended.
def concluding (storeKey : String) (answerOf : α → Answer) :
    Except String (Except ServiceFailure α) → Process (Except ServiceFailure α)
  | .ok (.ok made) => (Ownership.settle storeKey (answerOf made)).bind fun
      | .ok () => .done (.ok made)
      | .error failure => .done (.error (.ofStore failure))
  | .ok (.error failure) => (Ownership.free storeKey).bind fun _ => .done (.error failure)
  | .error message => (Ownership.free storeKey).bind fun _ => .crash message

theorem handle_concluding (handler : Job (Except ServiceFailure α)) : Ownership.handle storeKey answerOf handler =
    handler.host (some storeKey) (fun message => concluding storeKey answerOf (.error message)) fun result =>
      concluding storeKey answerOf (.ok result) := by
  rw [Ownership.handle]
  congr 1
  funext result
  cases result <;> rfl

-- The call that keeps or frees the key.
def lastCall (storeKey : String) (answerOf : α → Answer) : Except String (Except ServiceFailure α) → Call
  | .ok (.ok made) => settlementCall (Ownership.settlement storeKey (answerOf made))
  | _ => .delete storeKey

def told : Except String (Except ServiceFailure α) → Except StoreFailure Unit → Except String (Except ServiceFailure α)
  | .ok (.ok _), .error failure => .ok (.error (.ofStore failure))
  | ended, _ => ended

theorem settled_ends (made : α) (verdict : Except StoreFailure Unit) :
    EndsAs (match verdict with
      | .ok () => .done (.ok made)
      | .error failure => .done (.error (.ofStore failure)) : Process (Except ServiceFailure α))
      (told (.ok (.ok made)) verdict) := by
  cases verdict <;> exact done_ends _

theorem conclusion_iff : (∃ own, Takes (concluding storeKey answerOf ended) own ending ∧ Engages own calls) ↔
    ∃ verdict, Tries storeKey (lastCall storeKey answerOf ended) calls verdict ∧ ending = told ended verdict := by
  rcases ended with message | failure | made
  · rw [concluding, free_attempt]
    exact attempt_then_iff fun _ => crash_ends message
  · rw [concluding, free_attempt]
    exact attempt_then_iff fun _ => done_ends (Except.error failure)
  · constructor
    · rintro ⟨own, takes, engages⟩
      cases takes with
      | settle _ rest =>
          cases engages with
          | settled child takes within follows =>
              obtain ⟨verdict, tries, rfl⟩ := settlement_iff.mp ⟨_, takes, within⟩
              obtain ⟨rfl, rfl⟩ := (settled_ends made verdict _ _).mp rest
              cases follows
              rw [List.append_nil]
              exact ⟨verdict, tries, rfl⟩
    · rintro ⟨verdict, tries, rfl⟩
      let settlement := Ownership.settlement storeKey (answerOf made)
      have settling : Tries settlement.key (settlementCall settlement) calls verdict := tries
      obtain ⟨course, takes, engages⟩ := settlement_iff.mpr ⟨verdict, settling, rfl⟩
      have engaged := Engages.settled 0 takes engages .nil
      rw [List.append_nil] at engaged
      exact ⟨_, .settle verdict ((settled_ends made verdict _ _).mpr ⟨rfl, rfl⟩), engaged⟩

-- What an ownership promises of the calls that it makes and of what its caller is told, by how its handler has ended.
structure Settles (storeKey : String) (answerOf : α → Answer) (ended : Except String (Except ServiceFailure α))
    (calls : List Exchange) (ending : Except String (Except ServiceFailure α)) : Prop where
  shape :
    (∃ value, calls = [⟨.put storeKey value, .ok ()⟩]) ∨
    (∃ value failure result, calls = [⟨.put storeKey value, .error failure⟩, ⟨.delete storeKey, result⟩]) ∨
    (∃ existed, calls = [⟨.delete storeKey, .ok existed⟩]) ∨
    ∃ failure result, calls = [⟨.delete storeKey, .error failure⟩, ⟨.delete storeKey, result⟩]
  ordered : calls.Pairwise fun earlier later =>
    (∀ key, earlier.call = .delete key → ∀ other value, later.call ≠ .put other value) ∧
      ∀ key value, earlier = ⟨.put key value, .ok ()⟩ → ∀ other, later.call ≠ .delete other
  kept : ∀ key value result, ⟨.put key value, result⟩ ∈ calls → ∃ made, ended = .ok (.ok made) ∧ key = storeKey ∧
    200 ≤ (answerOf made).statusCode ∧ (answerOf made).statusCode ≤ 399 ∧
    value = (Record.completed (answerOf made).statusCode (answerOf made).body).encode
  returned : ∀ made, ended = .ok (.ok made) →
    (ending = .ok (.ok made) ↔
      ∃ answer, calls.head? = some ⟨lastCall storeKey answerOf (.ok (.ok made)), .ok answer⟩) ∧
    (ending ≠ .ok (.ok made) → ∃ failure, ending = .ok (.error (.ofStore failure)) ∧
      calls.head? = some ⟨lastCall storeKey answerOf (.ok (.ok made)), .error failure⟩)
  failed : ∀ failure, ended = .ok (.error failure) → ending = .ok (.error failure)
  crashed : ∀ message, ended = .error message → ending = .error message

theorem last_call_cases (storeKey : String) (answerOf : α → Answer) (ended : Except String (Except ServiceFailure α)) :
    (∃ made, ended = .ok (.ok made) ∧ 200 ≤ (answerOf made).statusCode ∧ (answerOf made).statusCode ≤ 399 ∧
      lastCall storeKey answerOf ended =
        .put storeKey (Record.completed (answerOf made).statusCode (answerOf made).body).encode) ∨
    lastCall storeKey answerOf ended = .delete storeKey := by
  rcases ended with message | failure | made
  · exact .inr rfl
  · exact .inr rfl
  · rw [lastCall, Ownership.settlement, settlementCall]
    by_cases kept : isKept (answerOf made).statusCode = true
    · obtain ⟨low, high⟩ := (kept_iff _).mp kept
      rw [if_pos kept]
      exact .inl ⟨made, rfl, low, high, rfl⟩
    · rw [if_neg kept]
      exact .inr rfl

section Attempts

variable {key : String} {call : Call} {verdict : Except StoreFailure Unit}

theorem tries_put {other : String} {value : Bytes} {result : Except StoreFailure Unit}
    (tries : Tries key call calls verdict) (among : (⟨.put other value, result⟩ : Exchange) ∈ calls) :
    call = .put other value := by
  cases tries with
  | acknowledged answer =>
      have same := List.mem_singleton.mp among
      exact (congrArg Exchange.call same).symm
  | failed failure deletion =>
      rcases List.mem_cons.mp among with same | later
      · exact (congrArg Exchange.call same).symm
      · have same := congrArg Exchange.call (List.mem_singleton.mp later)
        exact nomatch same

theorem tries_ordered (tries : Tries key call calls verdict) : calls.Pairwise fun earlier later =>
    (∀ key, earlier.call = .delete key → ∀ other value, later.call ≠ .put other value) ∧
      ∀ key value, earlier = ⟨.put key value, .ok ()⟩ → ∀ other, later.call ≠ .delete other := by
  cases tries with
  | acknowledged answer => exact List.pairwise_singleton _ _
  | failed failure deletion =>
      apply List.pairwise_pair.mpr
      constructor
      · exact fun _ _ _ _ same => nomatch same
      · intro other value same
        cases same

theorem tries_head (tries : Tries key call calls verdict) :
    (verdict = .ok () ∧ ∃ answer, calls.head? = some ⟨call, .ok answer⟩) ∨
      ∃ failure, verdict = .error failure ∧ calls.head? = some ⟨call, .error failure⟩ := by
  cases tries with
  | acknowledged answer => exact .inl ⟨rfl, answer, rfl⟩
  | failed failure deletion => exact .inr ⟨failure, rfl, rfl⟩

end Attempts

theorem tries_settle {verdict : Except StoreFailure Unit}
    (tries : Tries storeKey (lastCall storeKey answerOf ended) calls verdict) :
    Settles storeKey answerOf ended calls (told ended verdict) where
  shape := by
    rcases last_call_cases storeKey answerOf ended with ⟨made, -, -, -, puts⟩ | deletes
    · rw [puts] at tries
      cases tries with
      | acknowledged answer => exact .inl ⟨_, rfl⟩
      | failed failure result => exact .inr (.inl ⟨_, failure, result, rfl⟩)
    · rw [deletes] at tries
      cases tries with
      | acknowledged existed => exact .inr (.inr (.inl ⟨existed, rfl⟩))
      | failed failure result => exact .inr (.inr (.inr ⟨failure, result, rfl⟩))
  ordered := tries_ordered tries
  kept := by
    intro key value result among
    have call := tries_put tries among
    rcases last_call_cases storeKey answerOf ended with ⟨made, rfl, low, high, puts⟩ | deletes
    · cases puts.symm.trans call
      exact ⟨made, rfl, rfl, low, high, rfl⟩
    · exact nomatch deletes.symm.trans call
  returned := by
    rintro made rfl
    rcases tries_head tries with ⟨rfl, acknowledged⟩ | ⟨failure, rfl, head⟩
    · exact ⟨⟨fun _ => acknowledged, fun _ => rfl⟩, fun other => absurd rfl other⟩
    · constructor
      · constructor
        · intro same
          cases same
        · rintro ⟨answer, acknowledged⟩
          cases head.symm.trans acknowledged
      · exact fun _ => ⟨failure, rfl, head⟩
  failed := by
    rintro failure rfl
    rfl
  crashed := by
    rintro message rfl
    rfl

theorem tries_exist (key : String) (call : Call) (results : Nat → (call : Call) → Except StoreFailure call.Answer) :
    ∃ calls verdict, Tries key call calls verdict ∧
      ∀ i exchange, calls[i]? = some exchange → exchange.result = results i exchange.call := by
  cases first : results 0 call with
  | ok answer =>
      refine ⟨_, _, .acknowledged answer, ?_⟩
      intro i exchange present
      match i with
      | 0 =>
          cases present
          exact first.symm
      | i + 1 => exact nomatch present
  | error failure =>
      refine ⟨_, _, .failed failure (results 1 (.delete key)), ?_⟩
      intro i exchange present
      match i with
      | 0 =>
          cases present
          exact first.symm
      | 1 =>
          cases present
          rfl
      | i + 2 => exact nomatch present

-- The handler's own course comes first. The results of the calls after it are any that a store may give, in turn.
theorem ownership_settlement (storeKey : String) (answerOf : α → Answer) (handler : Job (Except ServiceFailure α)) :
    (∀ course ending, Takes (Ownership.handle storeKey answerOf handler) course ending →
      ∃ before own ended, course = before ++ own ∧ Takes (handler.host (some storeKey) .crash .done) before ended ∧
        ∀ calls, Engages own calls → Settles storeKey answerOf ended calls ending) ∧
    ∀ before ended (results : Nat → (call : Call) → Except StoreFailure call.Answer),
      Takes (handler.host (some storeKey) .crash .done) before ended →
      ∃ own calls ending, Takes (Ownership.handle storeKey answerOf handler) (before ++ own) ending ∧
        Engages own calls ∧ Settles storeKey answerOf ended calls ending ∧
        ∀ i exchange, calls[i]? = some exchange → exchange.result = results i exchange.call := by
  constructor
  · intro course ending takes
    rw [handle_concluding] at takes
    obtain ⟨before, own, ended, rfl, goes, last⟩ := takes_host takes
    refine ⟨before, own, ended, rfl, goes, ?_⟩
    intro calls engages
    have concludes : Takes (concluding storeKey answerOf ended) own ending := by
      cases ended <;> exact last
    obtain ⟨verdict, tries, rfl⟩ := conclusion_iff.mp ⟨own, concludes, engages⟩
    exact tries_settle tries
  · intro before ended results goes
    obtain ⟨calls, verdict, tries, answered⟩ := tries_exist storeKey (lastCall storeKey answerOf ended) results
    obtain ⟨own, concludes, engages⟩ := conclusion_iff.mpr ⟨verdict, tries, rfl⟩
    refine ⟨own, calls, _, ?_, engages, tries_settle tries, answered⟩
    rw [handle_concluding]
    apply host_takes goes
    cases ended <;> exact concludes

-- The store does not keep an answer: its record is deleted, and the caller hears of the failure.
theorem ownership_settlement_unkept :
    Settles "idempotency/k" id (.ok (.ok ⟨201, [123, 125]⟩))
      [⟨.put "idempotency/k" (Record.completed 201 [123, 125]).encode, .error (.unavailable "down")⟩,
        ⟨.delete "idempotency/k", .ok true⟩]
      (.ok (.error (.ofStore (.unavailable "down")))) := by
  let failure : StoreFailure := .unavailable "down"
  let settlement : Settlement := ⟨"idempotency/k", some (Record.completed 201 [123, 125]).encode⟩
  obtain ⟨settles, -⟩ := ownership_settlement "idempotency/k" id (.done (.ok ⟨201, [123, 125]⟩))
  obtain ⟨before, own, ended, same, goes, promises⟩ :=
    settles [.settled settlement (.error failure)] (.ok (.error (.ofStore failure))) (.settle _ (.done _))
  obtain ⟨rfl, rfl⟩ := takes_done goes
  cases same
  apply promises
  let deletion : Call := .delete "idempotency/k"
  let existed : Except StoreFailure deletion.Answer := .ok true
  have deletes : Takes (cleanupProcess settlement.key) [.asked deletion (outcomeOf existed)] (.ok .nothing) :=
    .ask (outcomeOf existed) (.done _)
  have cleans : Engages [.abandoned settlement.key] [⟨deletion, existed⟩] :=
    .abandoned deletes (.asked existed .nil) .nil
  have puts : Takes (settlementProcess settlement)
      [.asked (.put "idempotency/k" (Record.completed 201 [123, 125]).encode) (.failed failure),
        .abandoned "idempotency/k"]
      (.ok (.verdict (.error failure))) := .ask (.failed failure) (.abandon (.done _))
  exact .settled 0 puts (.asked (.error failure) cleans) .nil

end Owners
end ConfigRegistry.Concurrent
