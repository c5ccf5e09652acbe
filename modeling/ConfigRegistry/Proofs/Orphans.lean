import ConfigRegistry.Proofs.Contents
import ConfigRegistry.Proofs.SoleOwner

set_option autoImplicit false

/-!
Main statement: where abandoned records are deleted as they should be, every placeholder has an owner, so none is left
when all tasks have ended, and a key with nothing under it can be won again.
-/
namespace ConfigRegistry.Concurrent

open Work (Job Process)
open Session (Product)
open Dedup

-- A placeholder under the key has an owner.
def Covered (world : World) (held : Nat → Option String) (key : String) : Prop :=
  world.memory.get? key = some placeholder → ∃ i, held i = some key

-- The request runs the handler under the key: what the handler does is what the request does next.
def World.Runs {α : Type} (world : World) (number : Nat) (key : String) (handler : Job α) : Prop :=
  ∃ crashed ended, world.tasks number = some ⟨.request, .active (handler.host (some key) crashed ended)⟩

-- Every task has come to its end, those of the settlements and the deletions too.
def World.Finished (world : World) : Prop :=
  ∀ number task, world.tasks number = some task → task.stage.outcome? ≠ none

section

variable {scope key : String} {start world after : World} {events : List Event} {held ledger : Nat → Option String}
  {event : Event} {conduct : Conduct} {program : Process Product → Prop}

theorem covered_preserved (orderly : Orderly scope events world held) (under : Under scope key)
    (covered : Covered world held key) (careful : ¬ event.Careless)
    (change : Change scope (event :: events) world held event after ledger) : Covered after ledger key := by
  intro lies
  -- The old owner of another key than the one that the step is about still owns it.
  have owner : ∀ changed, key ≠ changed → after.memory.get? key = world.memory.get? key →
      ∃ i, held i = some key ∧ held i ≠ some changed := by
    intro changed different same
    obtain ⟨i, holds⟩ := covered (same.symm.trans lies)
    exact ⟨i, holds, fun equal => different (Option.some.inj (holds.symm.trans equal))⟩
  cases change with
  | quiet same _ => exact covered ((same_but_none same key under).symm.trans lies)
  | @won number changed _ _ _ unowning _ _ same =>
      by_cases here : key = changed
      · subst here
        exact ⟨number, Function.update_self _ _ _⟩
      · obtain ⟨i, holds, _⟩ := owner changed here (same key under fun equal => here (Option.some.inj equal))
        have other : i ≠ number := by
          rintro rfl
          exact nomatch unowning.symm.trans holds
        exact ⟨i, (Function.update_of_ne other _ _).trans holds⟩
  | @freed number _ changed _ _ owned removed same =>
      by_cases here : key = changed
      · subst here
        exact nomatch removed.symm.trans lies
      · obtain ⟨i, holds, apart⟩ := owner changed here (same key under fun equal => here (Option.some.inj equal))
        have other : i ≠ number := fun equal => apart (equal ▸ owned)
        exact ⟨i, (Function.update_of_ne other _ _).trans holds⟩
  | @kept number _ changed answer _ owned success _ stored same =>
      by_cases here : key = changed
      · subst here
        exact absurd (Option.some.inj (stored.symm.trans lies)) (kept_not_placeholder _)
      · obtain ⟨i, holds, apart⟩ := owner changed here (same key under fun equal => here (Option.some.inj equal))
        have other : i ≠ number := fun equal => apart (equal ▸ owned)
        exact ⟨i, (Function.update_of_ne other _ _).trans holds⟩
  | @passed number child changed owned idle _ same _ =>
      by_cases here : key = changed
      · subst here
        exact ⟨child, Function.update_self _ _ _⟩
      · obtain ⟨i, holds, apart⟩ := owner changed here (by rw [same])
        have other : i ≠ number := fun equal => apart (equal ▸ owned)
        have notChild : i ≠ child := by
          rintro rfl
          exact nomatch (orderly.idle i idle).symm.trans holds
        exact ⟨i, (Function.update_of_ne notChild _ _).trans ((Function.update_of_ne other _ _).trans holds)⟩
  | forgotten _ careless _ _ => exact absurd careless careful

theorem run_known (disciplined : ∀ process, program process → Heeds scope Settled none process)
    (idle : ∀ number, start.tasks number = none) (run : Run Atomic program start events world)
    (under : Under scope key) : Known start world key := by
  induction run with
  | start => exact .inl rfl
  | step earlier last ih =>
      obtain ⟨held, orderly, _⟩ := run_ledger disciplined idle earlier
      obtain ⟨ledger, _, change⟩ := step_change disciplined orderly last
      exact known_preserved ih (key_change under change)

theorem run_covered (disciplined : ∀ process, program process → Heeds scope Settled none process)
    (idle : ∀ number, start.tasks number = none) (run : Run Atomic program start events world)
    (careful : ∀ event ∈ events, ¬ event.Careless) (fresh : start.memory.get? key ≠ some placeholder)
    (under : Under scope key) : ∃ held, Orderly scope events world held ∧ Covered world held key := by
  induction run with
  | start =>
      obtain ⟨held, orderly, _⟩ := run_ledger disciplined idle (.start : Run Atomic program start [] start)
      exact ⟨held, orderly, fun lies => absurd lies fresh⟩
  | step _ last ih =>
      obtain ⟨held, orderly, covered⟩ := ih fun event found => careful event (List.mem_cons_of_mem _ found)
      obtain ⟨ledger, next, change⟩ := step_change disciplined orderly last
      exact ⟨ledger, next, covered_preserved orderly under covered (careful _ List.mem_cons_self) change⟩

theorem known_in_progress {bytes : Bytes} (known : Known start world key)
    (fresh : ∀ bytes, start.memory.get? key = some bytes → Record.decode key bytes ≠ .ok .inProgress)
    (lies : world.memory.get? key = some bytes) (read : Record.decode key bytes = .ok .inProgress) :
    bytes = placeholder := by
  rcases known with old | none | marked | ⟨answer, kept, stored⟩
  · exact absurd read (fresh bytes (old.symm.trans lies))
  · exact nomatch none.symm.trans lies
  · exact Option.some.inj (lies.symm.trans marked)
  · cases Option.some.inj (stored.symm.trans lies)
    exact nomatch (decode_kept key answer).symm.trans read

theorem known_readable {bytes : Bytes} (known : Known start world key)
    (readable : ∀ bytes, start.memory.get? key = some bytes → ∃ record, Record.decode key bytes = .ok record)
    (lies : world.memory.get? key = some bytes) : ∃ record, Record.decode key bytes = .ok record := by
  rcases known with old | none | marked | ⟨answer, kept, stored⟩
  · exact readable bytes (old.symm.trans lies)
  · exact nomatch none.symm.trans lies
  · cases Option.some.inj (marked.symm.trans lies)
    exact ⟨_, decode_placeholder key⟩
  · cases Option.some.inj (stored.symm.trans lies)
    exact ⟨_, decode_kept key answer⟩

theorem in_progress_owned {bytes : Bytes} (disciplined : ∀ process, program process → Heeds scope Settled none process)
    (idle : ∀ number, start.tasks number = none) (run : Run Atomic program start events world)
    (careful : ∀ event ∈ events, ¬ event.Careless) (under : Under scope key)
    (fresh : ∀ bytes, start.memory.get? key = some bytes → Record.decode key bytes ≠ .ok .inProgress)
    (lies : world.memory.get? key = some bytes) (read : Record.decode key bytes = .ok .inProgress) :
    ∃ number, world.Owns number key := by
  have started : start.memory.get? key ≠ some placeholder := fun lies => fresh placeholder lies (decode_placeholder key)
  obtain ⟨held, orderly, covered⟩ := run_covered disciplined idle run careful started under
  have marked := known_in_progress (run_known disciplined idle run under) fresh lies read
  subst marked
  obtain ⟨i, holds⟩ := covered lies
  exact ⟨i, (owns_iff_held orderly i key).mpr holds⟩

theorem finished_unowned (finished : world.Finished) (number : Nat) : ¬ world.Owns number key := by
  rintro ⟨⟨role, stage⟩, present, owns⟩
  have closed := finished number _ present
  cases stage with
  | settling _ _ => exact owns
  | active process =>
      cases role with
      | cleanup _ _ => exact closed owns.2
      | request => exact ended_owns_nothing closed owns
      | settlement _ => exact ended_owns_nothing closed owns

theorem handle_runs {α : Type} {number : Nat} {answerOf : α → Answer} {handler : Job (Except ServiceFailure α)}
    {rest : Except ServiceFailure α → Process Product}
    (handles : world.tasks number = some ⟨.request, .active ((Ownership.handle key answerOf handler).bind rest)⟩) :
    world.Runs number key handler := by
  rw [Ownership.handle, host_bind] at handles
  exact ⟨_, _, handles⟩

theorem runs_starts {α : Type} {number : Nat} {inner : Job α} (runs : world.Runs number key (.started inner)) :
    ∃ next, Step conduct program world (.started number) next ∧ next.Runs number key inner := by
  obtain ⟨crashed, ended, starts⟩ := runs
  exact ⟨_, .start starts, crashed, ended, World.put_tasks_self _ _ _⟩

theorem runs_start_alone {α : Type} {number : Nat} {inner : Job α} (runs : world.Runs number key (.started inner))
    (step : Step conduct program world event after) (actor : event.actor = number)
    (uncancelled : event ≠ .cancelled number) : event = .started number ∧ after.Runs number key inner := by
  obtain ⟨crashed, ended, starts⟩ := runs
  obtain ⟨same, stands⟩ := start_alone starts step actor uncancelled
  exact ⟨same, crashed, ended, stands⟩

theorem no_orphaned_placeholder (idle : ∀ number, start.tasks number = none)
    (fresh : ∀ key bytes, Under scope key → start.memory.get? key = some bytes →
      Record.decode key bytes ≠ .ok .inProgress)
    (run : Run Atomic (Customer scope) start events world) (careful : ∀ event ∈ events, ¬ event.Careless) :
    (∀ key bytes, Under scope key → world.memory.get? key = some bytes → Record.decode key bytes = .ok .inProgress →
      ∃ number, world.Owns number key) ∧
    (world.Finished → ∀ key, Under scope key →
      (∀ bytes, start.memory.get? key = some bytes → ∃ record, Record.decode key bytes = .ok record) →
      world.memory.get? key = none ∨ ∃ bytes statusCode body, world.memory.get? key = some bytes ∧
        Record.decode key bytes = .ok (.completed statusCode body)) ∧
    ∀ (desk : Desk) (clientKey : String) (α : Type) (answerOf : α → Answer) (handler : Job (Except ServiceFailure α))
      (report : Except ServiceFailure (Served α) → Product) (number : Nat), desk.scope = scope →
      clientKey.isEmpty = false → world.memory.get? (desk.storeKey clientKey) = none → world.tasks number = none →
      let request := Only ((desk.serve (some clientKey) answerOf handler).map report)
      (∃ more after, Run Faultless request world more after ∧ Undisturbed number more ∧ more.length = 3) ∧
      ∀ more after, Run Faultless request world more after → Undisturbed number more → more.length = 3 →
        (∃ rest, after.tasks number =
          some ⟨.request, .active ((Ownership.handle (desk.storeKey clientKey) answerOf handler).bind rest)⟩) ∧
        after.Runs number (desk.storeKey clientKey) handler ∧
        ∀ inner, handler = .started inner →
          (∃ next, Step Faultless request after (.started number) next ∧
            next.Runs number (desk.storeKey clientKey) inner) ∧
          ∀ event next, Step Faultless request after event next → event.actor = number →
            event ≠ .cancelled number → event = .started number ∧ next.Runs number (desk.storeKey clientKey) inner := by
  have owned : ∀ key bytes, Under scope key → world.memory.get? key = some bytes →
      Record.decode key bytes = .ok .inProgress → ∃ number, world.Owns number key :=
    fun key _ under => in_progress_owned customer_heeds idle run careful under fun bytes => fresh key bytes under
  refine ⟨owned, fun finished key under readable => ?_, ?_⟩
  · cases lies : world.memory.get? key with
    | none => exact .inl rfl
    | some bytes =>
        obtain ⟨record, read⟩ := known_readable (run_known customer_heeds idle run under) readable lies
        cases record with
        | inProgress =>
            obtain ⟨number, owns⟩ := owned key bytes under lies read
            exact absurd owns (finished_unowned finished number)
        | completed statusCode body => exact .inr ⟨bytes, statusCode, body, rfl, read⟩
  · intro desk clientKey α answerOf handler report number _ keyed absent free
    simp only [serve_claim]
    constructor
    · have admitted : Only ((desk.claim (some clientKey)).bind (carryOn answerOf handler report)) _ := rfl
      obtain ⟨after, wins, _⟩ := claim_wins world number desk keyed free admitted absent
      refine ⟨_, after, wins, ?_, rfl⟩
      simp [Undisturbed, Event.actor]
    · intro more after alone undisturbed three
      have handles := claim_alone keyed free absent alone undisturbed three
      have runs := handle_runs handles
      refine ⟨⟨_, handles⟩, runs, ?_⟩
      rintro inner rfl
      exact ⟨runs_starts runs, fun event next => runs_start_alone runs⟩

end

-- A request is cancelled as the owner of its key. What it leaves behind is deleted, and the next request wins the key
-- and starts its handler.
theorem no_orphaned_placeholder_cancelled :
    ∃ events world, Run Atomic (Customer "desk") (.idle .empty) events world ∧ .cancelled 0 ∈ events ∧ world.Finished ∧
      (world.memory.get? "desk/order" = none ∨ ∃ bytes statusCode body, world.memory.get? "desk/order" = some bytes ∧
        Record.decode "desk/order" bytes = .ok (.completed statusCode body)) ∧
      ∃ process more last number, Run Faultless (Only process) world (.started number :: more) last ∧
        last.Runs number "desk/order" (Job.done (Except.ok (ε := ServiceFailure) (⟨201, []⟩ : Answer))) := by
  let desk : Desk := { scope := "desk" }
  let handler : Job (Except ServiceFailure Answer) := .wait (.done (.ok ⟨201, []⟩))
  let report : Except ServiceFailure (Served Answer) → Product := fun _ => .nothing
  have admitted : Customer "desk" ((desk.claim (some "order")).bind (carryOn id handler report)) := by
    rw [← serve_claim]
    exact .execute desk (some "order") id handler report rfl trivial
  obtain ⟨owner, claimed, _, owning, others⟩ := claim_wins (.idle .empty) 0 desk rfl rfl admitted rfl
  have vacant : owner.tasks 1 = none := others 1 (by decide)
  obtain ⟨world, cleaned, memory, ended, deleted, same⟩ := cancelled_cleans (Customer "desk") owning vacant
  have run := run_widen faultless_atomic (run_append claimed cleaned)
  have finished : world.Finished := by
    intro number task present
    by_cases first : number = 0
    · subst first
      cases ended.symm.trans present
      exact fun closed => nomatch closed
    · by_cases second : number = 1
      · subst second
        cases deleted.symm.trans present
        exact fun closed => nomatch closed
      · exact nomatch ((same number first second).trans (others number first)).symm.trans present
  have blank : ∀ key bytes, (World.idle .empty).memory.get? key ≠ some bytes := fun key bytes lies =>
    nomatch (KeyMap.get_empty key).symm.trans lies
  obtain ⟨_, settled, wins⟩ := no_orphaned_placeholder (fun _ => rfl)
    (fun key bytes _ lies => absurd lies (blank key bytes)) run (by simp [Event.Careless])
  have absent : world.memory.get? "desk/order" = none := by
    rw [memory]
    exact (KeyMap.get_erase owner.memory "desk/order" "desk/order").trans (if_pos rfl)
  have free : world.tasks 2 = none := (same 2 (by decide) (by decide)).trans (others 2 (by decide))
  obtain ⟨⟨more, after, alone, undisturbed, three⟩, forced⟩ :=
    wins desk "order" Answer id (.started (.done (.ok ⟨201, []⟩))) report 2 rfl rfl absent free
  obtain ⟨-, -, starting⟩ := forced more after alone undisturbed three
  obtain ⟨⟨last, starts, runs⟩, -⟩ := starting _ rfl
  exact ⟨_, world, run, by simp, finished, settled finished "desk/order" ⟨"order", rfl⟩
    (fun bytes lies => absurd lies (blank _ bytes)), _, more, last, 2, .step alone starts, runs⟩

end ConfigRegistry.Concurrent
