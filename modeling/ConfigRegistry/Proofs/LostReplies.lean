import ConfigRegistry.Proofs.Authors
import ConfigRegistry.Proofs.Distant
import ConfigRegistry.Proofs.SoleOwner

set_option autoImplicit false

/-!
Requests over a database server whose replies can be lost. Main statement: as long as no reply to a deletion or a
storing of a record is lost, an ownership removes nothing but the placeholder of its own request. Where one is lost,
it removes placeholders of others and answers that were kept.
-/
namespace ConfigRegistry.Concurrent

open Store (Call Outcome Memory)
open Work (Job Process)
open Session (Product)
open Dedup

-- The replies to the writes of an owner arrive. Those to look-ups and creations may be lost, and any elsewhere.
def Acknowledged (scope : String) (loses : Call → Prop) : Prop :=
  ∀ call, loses call → Under scope call.key → call.operation ≠ .put ∧ call.operation ≠ .delete

section Ledgers

variable {scope key : String} {loses : Call → Prop} {program : Process Product → Prop} {start world after : World}
  {held ledger : Nat → Option String} {authors : Authors} {events : List Event} {event : Event}

theorem lost_keeps_present {call : Call} {memory : Memory} {bytes : Bytes} (acknowledged : Acknowledged scope loses)
    (may : loses call) (under : Under scope key) (lies : memory.get? key = some bytes) :
    (memory.perform call).2.get? key = some bytes := by
  by_cases same : call.key = key
  · subst same
    cases call with
    | get key => exact lies
    | create key value =>
        have taken : memory.contains key = true := by rw [KeyMap.contains]; exact Option.isSome_of_mem lies
        rw [Memory.perform, if_pos taken]
        exact lies
    | put key value => exact absurd rfl (acknowledged _ may under).1
    | delete key => exact absurd rfl (acknowledged _ may under).2
    | ping => exact lies
  · exact (memory.get_perform_other call same).trans lies

-- A ledger of the owners in which each owns a placeholder that its own request has written.
structure Accounted (scope : String) (events : List Event) (world : World) (authors : Authors)
    (held : Nat → Option String) : Prop where
  orderly : Orderly scope events world held
  exclusive : Exclusive scope events world held
  authored : Authored authors world held

theorem atomic_accounted (disciplined : ∀ process, program process → Heeds scope Settled none process)
    (accounted : Accounted scope events world authors held) (step : Step Atomic program world event after) :
    ∃ ledger, Accounted scope (event :: events) after (signed event world.memory after.memory authors) ledger ∧
      Change scope (event :: events) world held event after ledger := by
  obtain ⟨orderly, exclusive, authored⟩ := accounted
  obtain ⟨ledger, later, change⟩ := step_change disciplined orderly step
  exact ⟨ledger, ⟨later, exclusive_preserved orderly exclusive step change,
    authored_preserved orderly exclusive authored step change⟩, change⟩

-- Only where nothing lies can the lost call have left something, and nobody owns such a key.
theorem lost_accounted {call : Call} {middle : World} (acknowledged : Acknowledged scope loses) (may : loses call)
    (same : middle.memory = world.memory)
    (accounted : Accounted scope events middle (signed event world.memory middle.memory authors) ledger) :
    Accounted scope events { middle with memory := (world.memory.perform call).2 }
      (signed event world.memory (world.memory.perform call).2 authors) ledger := by
  obtain ⟨orderly, exclusive, authored⟩ := accounted
  have kept : ∀ i key, ledger i = some key → (world.memory.perform call).2.get? key = some placeholder := by
    intro i key holds
    have mark := exclusive.marked i key holds
    exact lost_keeps_present acknowledged may mark.under (same ▸ mark.stored)
  refine ⟨⟨orderly.heeded, orderly.idle⟩, ⟨exclusive.single, ?_⟩, ?_⟩
  · intro i key holds
    have mark := exclusive.marked i key holds
    exact ⟨mark.under, kept i key holds, mark.traced⟩
  · intro i key holds
    have stored : world.memory.get? key = some placeholder := same ▸ (exclusive.marked i key holds).stored
    have written := authored i key holds
    rw [signed_same (by rw [same])] at written
    rw [signed_same ((kept i key holds).trans stored.symm), written]
    rfl

theorem run_accounted (disciplined : ∀ process, program process → Heeds scope Settled none process)
    (acknowledged : Acknowledged scope loses) (idle : ∀ number, start.tasks number = none)
    (run : SignedRun (Distant loses) program start events world authors) :
    ∃ held, Accounted scope events world authors held := by
  induction run with
  | start =>
      refine ⟨fun _ => none, ⟨fun number task present => ?_, fun _ _ => rfl⟩, ⟨?_, ?_⟩, ?_⟩
      · exact nomatch (idle number).symm.trans present
      · exact fun _ _ _ holds => nomatch holds
      · exact fun _ _ holds => nomatch holds
      · exact fun _ _ holds => nomatch holds
  | step _ last ih =>
      obtain ⟨held, accounted⟩ := ih
      rcases distant_step last with atomic | ⟨number, role, call, failure, middle, rfl, may, atomic, same, rfl⟩
      · obtain ⟨ledger, later, _⟩ := atomic_accounted disciplined accounted atomic
        exact ⟨ledger, later⟩
      · obtain ⟨ledger, later, _⟩ := atomic_accounted disciplined accounted atomic
        exact ⟨ledger, lost_accounted acknowledged may same later⟩

theorem caller_origin {conduct : Conduct} {number : Nat} {role : Role} {call : Call} {outcome : Outcome call.Answer}
    (step : Step conduct program world (.called number role call outcome) after) :
    world.originOf number = role.origin number := by
  cases step with
  | call present allowed => simp only [World.originOf, present]

theorem deletes_own {number : Nat} {role : Role} {outcome : Outcome (Call.delete key).Answer}
    (disciplined : ∀ process, program process → Heeds scope Settled none process)
    (accounted : Accounted scope events world authors held) (under : Under scope key)
    (step : Step Atomic program world (.called number role (.delete key) outcome) after) :
    after.memory.get? key = world.memory.get? key ∨
      (world.memory.get? key = some placeholder ∧ authors key = some (role.origin number)) := by
  obtain ⟨_, _, change⟩ := atomic_accounted disciplined accounted step
  cases change with
  | quiet same unwritten => exact .inl (same_but_none same key under)
  | won happened under present unowning absent created same => exact nomatch happened
  | freed happened owned removed same =>
      cases happened
      have written := accounted.authored _ _ owned
      rw [caller_origin step] at written
      exact .inr ⟨(accounted.exclusive.marked _ _ owned).stored, written⟩
  | kept happened owned success handed stored same => exact nomatch happened
  | passed owned idle heir same unwritten => exact .inl (by rw [same])
  | forgotten owned careless same unwritten => exact .inl (by rw [same])

theorem acknowledged_ownership (acknowledged : Acknowledged scope loses) (idle : ∀ number, start.tasks number = none)
    (run : SignedRun (Distant loses) (Customer scope) start events world authors) :
    (∀ number role key outcome after, Under scope key →
        Step (Distant loses) (Customer scope) world (.called number role (.delete key) outcome) after →
        after.memory.get? key = world.memory.get? key ∨
          (world.memory.get? key = some placeholder ∧ authors key = some (role.origin number))) ∧
      ∀ i j key, world.Handles i key → world.Handles j key → i = j := by
  obtain ⟨held, accounted⟩ := run_accounted customer_heeds acknowledged idle run
  constructor
  · intro number role key outcome after under step
    rcases distant_step step with atomic | ⟨_, _, _, _, _, same, may, _, _, _⟩
    · exact deletes_own customer_heeds accounted under atomic
    · cases same
      exact absurd rfl (acknowledged _ may under).2
  · intro i j key left right
    exact accounted.exclusive.single i j key ((owns_iff_held accounted.orderly i key).mp (handles_owns left))
      ((owns_iff_held accounted.orderly j key).mp (handles_owns right))

end Ledgers

-- The reply to a creation is lost: the placeholder stays, and nobody owns it.
theorem creation_lost {loses : Call → Prop} {program : Process Product → Prop} (world : World) (number : Nat)
    (desk : Desk) {key : String} {use : Except StoreFailure Claim → Process Product} (keyed : key.isEmpty = false)
    (free : world.tasks number = none) (admitted : program ((desk.claim (some key)).bind use))
    (absent : world.memory.get? (desk.storeKey key) = none)
    (may : loses (.create (desk.storeKey key) placeholder)) :
    ∃ failure after, Run (Distant loses) program world
        [.called number .request (.create (desk.storeKey key) placeholder) (.failed failure),
          .called number .request (.get (desk.storeKey key)) (.ok none), .began number] after ∧
      after.memory = world.memory.insert (desk.storeKey key) placeholder ∧
      ∀ other, other ≠ number → after.tasks other = world.tasks other := by
  have begun : Run (Distant loses) program world [.began number]
      (world.put number ⟨.request, .active ((desk.claim (some key)).bind use)⟩) :=
    .step .start (.begin free admitted)
  rw [claim_keyed desk keyed] at begun
  have look : Distant loses world.memory (.get (desk.storeKey key)) (.ok none) world.memory := by
    have reply : Distant loses world.memory (.get (desk.storeKey key)) (.ok (world.memory.get? (desk.storeKey key)))
      world.memory := faultless_distant loses _ _ _ _ .answered
    rwa [absent] at reply
  have looked := Run.step begun (.call (World.put_tasks_self _ _ _) look)
  have lose : Distant loses world.memory (.create (desk.storeKey key) placeholder)
      (.failed (unreachable (.create (desk.storeKey key) placeholder) ""))
      (world.memory.insert (desk.storeKey key) placeholder) := by
    have created : world.memory.perform (.create (desk.storeKey key) placeholder) =
        (true, world.memory.insert (desk.storeKey key) placeholder) :=
      if_neg (by simp [KeyMap.contains, absent])
    have reply := lost_distant may world.memory ""
    rwa [created] at reply
  refine ⟨_, _, .step looked (.call (World.put_tasks_self _ _ _) lose), rfl, ?_⟩
  intro other different
  simp only [World.put, if_neg different]

-- After a creation of which nobody knows, a request with another key removes what it has created itself.
theorem acknowledged_ownership_creation :
    ∃ failure events world authors existed after,
      SignedRun (Distant fun call => call.operation = .create) (Customer "desk") (.idle .empty) events world authors ∧
      .called 1 .request (.create "desk/other" placeholder) (.failed failure) ∈ events ∧
      Step (Distant fun call => call.operation = .create) (Customer "desk") world
        (.called 0 .request (.delete "desk/order") existed) after ∧
      world.memory.get? "desk/order" = some placeholder ∧ after.memory.get? "desk/order" = none ∧
      authors "desk/order" = some 0 := by
  let desk : Desk := { scope := "desk" }
  let loses : Call → Prop := fun call => call.operation = .create
  let handler : Job (Except ServiceFailure Answer) := .done (.error (.handlerFailure ""))
  let use := carryOn id handler fun _ => .nothing
  have admitted : ∀ key, Customer "desk" ((desk.claim (some key)).bind use) := by
    intro key
    rw [← serve_claim]
    exact .execute desk (some key) id handler _ rfl trivial
  have acknowledged : Acknowledged "desk" loses := by
    intro call created _
    constructor <;> simp [show call.operation = .create from created]
  have widens := faultless_distant loses
  have may : loses (.create (desk.storeKey "other") placeholder) := rfl
  obtain ⟨failure, first, lost, memory, others⟩ :=
    creation_lost (.idle .empty) 1 desk rfl rfl (admitted "other") rfl may
  have absent : first.memory.get? (desk.storeKey "order") = none := by
    rw [memory, KeyMap.get_insert, if_neg (by decide)]
    rfl
  obtain ⟨world, claimed, created, owning, _⟩ :=
    claim_wins first 0 desk rfl (others 0 (by decide)) (admitted "order") absent
  have stored : world.memory.get? "desk/order" = some placeholder := by
    rw [created]
    exact (KeyMap.get_insert first.memory _ _ _).trans (if_pos rfl)
  obtain ⟨authors, run⟩ := run_signed (run_append lost (run_widen widens claimed))
  have deletes : Step (Distant loses) (Customer "desk") world _ _ :=
    .call owning (widens world.memory (.delete "desk/order") _ _ .answered)
  have gone : (world.memory.erase "desk/order").get? "desk/order" = none :=
    (KeyMap.get_erase world.memory _ _).trans (if_pos rfl)
  obtain ⟨removes, _⟩ := acknowledged_ownership acknowledged (fun _ => rfl) run
  rcases removes 0 .request "desk/order" _ _ ⟨"order", rfl⟩ deletes with same | ⟨_, written⟩
  · exact nomatch gone.symm.trans (same.trans stored)
  · refine ⟨failure, _, world, authors, _, _, run, ?_, deletes, stored, gone, written⟩
    exact List.mem_append_right _ List.mem_cons_self

section Losses

variable {program : Process Product → Prop} {world : World} {number child : Nat} {role : Role} {key : String}

-- Any reply may be lost.
def Lossy : Conduct := Distant fun _ => True

-- The reply to a write is lost, and its owner leaves one more deletion to a task of its own.
theorem lost_defers {guard : Option String} {call : Call} {next : Outcome call.Answer → Process Product}
    {rest : StoreFailure → Process Product}
    (present : world.tasks number = some ⟨role, .active (.ask guard call next)⟩)
    (leaves : ∀ failure, next (.failed failure) = .abandon key (rest failure)) (free : world.tasks child = none) :
    ∃ failure after, Run Lossy program world
        [.deferred number child key, .called number role call (.failed failure)] after ∧
      after.memory = (world.memory.perform call).2 ∧
      after.tasks child = some ⟨.cleanup (role.origin number) key, .active (cleanupProcess key)⟩ ∧
      ∀ other, other ≠ number → other ≠ child → after.tasks other = world.tasks other := by
  have different : child ≠ number := by
    rintro rfl
    exact nomatch free.symm.trans present
  have failed : Run Lossy program world [.called number role call (.failed (unreachable call ""))]
      (World.put { world with memory := (world.memory.perform call).2 } number
        ⟨role, .active (next (.failed (unreachable call "")))⟩) :=
    .step .start (.call present (lost_distant trivial world.memory ""))
  rw [leaves] at failed
  have vacant := (World.put_tasks_other { world with memory := (world.memory.perform call).2 } number child
    ⟨role, .active (.abandon key (rest (unreachable call "")))⟩ different).trans free
  refine ⟨_, _, .step failed (.abandon (World.put_tasks_self _ _ _) vacant), rfl, World.put_tasks_self _ _ _, ?_⟩
  intro other notOwner notChild
  simp only [World.put, if_neg notOwner, if_neg notChild]

theorem cleanup_deletes {origin : Nat}
    (present : world.tasks child = some ⟨.cleanup origin key, .active (cleanupProcess key)⟩) :
    ∃ after, Step Lossy program world
        (.called child (.cleanup origin key) (.delete key) (.ok (world.memory.contains key))) after ∧
      after.memory = world.memory.erase key ∧ ∀ other, other ≠ child → after.tasks other = world.tasks other :=
  ⟨_, .call present (faultless_distant _ _ _ _ _ .answered), rfl, fun _ different =>
    World.put_tasks_other _ _ _ _ different⟩

end Losses

-- The reply to the deletion of a request that failed is lost, and that to the storing of one that succeeded.
theorem lost_replies_break_ownership :
    (∃ events world after existed later last,
        Run Lossy (Customer "desk") (.idle .empty) events world ∧
        lastWrite? "desk/order" events = some (2, .create "desk/order" placeholder) ∧
        world.memory.get? "desk/order" = some placeholder ∧
        Step Lossy (Customer "desk") world (.called 1 (.cleanup 0 "desk/order") (.delete "desk/order") existed) after ∧
        after.memory.get? "desk/order" = none ∧
        Run Lossy (Customer "desk") after later last ∧ last.Handles 2 "desk/order" ∧ last.Handles 3 "desk/order") ∧
      ∃ events world after existed,
        Run Lossy (Customer "desk") (.idle .empty) events world ∧
        world.memory.get? "desk/order" = some (keptBytes ⟨201, []⟩) ∧
        Step Lossy (Customer "desk") world (.called 2 (.cleanup 0 "desk/order") (.delete "desk/order") existed) after ∧
        after.memory.get? "desk/order" = none := by
  let desk : Desk := { scope := "desk" }
  let use := fun handler : Job (Except ServiceFailure Answer) => carryOn id handler fun _ => .nothing
  have admitted : ∀ handler, JobSpares "desk" (fun _ => True) handler →
      Customer "desk" ((desk.claim (some "order")).bind (use handler)) := by
    intro handler spares
    rw [← serve_claim]
    exact .execute desk (some "order") id handler _ rfl spares
  let slow : Job (Except ServiceFailure Answer) := .wait (.done (.ok ⟨201, []⟩))
  have widens : ∀ memory call outcome after, Faultless memory call outcome after →
      Lossy memory call outcome after := faultless_distant fun _ => True
  constructor
  · obtain ⟨first, claimed, _, owning, others⟩ := claim_wins (.idle .empty) 0 desk rfl rfl
      (admitted (.done (.error (.handlerFailure ""))) trivial) rfl
    obtain ⟨_, second, freed, erased, cleaning, same⟩ := lost_defers owning (fun _ => rfl) (others 1 (by decide))
    have absent : second.memory.get? (desk.storeKey "order") = none := by
      rw [erased]
      exact (KeyMap.get_erase first.memory _ _).trans (if_pos rfl)
    obtain ⟨third, again, created, handling, kept⟩ := claim_wins second 2 desk rfl
      ((same 2 (by decide) (by decide)).trans (others 2 (by decide))) (admitted slow trivial) absent
    have stored : third.memory.get? "desk/order" = some placeholder := by
      rw [created]
      exact (KeyMap.get_insert second.memory _ _ _).trans (if_pos rfl)
    obtain ⟨fourth, deletes, emptied, stays⟩ := cleanup_deletes ((kept 1 (by decide)).trans cleaning)
    have gone : fourth.memory.get? (desk.storeKey "order") = none := by
      rw [emptied]
      exact (KeyMap.get_erase third.memory _ _).trans (if_pos rfl)
    have free : fourth.tasks 3 = none := by
      rw [stays 3 (by decide), kept 3 (by decide), same 3 (by decide) (by decide)]
      exact others 3 (by decide)
    obtain ⟨last, more, _, also, beside⟩ := claim_wins fourth 3 desk rfl free (admitted slow trivial) gone
    have run := run_append (run_append (run_widen widens claimed) freed) (run_widen widens again)
    have handles : last.Handles 2 "desk/order" :=
      ⟨Answer, id, slow, _, (beside 2 (by decide)).trans ((stays 2 (by decide)).trans handling)⟩
    exact ⟨_, third, fourth, _, _, last, run, rfl, stored, deletes, gone, run_widen widens more, handles,
      ⟨Answer, id, slow, _, also⟩⟩
  · obtain ⟨first, claimed, _, owning, others⟩ := claim_wins (.idle .empty) 0 desk rfl rfl
      (admitted (.done (.ok ⟨201, []⟩)) trivial) rfl
    obtain ⟨middle, handed, storing, free⟩ : ∃ middle,
        Run Lossy (Customer "desk") first [.handed 0 1 (Ownership.settlement "desk/order" ⟨201, []⟩)] middle ∧
        middle.tasks 1 = some ⟨.settlement 0, .active (.ask (some "desk/order")
          (.put "desk/order" (keptBytes ⟨201, []⟩)) (stored "desk/order"))⟩ ∧ middle.tasks 2 = none := by
      refine ⟨_, .step .start (.settle owning (others 1 (by decide))), ?_, others 2 (by decide)⟩
      rw [World.put_tasks_self, settlement_stores "desk/order" rfl]
      rfl
    obtain ⟨_, second, deferred, put, cleaning, _⟩ := lost_defers storing (fun _ => rfl) free
    have stored : second.memory.get? "desk/order" = some (keptBytes ⟨201, []⟩) := by
      rw [put]
      exact (KeyMap.get_insert middle.memory _ _ _).trans (if_pos rfl)
    obtain ⟨third, deletes, emptied, _⟩ := cleanup_deletes cleaning
    have gone : third.memory.get? "desk/order" = none := by
      rw [emptied]
      exact (KeyMap.get_erase second.memory _ _).trans (if_pos rfl)
    have run := run_append (run_append (run_widen widens claimed) handed) deferred
    exact ⟨_, second, third, _, run, stored, deletes, gone⟩

end ConfigRegistry.Concurrent
