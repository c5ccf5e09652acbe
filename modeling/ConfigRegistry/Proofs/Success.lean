import ConfigRegistry.Proofs.Callers
import ConfigRegistry.Proofs.Contents
import ConfigRegistry.Proofs.Handling
import ConfigRegistry.Proofs.Replay

set_option autoImplicit false

/-!
Main statement: over a store that never fails, at most one handler under a key ends with a success that can be kept,
and the requests after it are told its answer.
-/
namespace ConfigRegistry.Concurrent

open Work (Job Process)
open Session (Product)
open Dedup

-- A handler runs under the key, and this is left of it.
def World.Ahead (world : World) (limit number : Nat) (key : String) (handler : Job Http.Response) : Prop :=
  ∃ rest, world.tasks number = some ⟨.request, .active ((Ownership.handle key Service.answerOf
    (Service.buffered limit handler)).bind rest)⟩

-- A handler under the key has ended with the response, and nothing has been done about it yet.
def World.Ended (world : World) (limit number : Nat) (key : String) (response : Http.Response) : Prop :=
  world.Ahead limit number key (.done response)

-- From the end of the handler to its answer under the key.
inductive Committing (start : World) (number : Nat) (key : String) (answer : Answer) (world : World) : Prop where
  | ended (still : world.tasks number = start.tasks number)
  | storing (child : Nat) (next : Except StoreFailure Unit → Process Product)
      (waits : world.tasks number = some ⟨.request, .settling child next⟩)
      (stores : world.tasks child =
        some ⟨.settlement number, .active (.ask (some key) (.put key (keptBytes answer)) (stored key))⟩)
  | filed (value : world.memory.get? key = some (keptBytes answer))

section

variable {scope key : String} {start world after : World} {events : List Event} {conduct : Conduct}
  {program : Process Product → Prop} {event : Event} {number : Nat} {held ledger : Nat → Option String}
  {answer : Answer}

theorem settle_step {role : Role} {settlement : Work.Settlement} {next : Except StoreFailure Unit → Process Product}
    (settles : world.tasks number = some ⟨role, .active (.settle settlement next)⟩)
    (step : Step conduct program world event after) (actor : event.actor = number)
    (uncancelled : event ≠ .cancelled number) :
    ∃ child, after.tasks number = some ⟨role, .settling child next⟩ ∧
      after.tasks child = some ⟨.settlement (role.origin number), .active (settlementProcess settlement)⟩ := by
  obtain ⟨child, free, rfl⟩ := step_moves settles step actor uncancelled
  have different : number ≠ child := by
    rintro rfl
    exact nomatch free.symm.trans settles
  refine ⟨child, ?_, World.put_tasks_self _ _ _⟩
  exact (World.put_tasks_other _ _ _ _ different).trans (World.put_tasks_self _ _ _)

theorem waits_step {role : Role} {child : Nat} {task : Task} {next : Except StoreFailure Unit → Process Product}
    (waits : world.tasks number = some ⟨role, .settling child next⟩) (busy : world.tasks child = some task)
    (running : task.stage.outcome? = none) (step : Step conduct program world event after)
    (uncancelled : event ≠ .cancelled number) : event.actor ≠ number := by
  intro actor
  obtain ⟨task, outcome, ended, ending, _⟩ := step_moves waits step actor uncancelled
  cases busy.symm.trans ended
  exact nomatch running.symm.trans ending

theorem stores_step {origin : Nat} (stores : world.tasks number =
      some ⟨.settlement origin, .active (.ask (some key) (.put key (keptBytes answer)) (stored key))⟩)
    (step : Step Faultless program world event after) (actor : event.actor = number) :
    after.memory.get? key = some (keptBytes answer) := by
  have uncancelled : event ≠ .cancelled number := by
    rintro rfl
    cases step with
    | cancel present _ => exact nomatch stores.symm.trans present
  rw [ask_alone stores step actor uncancelled]
  exact (KeyMap.get_insert world.memory key (keptBytes answer) key).trans (if_pos rfl)

theorem committing_preserved {next : Except StoreFailure Unit → Process Product}
    (kept : isKept answer.statusCode = true)
    (ends : start.tasks number = some ⟨.request, .active (.settle (Ownership.settlement key answer) next)⟩)
    (exclusive : Exclusive scope events world held) (committing : Committing start number key answer world)
    (step : Step Faultless program world event after) (uncancelled : event ≠ .cancelled number)
    (change : KeyChange (event :: events) world held event after key) : Committing start number key answer after := by
  cases committing with
  | ended still =>
      have settles := still.trans ends
      by_cases actor : event.actor = number
      · obtain ⟨child, waits, stores⟩ := settle_step settles step actor uncancelled
        rw [settlement_stores key kept] at stores
        exact .storing child next waits stores
      · exact .ended ((step_other step (Ne.symm actor) settles).trans ends.symm)
  | storing child following waits stores =>
      have other := waits_step waits stores rfl step uncancelled
      by_cases actor : event.actor = child
      · exact .filed (stores_step stores step actor)
      · exact .storing child following (step_other step (Ne.symm other) waits) (step_other step (Ne.symm actor) stores)
  | filed value => exact .filed (answer_stays exclusive change value (kept_not_placeholder _))

theorem run_committing (disciplined : ∀ process, program process → Heeds scope Settled none process)
    {next : Except StoreFailure Unit → Process Product} {later : List Event} {first last : World}
    (idle : ∀ number, start.tasks number = none) (run : Run Faultless program start events first)
    (kept : isKept answer.statusCode = true) (under : Under scope key)
    (ends : first.tasks number = some ⟨.request, .active (.settle (Ownership.settlement key answer) next)⟩)
    (rest : Run Faultless program first later last) (uncancelled : ∀ number, .cancelled number ∉ later) :
    Committing first number key answer last := by
  induction rest with
  | start => exact .ended rfl
  | @step _ _ _ event earlier step ih =>
      have committing := ih fun number found => uncancelled number (List.mem_cons_of_mem _ found)
      have whole := run_widen faultless_atomic (run_append run earlier)
      obtain ⟨held, orderly, exclusive⟩ := run_ledger disciplined idle whole
      obtain ⟨ledger, _, change⟩ := step_change disciplined orderly (step_widen faultless_atomic step)
      have other : event ≠ .cancelled number := by
        rintro rfl
        exact uncancelled number List.mem_cons_self
      exact committing_preserved kept ends exclusive committing step other (key_change under change)

theorem left_buffered {limit : Nat} {handler : Job Http.Response} {job : Job (Except ServiceFailure Http.Response)}
    (left : Left (Service.buffered limit handler) job) :
    ∃ inner, Left handler inner ∧ job = Service.buffered limit inner := by
  induction left with
  | whole => exact ⟨handler, .whole, rfl⟩
  | asked _ answer ih =>
      obtain ⟨inner, left, same⟩ := ih
      cases inner with
      | ask call next =>
          cases same
          exact ⟨next answer, left.asked answer, rfl⟩
      | _ => cases same
  | named _ id ih =>
      obtain ⟨inner, left, same⟩ := ih
      cases inner with
      | fresh next =>
          cases same
          exact ⟨next id, left.named id, rfl⟩
      | _ => cases same
  | marked _ ih =>
      obtain ⟨inner, left, same⟩ := ih
      cases inner with
      | started next =>
          cases same
          exact ⟨next, left.marked, rfl⟩
      | _ => cases same
  | waited _ ih =>
      obtain ⟨inner, left, same⟩ := ih
      cases inner with
      | wait next =>
          cases same
          exact ⟨next, left.waited, rfl⟩
      | _ => cases same

-- A step of a handler leads to what is then left of it; only a store that panics cuts it short.
theorem handler_step_ends {limit : Nat} {inner : Job Http.Response}
    {rest : Except ServiceFailure Http.Response → Process Product} (working : Working inner)
    (handles : world.tasks number = some ⟨.request, .active ((Ownership.handle key Service.answerOf
      (Service.buffered limit inner)).bind rest)⟩)
    (step : Step conduct program world event after) (actor : event.actor = number)
    (uncancelled : event ≠ .cancelled number) :
    (∃ further, Left inner further ∧ after.Ahead limit number key further) ∨
      ∃ call message, event = .called number .request call (.panicked message) := by
  cases inner with
  | done response => exact working.elim
  | crash message => exact working.elim
  | ask call next =>
      rw [Service.buffered, Job.bind, Ownership.handle, Job.host] at handles
      obtain ⟨outcome, memory, -, rfl, rfl⟩ := step_does handles step actor uncancelled
      cases outcome with
      | ok answer => exact .inl ⟨_, .asked .whole (.ok answer), rest, World.put_tasks_self _ _ _⟩
      | failed failure => exact .inl ⟨_, .asked .whole (.error failure), rest, World.put_tasks_self _ _ _⟩
      | panicked message => exact .inr ⟨call, message, rfl⟩
  | fresh next =>
      obtain ⟨id, -, rfl⟩ := step_does handles step actor uncancelled
      exact .inl ⟨_, .named .whole id, rest, World.put_tasks_self _ _ _⟩
  | started next =>
      obtain ⟨-, rfl⟩ := step_does handles step actor uncancelled
      exact .inl ⟨_, .marked .whole, rest, World.put_tasks_self _ _ _⟩
  | wait next =>
      obtain ⟨-, rfl⟩ := step_does handles step actor uncancelled
      exact .inl ⟨_, .waited .whole, rest, World.put_tasks_self _ _ _⟩

-- Whatever the handler of a request does, it does with what is left of it ahead, and the rest is ahead then. So one
-- that has come to its response stands where it has ended, with that response.
theorem handler_stays_ahead {desk : Desk} {request : Http.Request} {handler : Job Http.Response} {clientKey : String}
    (keyed : clientKeyOf request.keys = some clientKey) (fits : request.body.length ≤ desk.bodyLimit)
    (begun : start.tasks number =
      some ⟨.request, .active ((Service.deduplicate desk request handler).map responded)⟩)
    (run : Run conduct program start events world) (step : Step conduct program world event after)
    (actor : event.actor = number) (own : event.OfHandler (desk.storeKey clientKey)) :
    ∃ inner, Left handler inner ∧ world.Ahead desk.bodyLimit number (desk.storeKey clientKey) inner ∧
      ((∃ further, Left handler further ∧ after.Ahead desk.bodyLimit number (desk.storeKey clientKey) further) ∨
        ∃ call message, event = .called number .request call (.panicked message)) := by
  rw [deduplicate_claims keyed fits, answerWith, ← serve_claim] at begun
  obtain ⟨job, rest, remains, working, handles⟩ :=
    handler_steps_handled (client_key_nonempty keyed) begun run step actor own
  obtain ⟨inner, left, rfl⟩ := left_buffered remains
  have uncancelled : event ≠ .cancelled number := by
    rintro rfl
    exact own
  refine ⟨inner, left, ⟨rest, handles⟩, ?_⟩
  have works : Working inner := by
    cases inner <;> exact working
  rcases handler_step_ends works handles step actor uncancelled with ⟨further, ahead, stands⟩ | panics
  · exact .inl ⟨further, left_trans left ahead, stands⟩
  · exact .inr panics

theorem ended_settles {limit : Nat} {response : Http.Response} (ended : world.Ended limit number key response)
    (fits : response.body.length ≤ limit) :
    ∃ next, world.tasks number = some ⟨.request, .active
      (.settle (Ownership.settlement key (Service.answerOf response)) next)⟩ := by
  obtain ⟨rest, present⟩ := ended
  have within : Service.buffered limit (.done response) = .done (.ok response) := by
    simp [Service.buffered, Job.bind, Nat.not_lt.mpr fits]
  rw [within] at present
  exact ⟨_, present⟩

-- A request with the key that looks it up now is answered at once, and with this response.
def World.Tells (world : World) (desk : Desk) (key : String) (response : Http.Response) : Prop :=
  ∀ (program : Process Product → Prop) (reader : Nat) (request : Http.Request) (handler : Job Http.Response)
    (clientKey : String), clientKeyOf request.keys = some clientKey → desk.storeKey clientKey = key →
    request.body.length ≤ desk.bodyLimit →
    world.tasks reader = some ⟨.request, .active ((Service.deduplicate desk request handler).map responded)⟩ →
    (∃ event after, Step Faultless program world event after ∧ event.actor = reader ∧ event ≠ .cancelled reader) ∧
    ∀ event after, Step Faultless program world event after → event.actor = reader →
      event ≠ .cancelled reader → after.tasks reader = some ⟨.request, .active (.done (responded response))⟩

theorem look_up_tells {desk : Desk} {claim : Claim} {response : Http.Response}
    (found : lookedUp key (.ok (world.memory.get? key)) = .done (.ok claim))
    (answers : ∀ handler, answerWith desk handler (.ok claim) = .done (responded response)) :
    world.Tells desk key response := by
  rintro program reader request handler clientKey keyed rfl fits waits
  rw [deduplicate_claims keyed fits, claim_keyed desk (client_key_nonempty keyed)] at waits
  constructor
  · exact ⟨_, _, .call waits .answered, rfl, fun same => nomatch same⟩
  · intro event after step actor uncancelled
    rw [ask_alone waits step actor uncancelled]
    have read : world.memory.perform (.get (desk.storeKey clientKey)) =
        (world.memory.get? (desk.storeKey clientKey), world.memory) := rfl
    simp only [read, found, Process.bind, answers]
    exact World.put_tasks_self _ _ _

theorem stored_tells {desk : Desk} {response : Http.Response}
    (stored : world.memory.get? key = some (keptBytes (Service.answerOf response))) :
    world.Tells desk key (Service.replay (Service.answerOf response)) := by
  have found : lookedUp key (.ok (world.memory.get? key)) = .done (.ok (.answered (Service.answerOf response))) := by
    rw [stored]
    simp only [lookedUp, decode_kept]
  exact look_up_tells found fun _ => rfl

theorem placeholder_tells {desk : Desk} (stored : world.memory.get? key = some placeholder) :
    world.Tells desk key ServiceFailure.conflict.response := by
  have found : lookedUp key (.ok (world.memory.get? key)) = .done (.ok .busy) := by
    rw [stored]
    simp only [lookedUp, decode_placeholder]
  exact look_up_tells found fun _ => rfl

theorem at_most_one_success {desk : Desk} {later : List Event} {last : World} {response : Http.Response}
    (idle : ∀ number, start.tasks number = none) (run : Run Faultless (Caller desk) start events world)
    (ended : world.Ended desk.bodyLimit number key response) (success : isKept response.status = true)
    (fits : response.body.length ≤ desk.bodyLimit) (rest : Run Faultless (Caller desk) world later last)
    (uncancelled : ∀ number, .cancelled number ∉ later) :
    (∀ other, last.Handles other key → other = number ∧ last.tasks other = world.tasks number) ∧
    (∀ task outcome, last.tasks number = some task → task.stage.outcome? = some outcome →
      last.memory.get? key = some (keptBytes (Service.answerOf response))) ∧
    (last.memory.get? key = some (keptBytes (Service.answerOf response)) →
      last.Tells desk key (Service.replay (Service.answerOf response)) ∧
        (Service.replay (Service.answerOf response)).status = response.status ∧
        (Service.replay (Service.answerOf response)).body = response.body) ∧
    (last.memory.get? key ≠ some (keptBytes (Service.answerOf response)) →
      last.Tells desk key ServiceFailure.conflict.response) := by
  obtain ⟨next, settles⟩ := ended_settles ended fits
  obtain ⟨before, orderly, exclusive⟩ := run_ledger caller_heeds idle (run_widen faultless_atomic run)
  have owned : before number = some key := (owns_iff_held orderly number key).mp ⟨_, settles, rfl⟩
  have under := (exclusive.marked number key owned).under
  have committing := run_committing caller_heeds idle run success under settles rest uncancelled
  obtain ⟨held, orderly, exclusive⟩ :=
    run_ledger caller_heeds idle (run_widen faultless_atomic (run_append run rest))
  have holder : ∀ other, last.Owns other key → held other = some key := fun other =>
    (owns_iff_held orderly other key).mp
  have marked : ∀ other, last.Owns other key → last.memory.get? key = some placeholder := fun other owns =>
    (exclusive.marked other key (holder other owns)).stored
  have kept : isKept (Service.answerOf response).statusCode = true := success
  have replayed := replay_response kept
  refine ⟨fun other handles => ?_, fun task outcome present closed => ?_,
    fun stored => ⟨stored_tells stored, replayed.1, replayed.2.1⟩, fun pending => ?_⟩
  · have owns := handles_owns handles
    cases committing with
    | ended still =>
        have same := exclusive.single other number key (holder other owns) (holder number ⟨_, still.trans settles, rfl⟩)
        subst same
        exact ⟨rfl, still⟩
    | storing child _ _ stores =>
        have same := exclusive.single other child key (holder other owns) (holder child ⟨_, stores, rfl⟩)
        subst same
        obtain ⟨_, _, _, _, present⟩ := handles
        exact nomatch stores.symm.trans present
    | filed value =>
        exact absurd (Option.some.inj (value.symm.trans (marked other owns))) (kept_not_placeholder _)
  · cases committing with
    | ended still =>
        cases (still.trans settles).symm.trans present
        exact nomatch closed
    | storing child _ waits _ =>
        cases waits.symm.trans present
        exact nomatch closed
    | filed value => exact value
  · cases committing with
    | ended still => exact placeholder_tells (marked number ⟨_, still.trans settles, rfl⟩)
    | storing child _ _ stores => exact placeholder_tells (marked child ⟨_, stores, rfl⟩)
    | filed value => exact absurd value pending

-- A request that comes first with its key has its handler run to the end.
theorem first_ends (world : World) (number : Nat) {desk : Desk} {request : Http.Request} {response : Http.Response}
    {clientKey : String} (keyed : clientKeyOf request.keys = some clientKey)
    (fits : request.body.length ≤ desk.bodyLimit)
    (admitted : program ((Service.deduplicate desk request (.started (.done response))).map responded))
    (free : world.tasks number = none) (absent : world.memory.get? (desk.storeKey clientKey) = none) :
    ∃ last, Run Faultless program world
        [.started number, .called number .request (.create (desk.storeKey clientKey) placeholder) (.ok true),
          .called number .request (.get (desk.storeKey clientKey)) (.ok none), .began number] last ∧
      last.Ended desk.bodyLimit number (desk.storeKey clientKey) response ∧
      last.memory = world.memory.insert (desk.storeKey clientKey) placeholder ∧
      ∀ other, other ≠ number → last.tasks other = world.tasks other := by
  rw [deduplicate_claims keyed fits] at admitted
  obtain ⟨owner, won, memory, owning, others⟩ :=
    claim_wins world number desk (client_key_nonempty keyed) free admitted absent
  refine ⟨_, .step won (.start owning), ⟨_, World.put_tasks_self _ _ _⟩, memory, fun other different => ?_⟩
  exact (World.put_tasks_other _ _ _ _ different).trans (others other different)

-- Whatever the status of a response that is too long, its key is freed.
theorem oversized_frees (program : Process Product → Prop) {limit : Nat} {response : Http.Response}
    (ended : world.Ended limit number key response) (large : limit < response.body.length) :
    ∃ last, Run Faultless program world
        [.called number .request (.delete key) (.ok (world.memory.contains key))] last ∧
      last.memory = world.memory.erase key ∧ ∀ other, other ≠ number → last.tasks other = world.tasks other := by
  obtain ⟨rest, present⟩ := ended
  have refused : ∃ failure, Service.buffered limit (.done response) = .done (.error failure) :=
    ⟨_, congrArg Job.done (if_pos large)⟩
  obtain ⟨failure, refused⟩ := refused
  rw [refused] at present
  exact ⟨_, .step .start (.call present .answered), rfl, fun other different =>
    World.put_tasks_other _ _ _ _ different⟩

end

-- A handler ends with 201, its answer is stored, and a request that came meanwhile is told it.
theorem at_most_one_success_stored :
    let desk : Desk := { scope := "desk" }
    let response : Http.Response := { status := 201, body := [7] }
    ∃ events world later last, Run Faultless (Caller desk) (.idle .empty) events world ∧
      world.Ended desk.bodyLimit 0 "desk/order" response ∧ Run Faultless (Caller desk) world later last ∧
      (∃ request handler, last.tasks 2 =
        some ⟨.request, .active ((Service.deduplicate desk request handler).map responded)⟩) ∧
      (∀ other, last.Handles other "desk/order" → other = 0) ∧
      last.Tells desk "desk/order" (Service.replay ⟨201, [7]⟩) := by
  intro desk response
  let request : Http.Request := { method := "POST", target := [], keys := [Text.toBytes "order"] }
  have keyed : clientKeyOf request.keys = some "order" := by decide
  have admitted : Caller desk ((Service.deduplicate desk request (.started (.done response))).map responded) :=
    .deduplicate request _ trivial
  obtain ⟨world, first, ended, _, others⟩ := first_ends (.idle .empty) 0 keyed (Nat.zero_le _) admitted rfl rfl
  obtain ⟨next, settles⟩ := ended_settles ended (by decide)
  have vacant : world.tasks 1 = none := others 1 (by decide)
  obtain ⟨after, stored, memory, _, same⟩ := owner_stores (Caller desk) rfl settles vacant
  have free : after.tasks 2 = none := (same 2 (by decide) (by decide)).trans (others 2 (by decide))
  have rest := Run.step stored (.begin free admitted)
  obtain ⟨single, _, told, _⟩ := at_most_one_success (fun _ => rfl) first ended rfl (by decide) rest (by simp)
  have lies : after.memory.get? "desk/order" = some (keptBytes (Service.answerOf response)) := by
    rw [memory]
    exact (KeyMap.get_insert world.memory "desk/order" _ "desk/order").trans (if_pos rfl)
  exact ⟨_, world, _, _, first, ended, rest, ⟨request, _, World.put_tasks_self _ _ _⟩,
    fun other handles => (single other handles).1, (told lies).1⟩

-- Two requests run the handler to its success, for its response is too long to be kept; and where it is not, a request
-- that comes after the end of the handler can still be refused.
theorem success_not_final :
    let desk : Desk := { scope := "desk", bodyLimit := 0 }
    let request : Http.Request := { method := "POST", target := [], keys := [Text.toBytes "order"] }
    let long : Http.Response := { status := 201, body := [1] }
    let short : Http.Response := { status := 201 }
    let process := fun response => (Service.deduplicate desk request (.started (.done response))).map responded
    isKept long.status = true ∧ isKept short.status = true ∧ request.body.length ≤ desk.bodyLimit ∧
      (∃ events world later last, Run Faultless (Only (process long)) (.idle .empty) events world ∧
        Run Faultless (Only (process long)) world later last ∧ (∀ number, .cancelled number ∉ later ++ events) ∧
        .started 0 ∈ events ∧ world.Ended desk.bodyLimit 0 "desk/order" long ∧
        .started 1 ∈ later ∧ last.Ended desk.bodyLimit 1 "desk/order" long) ∧
      ∃ events world later last, Run Faultless (Only (process short)) (.idle .empty) events world ∧
        Run Faultless (Only (process short)) world later last ∧ (∀ number, .cancelled number ∉ later ++ events) ∧
        .started 0 ∈ events ∧ world.Ended desk.bodyLimit 0 "desk/order" short ∧ .began 1 ∈ later ∧
        last.tasks 1 = some ⟨.request, .active (.done (responded ServiceFailure.conflict.response))⟩ := by
  intro desk request long short process
  have keyed : clientKeyOf request.keys = some "order" := by decide
  refine ⟨rfl, rfl, Nat.le_refl _, ?_, ?_⟩
  · have admitted : Only (process long) (process long) := rfl
    obtain ⟨world, first, ended, _, others⟩ := first_ends (.idle .empty) 0 keyed (Nat.le_refl _) admitted rfl rfl
    obtain ⟨freed, released, erased, same⟩ := oversized_frees (Only (process long)) ended (by decide)
    have absent : freed.memory.get? (desk.storeKey "order") = none := by
      rw [erased, KeyMap.get_erase, if_pos rfl]
    have free : freed.tasks 1 = none := (same 1 (by decide)).trans (others 1 (by decide))
    obtain ⟨last, second, again, _⟩ := first_ends freed 1 keyed (Nat.le_refl _) admitted free absent
    exact ⟨_, world, _, last, first, run_append released second, by simp, by simp, ended, by simp, again⟩
  · have admitted : Only (process short) (process short) := rfl
    obtain ⟨world, first, ended, memory, others⟩ := first_ends (.idle .empty) 0 keyed (Nat.le_refl _) admitted rfl rfl
    have begun :
        Run Faultless (Only (process short)) world [.began 1] (world.put 1 ⟨.request, .active (process short)⟩) :=
      .step .start (.begin (others 1 (by decide)) admitted)
    have marked : (world.put 1 ⟨.request, .active (process short)⟩).memory.get? (desk.storeKey "order") =
        some placeholder := by
      rw [World.put_memory, memory, KeyMap.get_insert, if_pos rfl]
    obtain ⟨⟨event, last, looks, actor, uncancelled⟩, told⟩ := placeholder_tells marked (Only (process short)) 1 request
      (.started (.done short)) "order" keyed rfl (Nat.le_refl _) (World.put_tasks_self _ _ _)
    refine ⟨_, world, _, last, first, .step begun looks, fun number found => ?_, by simp, ended, by simp,
      told event last looks actor uncancelled⟩
    have same : event = .cancelled number := by simpa [eq_comm] using found
    subst same
    exact uncancelled (congrArg Event.cancelled actor)

end ConfigRegistry.Concurrent
