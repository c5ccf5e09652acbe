import ConfigRegistry.Proofs.Minding

set_option autoImplicit false

/-!
Items in the store. Main statement: in every run of a service that starts with an empty store and keeps its records
apart from the items, each value under the key of an item is an acceptable item of that name and version, an item is
only written over where it was found by the same task, and a request that reads is never told of a broken item.
-/
namespace ConfigRegistry.Concurrent

open Store (Call Outcome Memory)
open Work (Job Process Settlement)
open Session (Product)
open Http (Request Target)
open Catalog
open Throttle (Gate Amount)
open Dedup
open Service

-- The key under which a task has last found something.
def lastFound (number : Nat) : List Event → Option String
  | [] => none
  | .called other _ call outcome :: earlier =>
      if other = number then foundAfter (lastFound number earlier) call outcome else lastFound number earlier
  | _ :: earlier => lastFound number earlier

-- An id that is given in a step is not empty.
def Names (world : World) (event : Event) (after : World) : Prop :=
  ∀ number role next, event = .moved number → world.tasks number = some ⟨role, .active (.fresh next)⟩ →
    ∃ id, id ≠ "" ∧ after.tasks number = some ⟨role, .active (next id)⟩

inductive NamingRun (conduct : Conduct) (program : Process Product → Prop) (start : World) :
    List Event → World → Prop where
  | start : NamingRun conduct program start [] start
  | step {events : List Event} {world after : World} {event : Event}
      (earlier : NamingRun conduct program start events world) (last : Step conduct program world event after)
      (names : Names world event after) : NamingRun conduct program start (event :: events) after

-- A request to any desk that keeps its record apart from the items.
inductive Guest : Process Product → Prop where
  | receive {α : Type} [Amount α] (desk : Desk) (gate : Gate α) (clock : Clock) (request : Request)
      (apart : ∀ key, clientKeyOf request.keys = some key → ¬ OnShelf (desk.storeKey key)) :
      Guest ((receive desk gate clock request).2.map responded)

def honest : Setting := ⟨Truthful, fun id => id ≠ ""⟩

section Steps

variable {conduct : Conduct} {program : Process Product → Prop} {start world after : World}
  {events : List Event} {event : Event} {found : Option String}

def Stage.Minds (found : Option String) : Stage → Prop
  | .active process => Concurrent.Minds honest (fun _ _ => True) found process
  | .settling _ next => ∀ verdict, Concurrent.Minds honest (fun _ _ => True) found (next verdict)

def SoundMemory (memory : Memory) : Prop := ∀ key bytes, memory.get? key = some bytes → Sound key bytes

def World.Minds (found : Nat → Option String) (world : World) : Prop :=
  ∀ number task, world.tasks number = some task → task.stage.Minds (found number)

structure Kept (events : List Event) (world : World) : Prop where
  sound : SoundMemory world.memory
  minds : world.Minds fun number => lastFound number events

-- What is written on a shelf is written over what the same task has found there last.
def Returns (events : List Event) : Prop :=
  ∀ number role key value outcome earlier, .called number role (.put key value) outcome :: earlier <:+ events →
    OnShelf key → lastFound number earlier = some key

theorem settlement_minds {settlement : Settlement}
    (off : ∀ value, settlement.value = some value → ¬ OnShelf settlement.key) :
    Minds honest (fun _ _ => True) found (settlementProcess settlement) := by
  refine harmless_minds (settlement_abides fun call among => ?_)
  rcases List.mem_append.mp among with put | delete
  · obtain ⟨value, stored, rfl⟩ := List.mem_map.mp put
    exact off value (Option.mem_toList.mp stored)
  · cases List.mem_singleton.mp delete
    trivial

theorem cleanup_minds (key : String) : Minds honest (fun _ _ => True) found (cleanupProcess key) :=
  ⟨trivial, fun _ _ => trivial⟩

theorem dropped_minds {stage : Stage} {process : Process Product} (left : stage.dropped? = some process) :
    Minds honest (fun _ _ => True) found process := by
  have drops (guard : Option String) : Minds honest (fun _ _ => True) found (dropped guard) := by
    cases guard <;> trivial
  cases stage with
  | settling child next =>
      cases left
      trivial
  | active process =>
      cases process with
      | ask guard call next =>
          cases left
          exact drops guard
      | wait guard next =>
          cases left
          exact drops guard
      | _ => exact nomatch left

theorem last_found_later {number : Nat} (quiet : ∀ number role call outcome, event ≠ .called number role call outcome) :
    lastFound number (event :: events) = lastFound number events := by
  cases event with
  | called caller role call outcome => exact absurd rfl (quiet caller role call outcome)
  | _ => rfl

-- A call that is careful leaves nothing but what may lie where it lies.
theorem perform_sound {memory : Memory} (sound : SoundMemory memory) {call : Call} (careful : Careful found call) :
    SoundMemory (memory.perform call).2 := by
  intro key bytes lies
  by_cases same : call.key = key
  · cases call with
    | get _ => exact sound key bytes lies
    | ping => exact sound key bytes lies
    | create changed value =>
        rw [Memory.perform] at lies
        split at lies
        · exact sound key bytes lies
        · obtain rfl : changed = key := same
          rw [KeyMap.get_insert, if_pos rfl, Option.some.injEq] at lies
          exact lies ▸ careful
    | put changed value =>
        obtain rfl : changed = key := same
        rw [Memory.perform, KeyMap.get_insert, if_pos rfl, Option.some.injEq] at lies
        exact lies ▸ careful.1
    | delete changed =>
        obtain rfl : changed = key := same
        rw [Memory.perform, KeyMap.get_erase, if_pos rfl] at lies
        cases lies
  · rw [Memory.get_perform_other memory call same] at lies
    exact sound key bytes lies

theorem perform_truthful {memory : Memory} (sound : SoundMemory memory) (call : Call) :
    Truthful call (.ok (memory.perform call).1) := by
  cases call with
  | get key =>
      cases lies : memory.get? key with
      | none => simp [Memory.perform, lies, Truthful]
      | some bytes => simpa [Memory.perform, lies, Truthful] using sound key bytes lies
  | _ => trivial

theorem atomic_sound {memory later : Memory} {call : Call} {outcome : Outcome call.Answer} (sound : SoundMemory memory)
    (atomic : Atomic memory call outcome later) (careful : Careful found call) :
    Truthful call outcome ∧ SoundMemory later := by
  cases atomic with
  | answered => exact ⟨perform_truthful sound call, perform_sound sound careful⟩
  | failed _ => exact ⟨by cases call <;> trivial, sound⟩
  | panicked _ => exact ⟨by cases call <;> trivial, sound⟩

theorem put_minds (world : World) {known later : Nat → Option String} (minds : world.Minds known)
    {number : Nat} {task : Task}
    (others : ∀ other, other ≠ number → later other = known other) (now : task.stage.Minds (later number)) :
    (world.put number task).Minds later := by
  intro other present among
  by_cases same : other = number
  · subst same
    rw [World.put_tasks_self] at among
    cases among
    exact now
  · rw [World.put_tasks_other _ number other task same] at among
    rw [others other same]
    exact minds other present among

theorem returns_later (returns : Returns events)
    (now : ∀ number role key value outcome, event = .called number role (.put key value) outcome → OnShelf key →
      lastFound number events = some key) : Returns (event :: events) := by
  intro number role key value outcome earlier among on
  rcases List.suffix_cons_iff.mp among with same | before
  · obtain ⟨rfl, rfl⟩ := List.cons.inj same
    exact now number role key value outcome rfl on
  · exact returns number role key value outcome earlier before on

-- A step that is no call moves a task on and changes nothing else, but may start another.
theorem quiet_kept (kept : Kept events world) (memory : after.memory = world.memory)
    (quiet : ∀ number role call outcome, event ≠ .called number role call outcome)
    (minds : after.Minds fun number => lastFound number events) : Kept (event :: events) after where
  sound := memory ▸ kept.sound
  minds number task present := by
    have same : lastFound number (event :: events) = lastFound number events := last_found_later quiet
    simpa only [same] using minds number task present

theorem call_kept {number : Nat} {role : Role} {guard : Option String} {call : Call}
    {next : Outcome call.Answer → Process Product} {outcome : Outcome call.Answer} {memory : Memory}
    (kept : Kept events world) (present : world.tasks number = some ⟨role, .active (.ask guard call next)⟩)
    (atomic : Atomic world.memory call outcome memory) :
    Careful (lastFound number events) call ∧
      Kept (.called number role call outcome :: events)
        (World.put { world with memory } number ⟨role, .active (next outcome)⟩) := by
  obtain ⟨careful, goes⟩ := kept.minds number _ present
  obtain ⟨truthful, sound⟩ := atomic_sound kept.sound atomic careful
  refine ⟨careful, sound, put_minds { world with memory } kept.minds (fun other different => ?_) ?_⟩
  · exact if_neg different.symm
  · have now : lastFound number (.called number role call outcome :: events) =
        foundAfter (lastFound number events) call outcome := if_pos rfl
    rw [now]
    exact goes outcome truthful

theorem quiet_step_minds (programs : ∀ found process, program process → Minds honest (fun _ _ => True) found process)
    (minds : world.Minds fun number => lastFound number events) (step : Step Atomic program world event after)
    (names : Names world event after) (quiet : ∀ number role call outcome, event ≠ .called number role call outcome) :
    after.memory = world.memory ∧ after.Minds fun number => lastFound number events := by
  have moved {number : Nat} {task : Task} (now : task.stage.Minds (lastFound number events)) :
      (world.put number task).Minds fun number => lastFound number events :=
    put_minds world minds (fun _ _ => rfl) now
  have handed {number child : Nat} {task other : Task} (now : task.stage.Minds (lastFound number events))
      (new : other.stage.Minds (lastFound child events)) :
      ((world.put number task).put child other).Minds fun number => lastFound number events :=
    put_minds _ (moved now) (fun _ _ => rfl) new
  cases step with
  | call => exact absurd rfl (quiet _ _ _ _)
  | begin free admitted => exact ⟨rfl, moved (programs _ _ admitted)⟩
  | wait present =>
      have goes := minds _ _ present
      exact ⟨rfl, moved goes⟩
  | @fresh number role next id present =>
      obtain ⟨given, nonempty, same⟩ := names number role next rfl present
      rw [World.put_tasks_self, Option.some.injEq, Task.mk.injEq] at same
      have goes := minds _ _ present given nonempty
      rw [same.2]
      exact ⟨rfl, moved goes⟩
  | start present =>
      have goes := minds _ _ present
      exact ⟨rfl, moved goes⟩
  | settle present free =>
      obtain ⟨off, goes⟩ := minds _ _ present
      exact ⟨rfl, handed goes (settlement_minds off)⟩
  | abandon present free =>
      have goes := minds _ _ present
      exact ⟨rfl, handed goes (cleanup_minds _)⟩
  | lose present =>
      have goes := minds _ _ present
      exact ⟨rfl, moved goes⟩
  | resume present ended ending => exact ⟨rfl, moved (minds _ _ present _)⟩
  | cancel present left => exact ⟨rfl, moved (dropped_minds left)⟩

theorem step_kept (programs : ∀ found process, program process → Minds honest (fun _ _ => True) found process)
    (kept : Kept events world) (returns : Returns events) (step : Step Atomic program world event after)
    (names : Names world event after) : Kept (event :: events) after ∧ Returns (event :: events) := by
  by_cases quiet : ∀ number role call outcome, event ≠ .called number role call outcome
  · obtain ⟨memory, minds⟩ := quiet_step_minds programs kept.minds step names quiet
    refine ⟨quiet_kept kept memory quiet minds, returns_later returns fun number role key value outcome same => ?_⟩
    exact absurd same (quiet number role _ outcome)
  · push Not at quiet
    obtain ⟨number, role, call, outcome, rfl⟩ := quiet
    cases step with
    | call present atomic =>
        obtain ⟨careful, kept⟩ := call_kept kept present atomic
        refine ⟨kept, returns_later returns fun other role key value outcome same on => ?_⟩
        cases same
        exact careful.2 on

theorem run_kept (programs : ∀ found process, program process → Minds honest (fun _ _ => True) found process)
    (run : NamingRun Atomic program (.idle .empty) events world) : Kept events world ∧ Returns events := by
  induction run with
  | start =>
      refine ⟨⟨fun _ _ lies => (nomatch lies), fun _ _ present => nomatch present⟩, ?_⟩
      exact fun _ _ _ _ _ _ among => absurd (List.suffix_nil.mp among) (List.cons_ne_nil _ _)
  | step _ last names ih => exact step_kept programs ih.1 ih.2 last names

end Steps

section Requests

variable {α : Type} [Amount α] {desk : Desk} {request : Request} {found : Option String}

theorem pass_minds {handler : Job Http.Response} (gate : Gate α) (clock : Clock)
    (apart : ∀ key, clientKeyOf request.keys = some key → ¬ OnShelf (desk.storeKey key))
    (minds : ∀ found, JobMinds honest (fun _ _ => True) found handler) :
    Minds honest (fun _ _ => True) found (caught (pass desk gate clock request handler).2) := by
  refine minds_rescue ?_
  rw [pass_process]
  split
  · exact deduplicate_minds apart minds
  · trivial

theorem honest_truthful (call : Call) (outcome : Outcome call.Answer) (occurs : honest.occurs call outcome) :
    Truthful call outcome := occurs

theorem inspecting_minds (clock : Clock) (query : Option Bytes) (route : Route) :
    Minds honest (fun _ _ => True) found (caught (inspect clock query route).process) :=
  minds_rescue (minds_host (inspect_minds honest_truthful clock query route) (fun _ _ _ => trivial)
    fun _ _ _ => trivial)

theorem dispatch_minds (gate : Gate α) (clock : Clock) (query : Option Bytes) (route : Route)
    (apart : ∀ key, clientKeyOf request.keys = some key → ¬ OnShelf (desk.storeKey key)) :
    Minds honest (fun _ _ => True) found (dispatch desk gate clock request query route).2 := by
  rw [dispatch]
  split
  · trivial
  · split
    · exact pass_minds gate clock apart fun _ => mutate_minds honest_truthful (fun _ given => given) request query route
    · split
      · split
        · exact inspecting_minds clock query route
        · split
          · exact minds_then (inspecting_minds clock query route) fun _ _ => trivial
          · trivial
      · exact minds_then (pass_minds gate clock apart fun _ => trivial) fun _ _ => trivial

theorem guest_minds (found : Option String) (process : Process Product) (guest : Guest process) :
    Minds honest (fun _ _ => True) found process := by
  cases guest with
  | receive desk gate clock request apart =>
      refine minds_then ?_ fun _ _ => trivial
      simp only [receive]
      split
      · exact dispatch_minds gate clock _ _ apart
      · trivial

-- A request that reads, asked while the store holds what it holds.
def answering (memory : Memory) : Setting := ⟨fun call outcome => outcome = .ok (memory.perform call).1, fun _ => True⟩

theorem reading_unbroken {memory : Memory} (sound : SoundMemory memory) {clock : Clock} {query : Option Bytes}
    {route : Route}
    {method : String} {course : List Happening} {ending : Except String Http.Response}
    (takes : Takes (reading clock query route method) course ending)
    (answered : ∀ call outcome, .asked call outcome ∈ course → outcome = .ok (memory.perform call).1) :
    Unbroken ending := by
  have truthful (call : Call) (outcome : Outcome call.Answer) (occurs : (answering memory).occurs call outcome) :
      Truthful call outcome := by
    cases occurs
    exact perform_truthful sound call
  have minds : Minds (answering memory) (fun _ ending => Unbroken ending) none (reading clock query route method) :=
    reading_minds truthful (fun _ _ occurs => ⟨_, occurs⟩) clock query route method
  obtain ⟨last, unbroken⟩ := takes_minds takes minds answered fun _ _ => trivial
  exact unbroken

end Requests

-- What lies under the key of an item.
def Acceptable : Kind → String → String → Bytes → Prop
  | .configuration, name, version, bytes => ∃ configuration : Configuration,
      Configuration.decoder.whole bytes = .ok configuration ∧ configuration.name = name ∧
        configuration.version = version ∧ configuration.check = .ok () ∧ configuration.id ≠ ""
  | .group, name, version, bytes => ∃ group : Group,
      Group.decoder.whole bytes = .ok group ∧ group.name = name ∧ group.version = version ∧ group.check = .ok () ∧
        (group.entries.map Entry.pair).Nodup ∧ group.id ≠ "" ∧
          ∀ entry ∈ group.entries, entry.id ≠ "" ∧ entry.configuration.id ≠ ""

theorem shelved_acceptable {kind : Kind} {name version : String} {bytes : Bytes}
    (shelved : Shelved kind name version bytes) :
    Acceptable kind name version bytes := by
  cases kind with
  | configuration =>
      obtain ⟨configuration, read, names, versions, sound⟩ := shelved
      exact ⟨configuration, read, names, versions, sound.checked, sound.named⟩
  | group =>
      obtain ⟨group, read, names, versions, sound⟩ := shelved
      exact ⟨group, read, names, versions, sound.checked, Group.sound_pairs sound, sound.named, sound.entries⟩

theorem stored_items {events : List Event} {world : World} (run : NamingRun Atomic Guest (.idle .empty) events world) :
    (∀ kind name version bytes, world.memory.get? (Kind.key kind name version) = some bytes →
        Acceptable kind name version bytes) ∧
      Returns events ∧
      ∀ {α : Type} [Amount α] (desk : Desk) (gate : Gate α) (clock : Clock) (request : Request) (route : Route),
        Route.find? (Target.parse request.target).segments = some route → route.isReadable = true →
        route.mutation? ≠ some request.method →
          ∀ course ending, Takes (receive desk gate clock request).2 course ending →
            (∀ call outcome, .asked call outcome ∈ course → outcome = .ok (world.memory.perform call).1) →
              ∃ response, ending = .ok response ∧ response.status ≠ 500 := by
  obtain ⟨kept, returns⟩ := run_kept guest_minds run
  refine ⟨fun kind name version bytes lies => ?_, returns, ?_⟩
  · exact shelved_acceptable (kept.sound _ bytes lies kind name version rfl)
  · intro α _ desk gate clock request route found readable other course ending takes answered
    rw [receive_reading desk gate clock found readable other] at takes
    exact reading_unbroken kept.sound takes answered

-- A configuration is created, and lies under its key.
theorem stored_items_creation :
    ∃ events world bytes, NamingRun Atomic Guest (.idle .empty) events world ∧
      world.memory.get? "configs/app/1" = some bytes ∧ Acceptable .configuration "app" "1" bytes := by
  let desk : Desk := { scope := "idempotency" }
  let gate : Gate Rat := { rate := 1, burst := 1 }
  let request : Request :=
    { method := "POST", target := Text.toBytes "/configs", contentType := some (Text.toBytes "application/json"),
      body := Text.toBytes "\x7b\"name\":\"app\",\"version\":\"1\"\x7d" }
  have found : Route.find? (Target.parse request.target).segments = some .configurations := by decide
  have admitted : (gate.enter (identity request) 0).1 = true := by decide +kernel
  have read : readBody Configuration.decoder request = .ok { name := "app", version := "1" } := rfl
  have valid : Configuration.check { name := "app", version := "1" } = .ok () := by decide
  have received : (receive desk gate ⟨0, 0, 0⟩ request).2 = caught (mutate request none .configurations).process := by
    simp only [receive, found]
    exact (congrArg Prod.snd (mutation_dispatch desk gate ⟨0, 0, 0⟩ _ rfl)).trans
      (congrArg caught ((pass_process desk gate ⟨0, 0, 0⟩ _).trans (if_pos admitted)))
  have handler : mutate request none .configurations = answered (writeConfiguration 201)
      (createConfiguration { name := "app", version := "1" }) := by
    simp only [mutate, read, checked]
  let stored : Configuration := { id := "x", name := "app", version := "1" }
  have goes : ∃ next, (receive desk gate ⟨0, 0, 0⟩ request).2.map responded = .fresh next ∧
      ∃ further, next "x" = .ask none (.create "configs/app/1" stored.encode) further := by
    rw [received, handler, createConfiguration, valid]
    refine ⟨_, rfl, ?_⟩
    change ∃ further,
      Process.map _ (Process.rescue _ (Job.host _ _ _ (.ask (.create "configs/app/1" stored.encode) _))) = _
    rw [Job.host]
    exact ⟨_, rfl⟩
  obtain ⟨next, begins, further, creates⟩ := goes
  have guest : Guest (.fresh next) := begins ▸ .receive desk gate ⟨0, 0, 0⟩ request fun _ keyed => by cases keyed
  have begun : NamingRun Atomic Guest (.idle .empty) [.began 0] _ :=
    .step .start (.begin rfl guest) fun _ _ _ same => by cases same
  have named := NamingRun.step begun (.fresh "x" (World.put_tasks_self _ _ _)) fun number role other same present => by
    cases same
    rw [World.put_tasks_self, Option.some.injEq, Task.mk.injEq, Stage.active.injEq, Process.fresh.injEq] at present
    obtain ⟨rfl, rfl⟩ := present
    exact ⟨"x", by decide, World.put_tasks_self _ _ _⟩
  rw [creates] at named
  have run := NamingRun.step named (.call (World.put_tasks_self _ _ _) .answered) fun _ _ _ same => by cases same
  have lies : _ := KeyMap.get_insert KeyMap.empty "configs/app/1" stored.encode "configs/app/1"
  rw [if_pos rfl] at lies
  exact ⟨_, _, _, run, lies, (stored_items run).1 .configuration "app" "1" _ lies⟩

end ConfigRegistry.Concurrent
