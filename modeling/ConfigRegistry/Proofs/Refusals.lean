import ConfigRegistry.Proofs.GroupTurns
import ConfigRegistry.Proofs.LabelDeletions

set_option autoImplicit false

/-!
Handlers over a store whose calls may fail. Main statement: whichever of its calls fail without effect, a handler
comes to an answer; what it answers with an error has left the store as it was, and otherwise nothing but the item
that the request is about may have changed.
-/
namespace ConfigRegistry.Library

open Catalog
open Http (Request Response)
open Json.Value (bind_ok)
open Service
open Store (Call Memory)
open Work (Job Process)

-- What becomes of a call: it is carried out, or it has no effect and is answered with a failure or not at all.
inductive Fate where
  | answered
  | failed (failure : StoreFailure)
  | panicked (message : String)

-- The fates of the calls to come, and the ids that are given.
structure Luck where
  fate : Nat → Fate
  id : Nat → String

def Luck.called (luck : Luck) : Luck := { luck with fate := fun n => luck.fate (n + 1) }

def Luck.named (luck : Luck) : Luck := { luck with id := fun n => luck.id (n + 1) }

-- What a process comes to, and what it leaves in the store. None of the handlers waits or hands anything over.
def endure {ρ : Type} : Process ρ → Luck → Memory → Option (Except String ρ × Memory)
  | .done result, _, memory => some (.ok result, memory)
  | .crash message, _, memory => some (.error message, memory)
  | .ask _ call next, luck, memory =>
      match luck.fate 0 with
      | .answered => endure (next (.ok (memory.perform call).1)) luck.called (memory.perform call).2
      | .failed failure => endure (next (.failed failure)) luck.called memory
      | .panicked message => endure (next (.panicked message)) luck.called memory
  | .fresh next, luck, memory => endure (next (luck.id 0)) luck.named memory
  | .started next, luck, memory => endure next luck memory
  | .wait .., _, _ => none
  | .settle .., _, _ => none
  | .abandon .., _, _ => none

-- Whatever the fates of its calls, the job comes to an end, and that end and what is left in the store are in order.
def Meets {α : Type} (post : Except String α → Memory → Prop) : Job α → Memory → Prop
  | .done value, memory => post (.ok value) memory
  | .crash message, memory => post (.error message) memory
  | .ask call next, memory =>
      Meets post (next (.ok (memory.perform call).1)) (memory.perform call).2 ∧
        (∀ failure, Meets post (next (.error failure)) memory) ∧ ∀ message, post (.error message) memory
  | .fresh next, memory => ∀ id, Meets post (next id) memory
  | .started next, memory => Meets post next memory
  | .wait _, _ => False

section Jobs

variable {α β ρ : Type} {memory : Memory}

theorem meets_endures {post : Except String α → Memory → Prop} {job : Job α} (meets : Meets post job memory)
    (luck : Luck) : ∃ ending after, endure job.process luck memory = some (ending, after) ∧ post ending after := by
  induction job generalizing memory luck with
  | done value => exact ⟨_, _, rfl, meets⟩
  | crash message => exact ⟨_, _, rfl, meets⟩
  | ask call next ih =>
      obtain ⟨answered, failed, panicked⟩ := meets
      rw [Job.process, Job.host, endure]
      cases luck.fate 0 with
      | answered => exact ih _ answered luck.called
      | failed failure => exact ih _ (failed failure) luck.called
      | panicked message => exact ⟨_, _, rfl, panicked message⟩
  | fresh next ih => exact ih _ (meets _) luck.named
  | started next ih => exact ih meets luck
  | wait next _ => exact meets.elim

theorem rescue_endures (process : Process ρ) (f : String → ρ) (luck : Luck) (memory : Memory) :
    endure (process.rescue f) luck memory = (endure process luck memory).map fun ended =>
      (.ok (match ended.1 with | .ok result => result | .error message => f message), ended.2) := by
  induction process generalizing luck memory with
  | done result => rfl
  | crash message => rfl
  | ask guard call next ih =>
      rw [Process.rescue, endure, endure]
      cases luck.fate 0 with
      | answered => exact ih _ _ _
      | failed failure => exact ih _ _ _
      | panicked message => exact ih _ _ _
  | fresh next ih => exact ih _ _ _
  | started next ih => exact ih _ _
  | wait guard next _ => rfl
  | settle settlement next _ => rfl
  | abandon key next _ => rfl

theorem meets_bind {post : Except String α → Memory → Prop} {post' : Except String β → Memory → Prop} {job : Job α}
    {next : α → Job β} (first : Meets post job memory)
    (ended : ∀ value after, post (.ok value) after → Meets post' (next value) after)
    (crashed : ∀ message after, post (.error message) after → post' (.error message) after) :
    Meets post' (job.bind next) memory := by
  induction job generalizing memory with
  | done value => exact ended value memory first
  | crash message => exact crashed message memory first
  | ask call following ih =>
      obtain ⟨answered, failed, panicked⟩ := first
      exact ⟨ih _ answered, fun failure => ih _ (failed failure), fun message => crashed _ _ (panicked message)⟩
  | fresh following ih => exact fun id => ih id (first id)
  | started following ih => exact ih first
  | wait following _ => exact first

end Jobs

-- Each group lies under the key of its own name and version.
def OwnKeys (memory : Memory) : Prop := ∀ name version bytes group,
  memory.get? (Kind.group.key name version) = some bytes → Group.decoder.whole bytes = .ok group →
    Kind.group.key group.name group.version = Kind.group.key name version

-- How an operation ends that succeeds with one item changed, or else has changed nothing.
inductive Confined {α : Type} (key : String) (memory : Memory) :
    Except String (Except ServiceFailure α) → Memory → Prop where
  | done (value : α) {after : Memory} (elsewhere : ∀ other, other ≠ key → after.get? other = memory.get? other) :
      Confined key memory (.ok (.ok value)) after
  | refused (failure : ServiceFailure) : Confined key memory (.ok (.error failure)) memory
  | panicked (message : String) : Confined key memory (.error message) memory

section Operations

variable {α β : Type} {key name version : String} {memory : Memory}

theorem done_meets (result : Except ServiceFailure α) : Meets (Confined key memory) (.done result) memory := by
  cases result with
  | ok value => exact .done value fun _ _ => rfl
  | error failure => exact .refused failure

theorem stored_then_meets {call : Call} {next : call.Answer → Job (Except ServiceFailure α)}
    (rest : Meets (Confined key memory) (next (memory.perform call).1) (memory.perform call).2) :
    Meets (Confined key memory) ((Job.stored call).andThen next) memory :=
  ⟨rest, fun failure => .refused (.ofStore failure), .panicked⟩

theorem and_then_meets {job : Job (Except ServiceFailure α)} (first : Meets (Confined key memory) job memory)
    (value : β) : Meets (Confined key memory) (job.andThen fun _ => .done (.ok value)) memory := by
  refine meets_bind first (fun result after ended => ?_) fun message after ended => ?_
  · cases ended with
    | done _ elsewhere => exact .done value elsewhere
    | refused failure => exact .refused failure
  · cases ended
    exact .panicked message

theorem names_meet {post : α → Prop} {job : Job α} (names : Solitary.Names post job.process) :
    Meets (fun ending after => after = memory ∧ ∃ value, ending = .ok value ∧ post value) job memory := by
  induction job with
  | done value => exact ⟨rfl, value, rfl, names⟩
  | fresh next ih => exact fun id => ih id (names id)
  | _ => simp [Job.process, Job.host, Solitary.Names] at names

theorem named_then_meets {post : α → Prop} {job : Job α} {next : α → Job (Except ServiceFailure β)}
    (names : Solitary.Names post job.process)
    (rest : ∀ value, post value → Meets (Confined key memory) (next value) memory) :
    Meets (Confined key memory) (job.bind next) memory := by
  refine meets_bind (names_meet names) ?_ ?_
  · rintro _ _ ⟨rfl, value, same, given⟩
    cases same
    exact rest _ given
  · rintro message _ ⟨-, _, same, -⟩
    cases same

theorem create_meets (kind : Kind) (bytes : Bytes) :
    Meets (Confined (kind.key name version) memory) (kind.create name version bytes) memory := by
  refine stored_then_meets ?_
  by_cases present : memory.contains (kind.key name version) = true
  · have refuses : memory.perform (.create (kind.key name version) bytes) = (false, memory) := if_pos present
    rw [refuses]
    exact done_meets _
  · have writes : memory.perform (.create (kind.key name version) bytes) =
        (true, memory.insert (kind.key name version) bytes) := if_neg present
    rw [writes]
    exact .done () fun other apart => (KeyMap.get_insert _ _ _ _).trans (if_neg apart.symm)

theorem delete_meets (kind : Kind) :
    Meets (Confined (kind.key name version) memory) (kind.delete name version) memory := by
  refine stored_then_meets ?_
  change Meets _ (.done (if memory.contains (kind.key name version) = true then _ else _)) (memory.erase _)
  cases found : memory.get? (kind.key name version) with
  | none =>
      rw [KeyMap.contains, found, if_neg (by simp), erase_absent found]
      exact done_meets _
  | some bytes =>
      rw [KeyMap.contains, found, if_pos Option.isSome_some]
      exact .done () fun other apart => (KeyMap.get_erase _ _ _).trans (if_neg apart.symm)

theorem fetch_meets {decoder : Json.Decoder α} (kind : Kind) :
    Meets (Confined key memory) (kind.fetch decoder name version) memory :=
  stored_then_meets (done_meets _)

theorem fetching_meets {next : Group → Job (Except ServiceFailure α)} (own : OwnKeys memory)
    (rest : ∀ group : Group, Kind.group.key group.name group.version = Kind.group.key name version →
      Meets (Confined key memory) (next group) memory) :
    Meets (Confined key memory) ((Group.fetch name version).andThen next) memory := by
  refine ⟨?_, fun failure => .refused (.ofStore failure), .panicked⟩
  cases lies : memory.get? (Kind.group.key name version) with
  | none =>
      have answers : (memory.perform (.get (Kind.group.key name version))).1 = none := lies
      rw [answers]
      exact .refused _
  | some bytes =>
      have answers : (memory.perform (.get (Kind.group.key name version))).1 = some bytes := lies
      rw [answers]
      change Meets _ (Job.andThen (.done ((Group.decoder.whole bytes).mapError ServiceFailure.ofJson)) next) memory
      cases read : Group.decoder.whole bytes with
      | error failure => exact .refused _
      | ok group => exact rest group (own name version bytes group lies read)

theorem update_meets {group : Group} (filed : Kind.group.key group.name group.version = key) (value : α) :
    Meets (Confined key memory) (group.update.andThen fun _ => .done (.ok value)) memory := by
  refine stored_then_meets ?_
  rw [filed]
  exact .done value fun other apart => (KeyMap.get_insert _ _ _ _).trans (if_neg apart.symm)

theorem add_meets {group : Group} (filed : Kind.group.key group.name group.version = key) (entry : Entry)
    (failure : ServiceFailure) :
    Meets (Confined key memory) ((group.add entry).bind fun
      | none => .done (.error failure)
      | some group => group.update.andThen fun _ => .done (.ok group)) memory := by
  rw [Group.add]
  split
  · exact .refused failure
  · refine named_then_meets (lengthened_names group entry) ?_
    rintro _ ⟨given, -, rfl⟩
    have longer : Kind.group.key (group.append given).name (group.append given).version = key := filed
    exact update_meets longer _

end Operations

-- How a handler ends that may have changed what lies under a key, if there is one.
inductive Faithful (key : Option String) (memory : Memory) : Except String Response → Memory → Prop where
  | success {response : Response} {after : Memory} (status : response.status < 400)
      (elsewhere : ∀ other, key ≠ some other → after.get? other = memory.get? other) :
      Faithful key memory (.ok response) after
  | unchanged (ending : Except String Response) : Faithful key memory ending memory

-- The item that a request is about: the one that its body describes, or else the one that its path names.
def addressed? (request : Request) : Route → Option Place
  | .configurations =>
      (readBody Configuration.decoder request).toOption.map fun item => ⟨.configuration, item.name, item.version⟩
  | .groups => (readBody Group.decoder request).toOption.map fun item => ⟨.group, item.name, item.version⟩
  | .configuration name version =>
      (Order.namesOf name version).toOption.map fun names => ⟨.configuration, names.1, names.2⟩
  | .group name version | .addEntry name version | .removeEntry name version | .entries name version =>
      (Order.namesOf name version).toOption.map fun names => ⟨.group, names.1, names.2⟩
  | .health => none

section Handlers

variable {α : Type} {key : String} {memory : Memory} {request : Request} {query : Option Bytes} {route : Route}
  {order : Order}

theorem answered_meets {write : α → Response} {status : UInt16} {job : Job (Except ServiceFailure α)}
    (fine : status < 400) (writes : ∀ value, (write value).status = status)
    (meets : Meets (Confined key memory) job memory) :
    Meets (Faithful (some key) memory) (answered write job) memory := by
  refine meets_bind meets (fun result after ended => ?_) fun message after ended => ?_
  · cases ended with
    | done value elsewhere =>
        exact .success (writes value ▸ fine) fun other apart => elsewhere other fun same => apart (same ▸ rfl)
    | refused failure => exact .unchanged _
  · cases ended
    exact .unchanged _

theorem order_meets (own : OwnKeys memory) (order : Order) :
    Meets (Faithful (some order.place.key) memory) order.job memory := by
  cases order with
  | create kind item =>
      refine answered_meets (by decide) (fun _ => rfl) (named_then_meets (item_names item) ?_)
      rintro given ⟨names, versions⟩
      rw [names, versions]
      exact and_then_meets (create_meets kind given.encode) given
  | fetch place => exact answered_meets (by decide) (fun _ => rfl) (fetch_meets place.kind)
  | delete place => exact answered_meets (by decide) (fun _ => rfl) (delete_meets place.kind)
  | add name version entry =>
      exact answered_meets (by decide) (fun _ => rfl) (fetching_meets own fun group filed => add_meets filed entry _)
  | remove name version entryId =>
      refine answered_meets (by decide) (fun _ => rfl) (fetching_meets own fun group filed => ?_)
      split
      · have shorter : Kind.group.key (group.remove entryId).name (group.remove entryId).version = _ := filed
        exact update_meets shorter _
      · exact .refused _
  | list name version filter =>
      exact answered_meets (by decide) (fun _ => rfl) (fetching_meets own fun group _ => done_meets _)
  | discard name version filter =>
      refine answered_meets (by decide) (fun _ => rfl) (fetching_meets own fun group filed => ?_)
      have fewer : Kind.group.key (group.discard filter).name (group.discard filter).version = _ := filed
      exact update_meets fewer _

theorem creation_addresses {kind : Kind} (asked : Order.creation kind request = .ok order) :
    (readBody (Item.decoder kind) request).toOption.map (fun item => ⟨kind, item.name, item.version⟩) =
      some order.place := by
  obtain ⟨item, read, asked⟩ := bind_ok asked
  obtain ⟨_, -, asked⟩ := bind_ok asked
  cases asked
  rw [refused_ok read]
  rfl

theorem place_addresses {kind : Kind} {name version : Bytes} {place : Place}
    (leads : Order.placeOf kind name version = .ok place) :
    (Order.namesOf name version).toOption.map (fun names => (⟨kind, names.1, names.2⟩ : Place)) = some place ∧
      place = ⟨kind, place.name, place.version⟩ := by
  obtain ⟨named, -, rfl⟩ := place_named leads
  rw [named]
  exact ⟨rfl, rfl⟩

theorem labelled_addresses {name version : Bytes} {place : Place} {filter : LabelFilter}
    (asked : Order.labelled name version query = .ok (place, filter)) :
    (Order.namesOf name version).toOption.map (fun names => (⟨.group, names.1, names.2⟩ : Place)) =
      some ⟨.group, place.name, place.version⟩ := by
  obtain ⟨names, named, asked⟩ := bind_ok asked
  obtain ⟨_, -, asked⟩ := bind_ok asked
  obtain ⟨_, -, asked⟩ := bind_ok asked
  obtain ⟨_, -, asked⟩ := bind_ok asked
  cases asked
  rw [named]
  rfl

theorem change_addresses (asked : Order.ofChange request query route = .ok order) :
    addressed? request route = some order.place := by
  cases route with
  | configurations => exact creation_addresses asked
  | groups => exact creation_addresses asked
  | configuration name version =>
      obtain ⟨place, leads, asked⟩ := bind_ok asked
      cases asked
      exact (place_addresses leads).1
  | group name version =>
      obtain ⟨place, leads, asked⟩ := bind_ok asked
      cases asked
      exact (place_addresses leads).1
  | addEntry name version =>
      obtain ⟨place, leads, asked⟩ := bind_ok asked
      obtain ⟨entry, -, asked⟩ := bind_ok asked
      obtain ⟨_, -, asked⟩ := bind_ok asked
      cases asked
      obtain ⟨names, same⟩ := place_addresses leads
      exact names.trans (congrArg some same)
  | removeEntry name version =>
      obtain ⟨place, leads, asked⟩ := bind_ok asked
      obtain ⟨entryId, -, asked⟩ := bind_ok asked
      cases asked
      obtain ⟨names, same⟩ := place_addresses leads
      exact names.trans (congrArg some same)
  | entries name version =>
      obtain ⟨⟨place, filter⟩, labelled, asked⟩ := bind_ok asked
      change (if KeyMap.isEmpty filter = true then _ else _) = _ at asked
      split at asked
      · cases asked
      · cases asked
        exact labelled_addresses labelled
  | health => cases asked

theorem look_addresses (asked : Order.ofLook query route = .ok order) :
    addressed? request route = some order.place := by
  cases route with
  | configuration name version =>
      obtain ⟨place, leads, asked⟩ := bind_ok asked
      cases asked
      exact (place_addresses leads).1
  | group name version =>
      obtain ⟨place, leads, asked⟩ := bind_ok asked
      cases asked
      exact (place_addresses leads).1
  | entries name version =>
      obtain ⟨⟨place, filter⟩, labelled, asked⟩ := bind_ok asked
      cases asked
      exact labelled_addresses labelled
  | _ => cases asked

theorem demand_meets (own : OwnKeys memory) {demand : Except Response Order} {place : Option Place}
    (names : ∀ order, demand = .ok order → place = some order.place) :
    Meets (Faithful (place.map Place.key) memory) (Order.handler demand) memory := by
  cases demand with
  | ok order =>
      rw [names order rfl]
      exact order_meets own order
  | error response => exact .unchanged _

-- The handlers of the catalog and of the health report.
inductive Handles (request : Request) (query : Option Bytes) (route : Route) : Job Response → Prop where
  | changing : Handles request query route (mutate request query route)
  | looking (clock : Clock) : Handles request query route (inspect clock query route)

theorem handler_meets (own : OwnKeys memory) {handler : Job Response} (handles : Handles request query route handler) :
    Meets (Faithful ((addressed? request route).map Place.key) memory) handler memory := by
  cases handles with
  | changing =>
      rw [(Order.mutate_means request query route).does]
      exact demand_meets own fun order asked => change_addresses asked
  | looking clock =>
      by_cases health : route = .health
      · subst health
        exact ⟨.unchanged _, fun _ => .unchanged _, fun _ => .unchanged _⟩
      · rw [(Order.inspect_means clock query health).does]
        exact demand_meets own fun order asked => look_addresses asked

theorem failed_handlers_change_nothing (own : OwnKeys memory) {handler : Job Response}
    (handles : Handles request query route handler) (luck : Luck) :
    ∃ response after, endure (caught handler.process) luck memory = some (.ok response, after) ∧
      (400 ≤ response.status → after = memory) ∧
      ∀ key, (addressed? request route).map Place.key ≠ some key → after.get? key = memory.get? key := by
  obtain ⟨ending, after, endures, faithful⟩ := meets_endures (handler_meets own handles) luck
  refine ⟨_, after, by rw [caught, rescue_endures, endures]; rfl, ?_⟩
  cases faithful with
  | success status elsewhere => exact ⟨fun failed => absurd status (by simpa using failed), elsewhere⟩
  | unchanged => exact ⟨fun _ => rfl, fun _ _ => rfl⟩

end Handlers

section Luck

variable {α β : Type} {write : β → Response} {luck : Luck} {memory : Memory} {call : Call} {failure : StoreFailure}

theorem stored_then {first : call.Answer → Job (Except ServiceFailure α)}
    {next : α → Job (Except ServiceFailure β)} :
    ((Job.stored call).andThen first).andThen next =
      (Job.stored call).andThen fun answer => (first answer).andThen next := by
  refine congrArg (Job.ask call) (funext fun answer => ?_)
  cases answer <;> rfl

theorem answered_endures {next : call.Answer → Job (Except ServiceFailure β)} (fate : luck.fate 0 = .answered) :
    endure (answered write ((Job.stored call).andThen next)).process luck memory =
      endure (answered write (next (memory.perform call).1)).process luck.called (memory.perform call).2 := by
  rw [answered, Job.andThen, Job.stored, Job.bind, Job.bind, Job.process, Job.host, endure, fate]
  rfl

theorem failed_endures {next : call.Answer → Job (Except ServiceFailure β)} (fate : luck.fate 0 = .failed failure) :
    endure (answered write ((Job.stored call).andThen next)).process luck memory =
      some (.ok (ServiceFailure.ofStore failure).response, memory) := by
  rw [answered, Job.andThen, Job.stored, Job.bind, Job.bind, Job.process, Job.host, endure, fate]
  rfl

-- A group that is read and cannot be written back stays, and the request hears of it.
theorem unwritten_discard {group : Group} {name version : String} {bytes : Bytes} (filter : LabelFilter)
    (lies : memory.get? (Kind.group.key name version) = some bytes) (reads : Group.decoder.whole bytes = .ok group)
    (read : luck.fate 0 = .answered) (unwritten : luck.fate 1 = .failed failure) :
    endure (Order.discard name version filter).job.process luck memory =
      some (.ok (ServiceFailure.ofStore failure).response, memory) := by
  have answers : memory.perform (.get (Kind.group.key name version)) = (some bytes, memory) :=
    congrArg (·, memory) lies
  rw [Order.job, Group.fetch, Kind.fetch, stored_then, answered_endures read, answers]
  dsimp only
  rw [reads]
  exact failed_endures unwritten

end Luck

section Filing

theorem own_keys_insert {memory : Memory} (own : OwnKeys memory) (group : Group) :
    OwnKeys (memory.insert (Kind.group.key group.name group.version) group.encode) := by
  intro name version bytes found lies reads
  rw [KeyMap.get_insert] at lies
  split at lies
  · rename_i same
    cases lies
    rw [Group.decode_encode] at reads
    cases reads
    exact same
  · exact own name version bytes found lies reads

def brokenPut : Luck where
  fate n := if n = 1 then .failed (.unavailable "connection refused") else .answered
  id := Session.idText

theorem own_keys_empty : OwnKeys .empty := by
  intro name version bytes group lies
  rw [KeyMap.get_empty] at lies
  cases lies

theorem tiers_own_keys : OwnKeys tiersStored := own_keys_insert own_keys_empty twoTiers

theorem failed_handlers_change_nothing_of_deletion : ∃ response after,
    endure (caught (mutate prodDeletion (some (Text.labelsQuery "env:prod"))
      (.entries (Text.toBytes "web") (Text.toBytes "1"))).process) brokenPut tiersStored = some (.ok response, after) ∧
    response.status = 503 ∧ after = tiersStored ∧
    ∀ key, key ≠ "groups/web/1" → after.get? key = tiersStored.get? key := by
  obtain ⟨response, after, endures, failed, elsewhere⟩ :=
    failed_handlers_change_nothing tiers_own_keys .changing brokenPut
  have refusal : response = (ServiceFailure.storageUnavailable "connection refused").response := by
    have filter : LabelFilter.parse (some "env:prod") = .ok (.ofList [("env", "prod")]) := by decide
    have discards := deletion_discards tiers_path (Order.labels_of_query "env:prod") prodDeletion filter rfl
    have stays : endure (Order.discard twoTiers.name twoTiers.version (.ofList [("env", "prod")])).job.process brokenPut
        tiersStored = _ := unwritten_discard _ tiers_lie (Group.decode_encode twoTiers) rfl rfl
    rw [caught, rescue_endures, discards, stays] at endures
    cases endures
    rfl
  subst refusal
  refine ⟨_, _, endures, rfl, failed (by decide), fun key apart => elsewhere key ?_⟩
  have place := (place_addresses tiers_path).1
  rw [addressed?, place]
  exact fun same => apart (Option.some.inj same).symm

end Filing

end ConfigRegistry.Library
