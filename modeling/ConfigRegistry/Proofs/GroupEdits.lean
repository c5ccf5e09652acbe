import Mathlib.Tactic.ByContra
import Mathlib.Tactic.Push
import ConfigRegistry.Proofs.Clients
import ConfigRegistry.Proofs.GroupTurns

set_option autoImplicit false

/-!
Requests for items that are under way together. Main statement: as long as no edit writes over what it has read once
that has changed, they are answered as if they came one after the other; an edit that is overtaken is lost.
-/
namespace ConfigRegistry.Library

open Catalog
open Concurrent (AsFound Edits Interleaving Linearization Serial Timely World responded written)
open Dedup (Desk clientKeyOf)
open Http (Request Response Target)
open Service
open Session (Product)
open Solitary (Serves process_bind serves_map serves_rescue)
open Store (Memory)
open Throttle (Amount)
open Work (Job Process)

section Requests

variable {α : Type} [Amount α]

-- A request for items without a key, whether the gate lets it in or not.
structure Visit.Plain (visit : Visit α) : Prop where
  unkeyed : clientKeyOf visit.request.keys = none
  items : Route.find? (Target.parse visit.request.target).segments ≠ some .health

def asked (desk : Desk) (visits : Nat → Visit α) (number : Nat) : Process Product :=
  ((visits number).process desk).map responded

variable {desk : Desk} {visit : Visit α} {memory after : Memory} {name version : String}

theorem admitted_process (desk : Desk) (plain : visit.Plain)
    (admitted : admission visit.gate visit.clock visit.request ≠ some false) :
    visit.process desk = handled visit.request.method (Order.ofRequest visit.request) := by
  refine visit_handled desk ⟨plain.unkeyed, plain.items, fun route found held => ?_⟩
  have asks : asksGate visit.request = true := by
    rw [asksGate, found]
    rcases held with mutation | ⟨other, unreadable⟩
    · simp [mutation]
    · simp [other, unreadable]
  rw [admission, if_pos asks] at admitted
  exact Bool.eq_true_of_not_eq_false fun answered => admitted (congrArg some answered)

theorem plain_process (desk : Desk) (plain : visit.Plain) :
    (∃ response, response.status = 429 ∧ visit.process desk = .done response) ∨
      visit.process desk = handled visit.request.method (Order.ofRequest visit.request) := by
  by_cases refused : admission visit.gate visit.clock visit.request = some false
  · exact .inl (receive_refused desk refused)
  · exact .inr (admitted_process desk plain refused)

theorem handled_edits (method : String) (demand : Except Response Order) : Edits (handled method demand) := by
  refine Concurrent.edits_then (Concurrent.edits_rescue ?_ _) fun response => ⟨_, rfl⟩
  cases demand with
  | error response => trivial
  | ok order => exact job_edits order

theorem plain_edits (desk : Desk) (plain : visit.Plain) : Edits ((visit.process desk).map responded) := by
  refine Concurrent.edits_then ?_ fun response => ⟨_, rfl⟩
  rcases plain_process desk plain with ⟨response, -, done⟩ | same
  · rw [done]
    trivial
  · rw [same]
    exact handled_edits _ _

-- What becomes of a group by one request, and what the client is told.
structure Passed (request : Request) (name version : String) (found : Option Group) (response : Response)
    (left : Option Group) : Prop where
  turn : ∀ order, Order.ofRequest request = .ok order → order.place = ⟨.group, name, version⟩ →
    ∃ whole, Turn name version order found whole left ∧ response.status = whole.status ∧
      (request.method ≠ "HEAD" → response = whole)
  aside : ¬ Names request ⟨.group, name, version⟩ → left = found

theorem refused_passed {request : Request} {found : Option Group} {response : Response}
    (refusal : 400 ≤ response.status) : Passed request name version found response found :=
  ⟨fun _ _ _ => ⟨response, .refused refusal, rfl, fun _ => rfl⟩, fun _ => rfl⟩

theorem handled_passed {request : Request} {ending : Except String Response} (filed : Filed memory)
    (serves : Serves (handled request.method (Order.ofRequest request)) memory ending after) :
    ∃ response, ending = .ok response ∧ Filed after ∧ ∀ name version,
      Passed request name version (groupIn memory name version) response (groupIn after name version) := by
  obtain ⟨_, shown, rfl⟩ := serves_map serves
  obtain ⟨first, goes, rfl⟩ := serves_rescue shown
  cases demand : Order.ofRequest request with
  | error response =>
      rw [demand] at goes
      obtain ⟨rfl, rfl⟩ := goes
      refine ⟨_, rfl, filed, fun name version => ⟨fun order same => ?_, fun _ => rfl⟩⟩
      cases demand.symm.trans same
  | ok order =>
      rw [demand] at goes
      obtain ⟨whole, rfl⟩ := Concurrent.edits_serves (job_edits order) goes
      have turned := job_turned filed (Order.request_sound demand) goes
      refine ⟨_, rfl, turned.filed, fun name version => ⟨fun other same place => ?_, fun unnamed => ?_⟩⟩
      · cases demand.symm.trans same
        refine ⟨whole, turned.own name version place, ?_, clipped_whole whole⟩
        dsimp only
        rw [clipped]
        split <;> rfl
      · exact turned.others name version fun place => unnamed ⟨order, demand, place⟩

theorem plain_passed (plain : visit.Plain) (filed : Filed memory) {answer : Except String Product}
    (serves : Serves ((visit.process desk).map responded) memory answer after) :
    ∃ response, answer = .ok (responded response) ∧ Filed after ∧ ∀ name version,
      Passed visit.request name version (groupIn memory name version) response (groupIn after name version) := by
  obtain ⟨ending, goes, rfl⟩ := serves_map serves
  rcases plain_process desk plain with ⟨response, throttled, done⟩ | same
  · rw [done] at goes
    obtain ⟨rfl, rfl⟩ := goes
    exact ⟨response, rfl, filed, fun name version => refused_passed (by rw [throttled]; decide)⟩
  · rw [same] at goes
    obtain ⟨response, rfl, rest⟩ := handled_passed filed goes
    exact ⟨response, rfl, rest⟩

end Requests

-- An order that, when it is answered so, takes an entry out of its group, or the group with it.
def TakesOut (name version : String) (entry : Entry) (status : UInt16) : Order → Prop
  | .delete place => place = ⟨.group, name, version⟩ ∧ status = 204
  | .remove name' version' entryId => name' = name ∧ version' = version ∧ entryId = entry.id ∧ status = 200
  | .discard name' version' filter =>
      name' = name ∧ version' = version ∧ entry.carries filter = true ∧ status = 200
  | _ => False

def Removes (name version : String) (entry : Entry) (request : Request) (answer : Except String Product) : Prop :=
  ∃ order response, Order.ofRequest request = .ok order ∧ answer = .ok (responded response) ∧
    TakesOut name version entry response.status order

section Histories

variable {α : Type} [Amount α] {desk : Desk} {visits : Nat → Visit α}
  {order : List (Nat × Except String Product)} {start last : Memory} {name version : String}

theorem serial_filed (plain : ∀ number, (visits number).Plain) (serial : Serial (asked desk visits) order start last)
    (filed : Filed start) : Filed last := by
  induction order generalizing start with
  | nil => exact serial ▸ filed
  | cons first rest ih =>
      obtain ⟨between, serves, others⟩ := serial
      obtain ⟨response, -, next, -⟩ := plain_passed (plain first.1) filed serves
      exact ih others next

-- An entry of a group stays in it unless the request is one that takes it out.
theorem passed_keeps {request : Request} {found left : Option Group} {response : Response} {entry : Entry}
    (passed : Passed request name version found response left)
    (held : ∃ group, found = some group ∧ entry ∈ group.entries)
    (spared : ¬ Removes name version entry request (.ok (responded response))) :
    ∃ group, left = some group ∧ entry ∈ group.entries := by
  by_cases named : Names request ⟨.group, name, version⟩
  · obtain ⟨order, demand, place⟩ := named
    obtain ⟨whole, turn, status, -⟩ := passed.turn order demand place
    obtain ⟨group, rfl, among⟩ := held
    have kept : ¬ TakesOut name version entry response.status order :=
      fun takes => spared ⟨order, response, demand, rfl, takes⟩
    cases turn with
    | told => exact ⟨group, rfl, among⟩
    | listed => exact ⟨group, rfl, among⟩
    | deleted => exact absurd ⟨rfl, status⟩ kept
    | added named => exact ⟨_, rfl, List.mem_append_left _ among⟩
    | @removed entryId group =>
        by_cases same : entryId = entry.id
        · exact absurd ⟨rfl, rfl, same, status⟩ kept
        · exact ⟨_, rfl, List.mem_filter.mpr ⟨among, by simpa using Ne.symm same⟩⟩
    | @discarded filter group =>
        by_cases carries : entry.carries filter = true
        · exact absurd ⟨rfl, rfl, carries, status⟩ kept
        · exact ⟨_, rfl, List.mem_filter.mpr ⟨among, by simpa using carries⟩⟩
    | refused _ => exact ⟨group, rfl, among⟩
  · rw [passed.aside named]
    exact held

theorem entry_stays {entry : Entry} (plain : ∀ number, (visits number).Plain)
    (serial : Serial (asked desk visits) order start last) (filed : Filed start)
    (held : ∃ group, groupIn start name version = some group ∧ entry ∈ group.entries)
    (spared : ∀ later ∈ order, ¬ Removes name version entry (visits later.1).request later.2) :
    ∃ group, groupIn last name version = some group ∧ entry ∈ group.entries := by
  induction order generalizing start with
  | nil => exact serial ▸ held
  | cons first rest ih =>
      obtain ⟨between, serves, others⟩ := serial
      obtain ⟨response, answered, next, passed⟩ := plain_passed (plain first.1) filed serves
      obtain ⟨unremoved, later⟩ := List.forall_mem_cons.mp spared
      rw [answered] at unremoved
      exact ih others next (passed_keeps (passed name version) held unremoved) later

-- A request that was answered that it made a group.
def Creates (name version : String) (request : Request) (answer : Except String Product) : Prop :=
  ∃ group response, Order.ofRequest request = .ok (.create .group group) ∧ Group.name group = name ∧
    Group.version group = version ∧ answer = .ok (responded response) ∧ response.status = 201

theorem passed_absent {request : Request} {left : Option Group} {response : Response}
    (passed : Passed request name version none response left)
    (spared : ¬ Creates name version request (.ok (responded response))) : left = none := by
  by_cases named : Names request ⟨.group, name, version⟩
  · obtain ⟨order, demand, place⟩ := named
    obtain ⟨whole, turn, status, -⟩ := passed.turn order demand place
    cases turn with
    | @created group given named =>
        cases place
        exact absurd ⟨group, response, demand, rfl, rfl, rfl, status⟩ spared
    | refused _ => rfl
  · exact passed.aside named

theorem absent_stays (plain : ∀ number, (visits number).Plain)
    (serial : Serial (asked desk visits) order start last) (filed : Filed start)
    (absent : groupIn start name version = none)
    (spared : ∀ later ∈ order, ¬ Creates name version (visits later.1).request later.2) :
    groupIn last name version = none := by
  induction order generalizing start with
  | nil => exact serial ▸ absent
  | cons first rest ih =>
      obtain ⟨between, serves, others⟩ := serial
      obtain ⟨response, answered, next, passed⟩ := plain_passed (plain first.1) filed serves
      obtain ⟨uncreated, later⟩ := List.forall_mem_cons.mp spared
      rw [answered] at uncreated
      have gone := passed name version
      rw [absent] at gone
      exact ih others next (passed_absent gone uncreated) later

-- An entry whose addition was answered well is in the group at the end, if nobody takes it out again.
def AdditionsLast (visits : Nat → Visit α) (order : List (Nat × Except String Product)) (last : Memory) : Prop :=
  ∀ front number response back name version entry, order = front ++ (number, .ok (responded response)) :: back →
    Order.ofRequest (visits number).request = .ok (.add name version entry) → response.status = 200 →
      ∃ given group, entry.Named given ∧ response = writeGroup 200 group ∧ given ∈ group.entries ∧
        ((∀ later ∈ back, ¬ Removes name version given (visits later.1).request later.2) →
          ∃ final, groupIn last name version = some final ∧ given ∈ final.entries)

-- A group that was deleted is seen again only if somebody has made it again.
def DeletionsLast (visits : Nat → Visit α) (order : List (Nat × Except String Product)) : Prop :=
  ∀ front deletion gone middle look told back name version,
    order = front ++ (deletion, .ok (responded gone)) :: (middle ++ (look, .ok (responded told)) :: back) →
      Order.ofRequest (visits deletion).request = .ok (.delete ⟨.group, name, version⟩) → gone.status = 204 →
        (Order.ofRequest (visits look).request = .ok (.fetch ⟨.group, name, version⟩) ∨
          ∃ filter, Order.ofRequest (visits look).request = .ok (.list name version filter)) → told.status = 200 →
            ∃ creation ∈ middle, Creates name version (visits creation.1).request creation.2

theorem deletion_absent {place : Place} {found left : Option Group} {whole : Response}
    (turn : Turn name version (.delete place) found whole left) (gone : whole.status = 204) : left = none := by
  cases turn with
  | deleted => rfl
  | refused refusal => exact absurd (gone ▸ refusal) (by decide)

theorem look_present {order : Order} {found left : Option Group} {whole : Response}
    (turn : Turn name version order found whole left)
    (looks : order = .fetch ⟨.group, name, version⟩ ∨ ∃ filter, order = .list name version filter)
    (seen : whole.status = 200) : found ≠ none := by
  cases turn with
  | told | listed => exact Option.some_ne_none _
  | refused refusal => exact absurd (seen ▸ refusal) (by decide)
  | created | deleted | added | removed | discarded => rcases looks with same | ⟨filter, same⟩ <;> cases same

theorem additions_last (plain : ∀ number, (visits number).Plain) (serial : Serial (asked desk visits) order start last)
    (filed : Filed start) : AdditionsLast visits order last := by
  rintro front number response back name version entry rfl demand success
  obtain ⟨before, early, serves⟩ := Concurrent.serial_append.mp serial
  obtain ⟨between, serves, late⟩ := serves
  obtain ⟨response', answered, next, passed⟩ := plain_passed (plain number) (serial_filed plain early filed) serves
  cases answered
  obtain ⟨whole, turn, status, shown⟩ := (passed name version).turn _ demand rfl
  rw [shown (change_whole demand rfl)] at success ⊢
  generalize groupIn before name version = found at turn
  generalize after_found : groupIn between name version = left at turn
  cases turn with
  | @added entry given group named =>
      refine ⟨given, group.append given, named, rfl, List.mem_append_right _ List.mem_cons_self, fun spared => ?_⟩
      exact entry_stays plain late next ⟨_, after_found, List.mem_append_right _ List.mem_cons_self⟩ spared
  | refused refusal => exact absurd (success ▸ refusal) (by decide)

theorem deletions_last (plain : ∀ number, (visits number).Plain) (serial : Serial (asked desk visits) order start last)
    (filed : Filed start) : DeletionsLast visits order := by
  rintro front deletion gone middle look told back name version rfl deletes success looks seen
  by_contra uncreated
  push Not at uncreated
  obtain ⟨before, early, between, serves, rest⟩ := Concurrent.serial_append.mp serial
  obtain ⟨later, during, after, looking, late⟩ := Concurrent.serial_append.mp rest
  obtain ⟨_, answered, next, passed⟩ := plain_passed (plain deletion) (serial_filed plain early filed) serves
  cases answered
  obtain ⟨_, answered, -, watched⟩ := plain_passed (plain look) (serial_filed plain during next) looking
  cases answered
  obtain ⟨whole, turn, status, -⟩ := (passed name version).turn _ deletes rfl
  have absent := deletion_absent turn (status ▸ success)
  have missing := absent_stays plain during next absent uncreated
  rcases looks with fetches | ⟨filter, lists⟩
  · obtain ⟨shown, turn, status, -⟩ := (watched name version).turn _ fetches rfl
    exact look_present turn (.inl rfl) (status ▸ seen) missing
  · obtain ⟨shown, turn, status, -⟩ := (watched name version).turn _ lists rfl
    exact look_present turn (.inr ⟨filter, rfl⟩) (status ▸ seen) missing

theorem linear_edits (desk : Desk) (plain : ∀ number, (visits number).Plain) {events : List Concurrent.Event}
    {world : World} (run : Interleaving (asked desk visits) start events world) :
    (∀ number answer, world.answer? number = some answer →
        AsFound (asked desk visits number) number start events answer) ∧
      world.memory = written start events ∧
      (Timely start events → ∃ order, Linearization (asked desk visits) start events world order ∧
        (Filed start → AdditionsLast visits order world.memory ∧ DeletionsLast visits order)) := by
  have edits (number : Nat) : Edits (asked desk visits number) := plain_edits desk (plain number)
  refine ⟨Concurrent.answers_found edits run, (Concurrent.run_afoot edits run).memory.symm, fun timely => ?_⟩
  obtain ⟨order, linear⟩ := Concurrent.linearizes edits run timely
  refine ⟨order, linear, fun filed => ⟨?_, ?_⟩⟩
  · exact additions_last plain linear.serial filed
  · exact deletions_last plain linear.serial filed

end Histories

section Steps

variable {name version method : String} {group : Group} {entry : Entry}

-- How a request goes on with a group that it finds.
theorem fetching_steps {α : Type} {write : α → Response} {next : Group → Job (Except ServiceFailure α)} {order : Order}
    (job : order.job = answered write ((Group.fetch name version).andThen next)) (whole : method ≠ "HEAD") :
    ∃ following, (handled method (.ok order)).map responded = .ask none (.get (Kind.group.key name version)) following ∧
      ∀ group, following (.ok (some (Group.encode group))) =
        ((caught (answered write (next group)).process).map responded) := by
  rw [handled_whole _ whole, Order.handler, job, answered, process_bind, fetching_process]
  refine ⟨_, rfl, fun group => ?_⟩
  have read : readGroup name version (some group.encode) = .ok group := by
    rw [readGroup, Group.decode_encode]
    rfl
  rw [answered, process_bind]
  change (caught ((Job.andThen (.done (readGroup name version (some group.encode))) next).process.bind _)).map _ = _
  rw [read]
  rfl

theorem update_steps {α : Type} (write : α → Response) (group : Group) (value : α) :
    ∃ following, (caught (answered write (group.update.andThen fun _ => .done (.ok value))).process).map responded =
        .ask none (.put (Kind.group.key group.name group.version) group.encode) following ∧
      following (.ok ()) = .done (responded (write value)) := by
  rw [answered, process_bind, update_process]
  exact ⟨_, rfl, rfl⟩

-- An entry that has its ids already.
theorem adding_steps (whole : method ≠ "HEAD") (named : entry.named = .done entry)
    (new : group.holds entry.configuration.name entry.configuration.version = false) :
    ∃ following last, (handled method (.ok (.add name version entry))).map responded =
        .ask none (.get (Kind.group.key name version)) following ∧
      following (.ok (some (Group.encode group))) =
        .ask none (.put (Kind.group.key group.name group.version) (group.append entry).encode) last ∧
      last (.ok ()) = .done (responded (writeGroup 200 (group.append entry))) := by
  have job : Order.job (.add name version entry) = _ := rfl
  obtain ⟨following, begins, goes⟩ := fetching_steps job whole
  obtain ⟨last, writes, ends⟩ := update_steps (writeGroup 200) (group.append entry) (group.append entry)
  refine ⟨following, last, begins, (goes group).trans ?_, ends⟩
  rw [Group.add, if_neg (by simp [new]), named]
  exact writes

theorem listing_steps (group : Group) {filter : LabelFilter} (whole : method ≠ "HEAD") :
    ∃ following, (handled method (.ok (.list name version filter))).map responded =
        .ask none (.get (Kind.group.key name version)) following ∧
      following (.ok (some (Group.encode group))) = .done (responded (writeEntries (group.select filter))) := by
  have job : Order.job (.list name version filter) = _ := rfl
  obtain ⟨following, begins, goes⟩ := fetching_steps job whole
  exact ⟨following, begins, goes group⟩

end Steps

-- Requests for one group that meet in the store.
namespace Overlap

def desk : Desk := { scope := "idempotency" }

def group : Group := { id := "g", name := "web", version := "1" }

def key : String := Kind.group.key "web" "1"

def start : Memory := KeyMap.empty.insert key group.encode

def first : Entry := { id := "e1", configuration := { id := "c1", name := "app", version := "1" } }

def second : Entry := { id := "e2", configuration := { id := "c2", name := "db", version := "1" } }

def visit (method target body : String) : Visit Rat :=
  ⟨{ rate := 1, burst := 1 }, ⟨0, 0, 0⟩,
    { method, target := Text.toBytes target, contentType := some (Text.toBytes "application/json"),
      body := Text.toBytes body }⟩

def addingFirst : Visit Rat :=
  visit "POST" "/groups/web/versions/1/add-config"
    "\x7b\"id\":\"e1\",\"configuration\":\x7b\"id\":\"c1\",\"name\":\"app\",\"version\":\"1\"\x7d\x7d"

def addingSecond : Visit Rat :=
  visit "POST" "/groups/web/versions/1/add-config"
    "\x7b\"id\":\"e2\",\"configuration\":\x7b\"id\":\"c2\",\"name\":\"db\",\"version\":\"1\"\x7d\x7d"

def listing : Visit Rat := visit "GET" "/groups/web/versions/1/configs" ""

theorem start_found : start.get? key = some group.encode := by
  rw [start, KeyMap.get_insert, if_pos rfl]

theorem start_filed : Filed start := by
  have empty : Filed KeyMap.empty := fun _ _ _ _ lies => by cases lies
  have made : Turn group.name group.version (.create .group group) (groupIn KeyMap.empty group.name group.version)
      (.json 201 group.encode) (some group) := .created ⟨rfl, rfl⟩
  exact (put_turned empty (by rfl) rfl made).filed

theorem first_plain : addingFirst.Plain := ⟨rfl, by decide⟩

theorem second_plain : addingSecond.Plain := ⟨rfl, by decide⟩

theorem listing_plain : listing.Plain := ⟨rfl, by decide⟩

theorem first_adds : Order.ofRequest addingFirst.request = .ok (.add "web" "1" first) := by rfl

theorem second_adds : Order.ofRequest addingSecond.request = .ok (.add "web" "1" second) := by rfl

theorem listing_lists : Order.ofRequest listing.request = .ok (.list "web" "1" {}) := by rfl

theorem first_asks : addingFirst.process desk = handled "POST" (.ok (.add "web" "1" first)) :=
  (admitted_process desk first_plain (by decide +kernel)).trans (congrArg (handled "POST") first_adds)

theorem second_asks : addingSecond.process desk = handled "POST" (.ok (.add "web" "1" second)) :=
  (admitted_process desk second_plain (by decide +kernel)).trans (congrArg (handled "POST") second_adds)

theorem listing_asks : listing.process desk = handled "GET" (.ok (.list "web" "1" {})) :=
  (admitted_process desk listing_plain (by decide +kernel)).trans (congrArg (handled "GET") listing_lists)

-- All requests but the first are the same.
def pair (one other : Visit Rat) (number : Nat) : Visit Rat := if number = 0 then one else other

theorem pair_plain {one other : Visit Rat} (first : one.Plain) (second : other.Plain) (number : Nat) :
    (pair one other number).Plain := by
  rw [pair]
  by_cases zero : number = 0
  · rw [if_pos zero]
    exact first
  · rw [if_neg zero]
    exact second

theorem addition_spares {visit : Visit Rat} {name version name' version' : String} {entry other : Entry}
    {answer : Except String Product} (adds : Order.ofRequest visit.request = .ok (.add name version entry)) :
    ¬ Removes name' version' other visit.request answer := by
  rintro ⟨order, response, demand, -, takes⟩
  cases adds.symm.trans demand
  exact takes

theorem pair_spares (number : Nat) {name version : String} {entry : Entry} {answer : Except String Product} :
    ¬ Removes name version entry (pair addingFirst addingSecond number).request answer := by
  rw [pair]
  by_cases zero : number = 0
  · rw [if_pos zero]
    exact addition_spares first_adds
  · rw [if_neg zero]
    exact addition_spares second_adds

def read (number : Nat) : Concurrent.Event := .called number .request (.get key) (.ok (some group.encode))

def write (number : Nat) (entry : Entry) : Concurrent.Event :=
  .called number .request (.put key (group.append entry).encode) (.ok ())

def reads : List Concurrent.Event := [read 1, read 0, .began 1, .began 0]

theorem reads_timely : Timely start reads :=
  Concurrent.unwritten_timely (by simp [reads, read])

end Overlap

open Overlap

-- A group is listed while an entry is being added to it, before the addition is written.
theorem linear_edits_of_overlap :
    let visits := pair addingFirst listing
    let events := write 0 first :: reads
    (∀ number, (visits number).Plain) ∧ Timely start events ∧
      ∃ world, Interleaving (asked desk visits) start events world ∧
        world.answer? 0 = some (.ok (responded (writeGroup 200 (group.append first)))) ∧
        world.answer? 1 = some (.ok (responded (writeEntries []))) ∧
        world.memory = written start events ∧
        ∃ order, Linearization (asked desk visits) start events world order ∧
          AdditionsLast visits order world.memory ∧ DeletionsLast visits order := by
  intro visits events
  have plain := pair_plain first_plain listing_plain
  have adds : asked desk visits 0 = (handled "POST" (.ok (.add "web" "1" first))).map responded :=
    congrArg (Work.Process.map responded) first_asks
  have lists : asked desk visits 1 = (handled "GET" (.ok (.list "web" "1" {}))).map responded :=
    congrArg (Work.Process.map responded) listing_asks
  obtain ⟨adding, last, begins, goes, ends⟩ :=
    adding_steps (by decide : "POST" ≠ "HEAD") (by rfl : first.named = .done first) (rfl : group.holds _ _ = false)
  obtain ⟨showing, begins', shows⟩ := listing_steps group (by decide : "GET" ≠ "HEAD")
  obtain ⟨world, run, memory, ready, shown⟩ :=
    Concurrent.both_read start_found Nat.zero_ne_one (adds.trans begins) (lists.trans begins')
  rw [goes] at ready
  obtain ⟨after, run, memory, added, others⟩ := Concurrent.last_write run ready ends
  have timely : Timely start events := by
    refine Concurrent.timely_step reads_timely ?_
    rintro _ _ _ _ _ _ _ same known
    cases same
    cases known
    exact start_found
  obtain ⟨-, wrote, linear⟩ := linear_edits desk plain run
  obtain ⟨order, linear, lasting⟩ := linear timely
  have listed : after.answer? 1 = some (.ok (responded (writeEntries []))) := by
    rw [Concurrent.World.answer?, others 1 Nat.one_ne_zero, shown, shows]
    rfl
  exact ⟨plain, timely, after, run, added, listed, wrote, order, linear, lasting start_filed⟩

-- Both additions read the group before either of them is written, and both are told that they were made.
theorem overtaken_addition_lost :
    let visits := pair addingFirst addingSecond
    let events := write 0 first :: write 1 second :: reads
    (∀ number, (visits number).Plain) ∧ Filed start ∧
      ∃ world, Interleaving (asked desk visits) start events world ∧
        world.answer? 0 = some (.ok (responded (writeGroup 200 (group.append first)))) ∧
        world.answer? 1 = some (.ok (responded (writeGroup 200 (group.append second)))) ∧
        groupIn world.memory "web" "1" = some (group.append first) ∧
        ¬ ∃ order, Linearization (asked desk visits) start events world order := by
  intro visits events
  have plain := pair_plain first_plain second_plain
  have adds : asked desk visits 0 = (handled "POST" (.ok (.add "web" "1" first))).map responded :=
    congrArg (Work.Process.map responded) first_asks
  have adds' : asked desk visits 1 = (handled "POST" (.ok (.add "web" "1" second))).map responded :=
    congrArg (Work.Process.map responded) second_asks
  obtain ⟨adding, last, begins, goes, ends⟩ :=
    adding_steps (by decide : "POST" ≠ "HEAD") (by rfl : first.named = .done first) (rfl : group.holds _ _ = false)
  obtain ⟨adding', last', begins', goes', ends'⟩ :=
    adding_steps (by decide : "POST" ≠ "HEAD") (by rfl : second.named = .done second) (rfl : group.holds _ _ = false)
  obtain ⟨world, run, memory, ready, ready'⟩ :=
    Concurrent.both_read start_found Nat.zero_ne_one (adds.trans begins) (adds'.trans begins')
  rw [goes] at ready
  rw [goes'] at ready'
  obtain ⟨between, run, memory, added', others⟩ := Concurrent.last_write run ready' ends'
  obtain ⟨after, run, memory', added, others'⟩ :=
    Concurrent.last_write run ((others 0 Nat.zero_ne_one).trans ready) ends
  have kept : after.answer? 1 = some (.ok (responded (writeGroup 200 (group.append second)))) := by
    rw [Concurrent.World.answer?, others' 1 Nat.one_ne_zero]
    exact added'
  have left : groupIn after.memory "web" "1" = some (group.append first) := by
    refine group_in_stored ?_
    rw [memory', KeyMap.get_insert]
    exact if_pos rfl
  refine ⟨plain, start_filed, after, run, added, kept, left, ?_⟩
  -- In any order, the addition that was overtaken would have its entry in the group at the end.
  rintro ⟨order, linear⟩
  obtain ⟨front, back, rfl⟩ := List.append_of_mem ((linear.answers 1 _).mpr kept)
  obtain ⟨given, _, ⟨id, inner, rfl, -⟩, -, -, stays⟩ :=
    additions_last plain linear.serial start_filed front 1 _ back "web" "1" second rfl second_adds rfl
  obtain ⟨final, found, among⟩ := stays fun later _ => pair_spares later.1
  cases left.symm.trans found
  have same : "db" = "app" :=
    congrArg (fun entry : Entry => entry.configuration.name) (List.mem_singleton.mp (among : _ ∈ [first]))
  exact absurd same (by decide)

end ConfigRegistry.Library
