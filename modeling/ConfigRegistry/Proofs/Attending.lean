import ConfigRegistry.Proofs.Aside
import ConfigRegistry.Proofs.Gating
import ConfigRegistry.Proofs.Paths
import ConfigRegistry.Proofs.Shelving

set_option autoImplicit false

/-!
The service as a library. Main statement: requests without a key that are let in are answered, one after the other, as
a library answers them, and the store holds that library all the time.
-/
namespace ConfigRegistry.Library

open Catalog
open Dedup (Desk clientKeyOf)
open Http (Request Response Target)
open Service
open Session (Machine Product)
open Solitary (Idle Scene play playJob play_rescue play_process play_map sceneOf)
open Throttle (Gate Amount)
open Work (Job Process)
open Concurrent (responded play_job_handed)

-- One request with the gate that it meets and the time at which it comes.
structure Visit (α : Type) where
  gate : Gate α
  clock : Clock
  request : Request

section Visits

variable {α : Type} [Amount α]

-- Only changes, and other methods where nothing can be read, are held up by the gate.
def AtGate (request : Request) (route : Route) : Prop :=
  route.mutation? = some request.method ∨ request.method ≠ "OPTIONS" ∧ route.isReadable = false

structure Visit.Welcome (visit : Visit α) : Prop where
  unkeyed : clientKeyOf visit.request.keys = none
  items : Route.find? (Target.parse visit.request.target).segments ≠ some .health
  admitted : ∀ route, Route.find? (Target.parse visit.request.target).segments = some route →
    AtGate visit.request route → (visit.gate.enter (identity visit.request) visit.clock.now).1 = true

def Visit.process (desk : Desk) (visit : Visit α) : Process Response :=
  (receive desk visit.gate visit.clock visit.request).2

variable {library : Library} {scene : Scene} {request : Request}

-- A process that answers as told and leaves a store that holds the library.
def Comes (process : Process Response) (scene : Scene) (answer : Response × Library) : Prop :=
  ∃ after, play process scene = some (.ok answer.1, after) ∧ Reflects after answer.2 ∧ after.handed = scene.handed

theorem handler_comes {handler : Job Response} {demand : Except Response Order} (carries : Carries handler demand)
    (reflects : Reflects scene library) : Comes (caught handler.process) scene (library.respond demand) := by
  obtain ⟨after, plays, reflecting⟩ := carries library scene reflects
  refine ⟨after, ?_, reflecting, play_job_handed plays⟩
  rw [caught, play_rescue, play_process, plays]
  rfl

theorem map_comes {process : Process Response} {answer : Response × Library} (comes : Comes process scene answer)
    (write : Response → Response) : Comes (process.map write) scene (write answer.1, answer.2) := by
  obtain ⟨after, plays, reflecting, handed⟩ := comes
  refine ⟨after, ?_, reflecting, handed⟩
  rw [play_map, plays]
  rfl

theorem answer_whole {method : String} (demand : Except Response Order) (whole : method ≠ "HEAD") :
    library.answer method demand = library.respond demand := by rw [answer, if_neg whole]

theorem pass_unkeyed {handler : Job Response} (desk : Desk) (gate : Gate α) (clock : Clock)
    (unkeyed : clientKeyOf request.keys = none) (admitted : (gate.enter (identity request) clock.now).1 = true) :
    (pass desk gate clock request handler).2 = handler.process := by
  rw [Concurrent.pass_process, if_pos admitted, deduplicate, unkeyed]

theorem mutation_keeps_body {route : Route} (mutation : route.mutation? = some request.method) :
    request.method ≠ "HEAD" := by
  rcases Concurrent.mutation_verb mutation with same | same <;> rw [same] <;> decide

-- What the client sees of a response.
def clipped (method : String) (response : Response) : Response :=
  if method = "HEAD" then { response with body := [] } else response

theorem clipped_bare {response : Response} (method : String) (bare : response.body = []) :
    clipped method response = response := by
  have same : { response with body := [] } = response := by rw [← bare]
  rw [clipped, same, ite_self]

theorem clipped_whole {method : String} (response : Response) (whole : method ≠ "HEAD") :
    clipped method response = response := if_neg whole

-- The process that carries out what is demanded, as the client sees it.
def handled (method : String) (demand : Except Response Order) : Process Response :=
  (caught (Order.handler demand).process).map (clipped method)

theorem map_whole {method : String} (process : Process Response) (whole : method ≠ "HEAD") :
    process.map (clipped method) = process := by
  induction process with
  | done response => exact congrArg Process.done (clipped_whole response whole)
  | crash message => rfl
  | ask guard call next ih => exact congrArg (Process.ask guard call) (funext ih)
  | wait guard next ih => exact congrArg (Process.wait guard) ih
  | fresh next ih => exact congrArg Process.fresh (funext ih)
  | started next ih => exact congrArg Process.started ih
  | settle settlement next ih => exact congrArg (Process.settle settlement) (funext ih)
  | abandon key next ih => exact congrArg (Process.abandon key) ih

theorem handled_whole {method : String} (demand : Except Response Order) (whole : method ≠ "HEAD") :
    handled method demand = caught (Order.handler demand).process := map_whole _ whole

theorem dispatch_handled (desk : Desk) (gate : Gate α) (clock : Clock) (query : Option Bytes) {route : Route}
    (unkeyed : clientKeyOf request.keys = none) (items : route ≠ .health)
    (admitted : AtGate request route → (gate.enter (identity request) clock.now).1 = true) :
    (dispatch desk gate clock request query route).2 = handled request.method (Order.ofRoute request query route) := by
  rw [dispatch, Order.ofRoute]
  by_cases options : request.method = "OPTIONS"
  · rw [if_pos options, if_pos options]
    exact congrArg Process.done (clipped_bare _ rfl).symm
  · rw [if_neg options, if_neg options]
    by_cases mutation : route.mutation? = some request.method
    · rw [if_pos mutation, if_pos mutation, handled_whole _ (mutation_keeps_body mutation),
        ← (Order.mutate_means request query route).does]
      exact congrArg caught (pass_unkeyed desk gate clock unkeyed (admitted (.inl mutation)))
    · rw [if_neg mutation, if_neg mutation]
      by_cases readable : route.isReadable = true
      · have looks := (Order.inspect_means clock query items).does
        rw [if_pos readable]
        by_cases get : request.method = "GET"
        · rw [if_pos get, if_pos ⟨readable, .inl get⟩, handled_whole _ (by simp [get]), ← looks]
        · rw [if_neg get]
          by_cases head : request.method = "HEAD"
          · rw [if_pos head, if_pos ⟨readable, .inr head⟩, handled, ← looks]
            exact congrArg (Process.map · _) (funext fun response => (if_pos head).symm)
          · rw [if_neg head, if_neg fun reads => reads.2.elim get head]
            exact congrArg Process.done (clipped_bare _ rfl).symm
      · rw [if_neg readable, if_neg fun reads => readable reads.1]
        have letIn := admitted (.inr ⟨options, by simpa using readable⟩)
        dsimp only
        rw [pass_unkeyed desk gate clock unkeyed letIn]
        exact congrArg Process.done (clipped_bare _ rfl).symm

theorem visit_handled (desk : Desk) {visit : Visit α} (welcome : visit.Welcome) :
    visit.process desk = handled visit.request.method (Order.ofRequest visit.request) := by
  rw [Visit.process, receive, Order.ofRequest]
  cases found : Route.find? (Target.parse visit.request.target).segments with
  | none => exact congrArg Process.done (clipped_bare _ rfl).symm
  | some route =>
      exact dispatch_handled desk _ _ _ welcome.unkeyed (fun same => welcome.items (found.trans (congrArg some same)))
        (welcome.admitted route found)

theorem visit_comes (desk : Desk) {visit : Visit α} (welcome : visit.Welcome) (reflects : Reflects scene library) :
    Comes (visit.process desk) scene (library.attend visit.request) := by
  rw [visit_handled desk welcome]
  exact map_comes (handler_comes (handler_carries fun order => Order.request_sound) reflects) _

-- An idle machine whose store holds a library.
structure Stands (machine : Machine) (library : Library) : Prop where
  idle : Idle machine
  reflects : Reflects (sceneOf machine) library

def Visit.serve (desk : Desk) (machine : Machine) (visit : Visit α) : Option (Except String Product) × Machine :=
  Solitary.serve machine ((visit.process desk).map responded)

def serveAll (desk : Desk) : Machine → List (Visit α) → List (Option (Except String Product)) × Machine
  | machine, [] => ([], machine)
  | machine, visit :: rest =>
      let first := visit.serve desk machine
      let others := serveAll desk first.2 rest
      (first.1 :: others.1, others.2)

def told (response : Response) : Option (Except String Product) := some (.ok (responded response))

variable {machine : Machine}

theorem serve_attends (desk : Desk) {visit : Visit α} (welcome : visit.Welcome) (stands : Stands machine library) :
    (visit.serve desk machine).1 = told (library.attend visit.request).1 ∧
      Stands (visit.serve desk machine).2 (library.attend visit.request).2 := by
  obtain ⟨after, plays, reflects, handed⟩ := visit_comes desk welcome stands.reflects
  have mapped : play ((visit.process desk).map responded) (sceneOf machine) =
      some (.ok (responded (library.attend visit.request).1), after) := by
    rw [play_map, plays]
    rfl
  obtain ⟨answered, idle, scene⟩ := Solitary.serve_play stands.idle mapped (handed ▸ Nat.zero_le _)
  refine ⟨answered, idle, ?_⟩
  rw [Visit.serve, scene]
  exact ⟨reflects.holds, reflects.ids⟩

theorem serve_all_attends (desk : Desk) {visits : List (Visit α)} (welcome : ∀ visit ∈ visits, visit.Welcome)
    (stands : Stands machine library) :
    (serveAll desk machine visits).1 = (library.attendAll (visits.map Visit.request)).1.map told ∧
      Stands (serveAll desk machine visits).2 (library.attendAll (visits.map Visit.request)).2 := by
  induction visits generalizing machine library with
  | nil => exact ⟨rfl, stands⟩
  | cons visit rest ih =>
      obtain ⟨answered, next⟩ := serve_attends desk (welcome visit List.mem_cons_self) stands
      obtain ⟨others, last⟩ := ih (fun other among => welcome other (List.mem_cons_of_mem _ among)) next
      refine ⟨?_, last⟩
      rw [serveAll, answered, others]
      rfl

-- A session answers a request so, as long as nothing was left running in it.
theorem session_visit {session : Session} (request : Request) (reply : Session.Reply)
    (genuine : session.scripted = false) (quiet : session.running = .empty) :
    let clock : Clock := { now := session.now }
    let visit : Visit Float := ⟨session.gate, clock, request⟩
    let served := visit.serve session.desk session.machine
    session.step (.request request reply none) =
      ((served.1.map Session.answerOf).getD .nothing,
        { session with gate := (receive session.desk session.gate clock request).1, machine := served.2 }) := by
  intro clock visit served
  have received : session.receive request reply = receive session.desk session.gate clock request := by
    rw [Session.receive, genuine]
    rfl
  have mapped : ((receive session.desk session.gate clock request).2.map Session.Answer.response).map .answer =
      (visit.process session.desk).map responded := Concurrent.bind_assoc _ _ _
  rw [Session.step, received]
  simp only [Session.launch, Session.runProcess, mapped, quiet]
  rfl

theorem empty_stands : Stands {} empty := ⟨⟨rfl, rfl, rfl⟩, ⟨holds_empty, rfl⟩⟩

theorem encode_injective {kind : Kind} {item other : Item kind} (same : item.encode = other.encode) : item = other := by
  have read := decode_encode item
  rw [same, decode_encode other, Except.ok.injEq] at read
  exact read.symm

-- The path of an item answers with the item, and takes it away.
def Reachable (α : Type) [Amount α] (desk : Desk) (machine : Machine) (place : Place) (item : Item place.kind) : Prop :=
  ∀ visit : Visit α, visit.Welcome → visit.request.target = Text.toBytes (path place) →
    (visit.request.method = "GET" → (visit.serve desk machine).1 = told (.json 200 item.encode)) ∧
      (visit.request.method = "DELETE" → (visit.serve desk machine).1 = told (.empty 204))

-- What lies at other places makes no difference to a visit, and a visit makes none to what lies there.
def Apart (desk : Desk) (machine : Machine) (visit : Visit α) : Prop :=
  (∀ place, ¬ Names visit.request place →
      (visit.serve desk machine).2.memory.get? place.key = machine.memory.get? place.key) ∧
    ∀ visits : List (Visit α), (∀ other ∈ visits, other.Welcome) →
      let other := (serveAll desk {} visits).2
      other.idCount = machine.idCount →
      (∀ place, Names visit.request place → other.memory.get? place.key = machine.memory.get? place.key) →
        (visit.serve desk other).1 = (visit.serve desk machine).1

theorem stands_same {other : Machine} {shelves : Library} (stands : Stands machine library)
    (stands' : Stands other shelves) {place : Place}
    (same : other.memory.get? place.key = machine.memory.get? place.key) :
    shelves.items.lookup place = library.items.lookup place := by
  have stored : machine.memory.get? place.key = _ := stands.reflects.holds.stored place
  have stored' : other.memory.get? place.key = _ := stands'.reflects.holds.stored place
  exact Option.map_injective (fun _ _ => encode_injective) (stored'.symm.trans (same.trans stored))

theorem visit_apart (desk : Desk) (stands : Stands machine library) {visit : Visit α} (welcome : visit.Welcome) :
    Apart desk machine visit := by
  obtain ⟨answered, after⟩ := serve_attends desk welcome stands
  constructor
  · intro place unnamed
    have stored : machine.memory.get? place.key = _ := stands.reflects.holds.stored place
    have later : (visit.serve desk machine).2.memory.get? place.key = _ := after.reflects.holds.stored place
    rw [stored, later, attend_elsewhere library unnamed]
  · intro visits others other ids same
    obtain ⟨-, stands'⟩ := serve_all_attends desk others empty_stands
    obtain ⟨answered', -⟩ := serve_attends desk welcome stands'
    have counts : (empty.attendAll (visits.map Visit.request)).2.ids = library.ids := by
      rw [← stands.reflects.ids, ← stands'.reflects.ids]
      exact ids
    rw [answered, answered']
    exact congrArg told (attend_local counts fun place named => stands_same stands stands' (same place named))

theorem reachable (desk : Desk) (stands : Stands machine library) {place : Place} {item : Item place.kind}
    (found : library.items.lookup place = some item) : Reachable α desk machine place item := by
  intro visit welcome target
  obtain ⟨sound, -, -⟩ := stands.reflects.holds.filed place item found
  obtain ⟨fetches, deletes⟩ := path_request sound target
  obtain ⟨answered, -⟩ := serve_attends desk welcome stands
  constructor
  · intro get
    rw [answered, attend, fetches get, get, answer_whole _ (by decide), respond, carryOut]
    simp only [found]
  · intro delete
    rw [answered, attend, deletes delete, delete, answer_whole _ (by decide), respond, carryOut]
    simp only [found]

theorem change_whole {order : Order} (asked : Order.ofRequest request = .ok order) (changes : order.reads = false) :
    request.method ≠ "HEAD" := by
  intro head
  rw [Order.ofRequest] at asked
  split at asked
  · rename_i route found
    by_cases mutation : route.mutation? = some request.method
    · exact mutation_keeps_body mutation head
    · rw [Order.ofRoute, if_neg mutation, head, if_neg (by decide)] at asked
      split at asked
      · exact absurd (Order.look_reads asked) (by simp [changes])
      · cases asked
  · cases asked

theorem creation_reachable (desk : Desk) (stands : Stands machine library) {visit : Visit α} (welcome : visit.Welcome)
    {kind : Kind} {item : Item kind} (asked : Order.ofRequest visit.request = .ok (.create kind item))
    (absent : library.items.lookup ⟨kind, item.name, item.version⟩ = none) :
    (visit.serve desk machine).1 = told (.json 201 (item.numbered.run library.ids).1.encode) ∧
      Reachable α desk (visit.serve desk machine).2 ⟨kind, item.name, item.version⟩
        (item.numbered.run library.ids).1 := by
  obtain ⟨answered, after⟩ := serve_attends desk welcome stands
  have attended : library.attend visit.request =
      (.json 201 (item.numbered.run library.ids).1.encode,
        { library.put ⟨kind, item.name, item.version⟩ (item.numbered.run library.ids).1 with
          ids := (item.numbered.run library.ids).2 }) := by
    rw [attend, asked, answer_whole _ (change_whole asked rfl), respond, carryOut]
    simp only [absent]
  rw [attended] at answered after
  exact ⟨answered, reachable desk after (Finmap.lookup_insert _)⟩

theorem library_refinement (desk : Desk) (visits : List (Visit α)) (welcome : ∀ visit ∈ visits, visit.Welcome) :
    let served := serveAll desk {} visits
    let attended := empty.attendAll (visits.map Visit.request)
    served.1 = attended.1.map told ∧ Stands served.2 attended.2 ∧
      (∀ visit : Visit α, visit.Welcome → Apart desk served.2 visit) ∧
      (∀ place item, attended.2.items.lookup place = some item → Reachable α desk served.2 place item) ∧
      ∀ (visit : Visit α) (kind : Kind) (item : Item kind), visit.Welcome →
        Order.ofRequest visit.request = .ok (.create kind item) →
        attended.2.items.lookup ⟨kind, item.name, item.version⟩ = none →
          let given := (item.numbered.run attended.2.ids).1
          (visit.serve desk served.2).1 = told (.json 201 given.encode) ∧
            Reachable α desk (visit.serve desk served.2).2 ⟨kind, item.name, item.version⟩ given := by
  obtain ⟨answers, stands⟩ := serve_all_attends desk welcome empty_stands
  refine ⟨answers, stands, ?_, ?_, ?_⟩
  · exact fun visit invited => visit_apart desk stands invited
  · exact fun place item found => reachable desk stands found
  · exact fun visit kind item invited asked absent => creation_reachable desk stands invited asked absent

end Visits

-- A group is made, grows by an entry, is made in vain once more, is read, and is gone when it was deleted.
theorem library_refinement_of_group :
    let desk : Desk := { scope := "idempotency" }
    let gate : Gate Rat := { rate := 1, burst := 1 }
    let visit (method target body : String) : Visit Rat :=
      ⟨gate, ⟨0, 0, 0⟩,
        { method, target := Text.toBytes target, contentType := some (Text.toBytes "application/json"),
          body := Text.toBytes body }⟩
    let group := "\x7b\"name\":\"web\",\"version\":\"1\"\x7d"
    let entry := "\x7b\"configuration\":\x7b\"name\":\"app\",\"version\":\"2\"\x7d\x7d"
    let visits := [visit "POST" "/groups" group, visit "POST" "/groups/web/versions/1/add-config" entry,
      visit "POST" "/groups" group, visit "GET" "/groups/web/versions/1" "", visit "DELETE" "/groups/web/versions/1" "",
      visit "GET" "/groups/web/versions/1" ""]
    let attended := empty.attendAll (visits.map Visit.request)
    (∀ visit ∈ visits, visit.Welcome) ∧ (serveAll desk {} visits).1 = attended.1.map told ∧
      attended.1.map Response.status = [201, 200, 409, 200, 204, 404] := by
  intro desk gate visit group entry visits attended
  have admitted : (gate.enter unknownIdentity 0).1 = true := by decide +kernel
  have welcome : ∀ visit ∈ visits, visit.Welcome := by
    have invited (method target body : String)
        (items : Route.find? (Target.parse (Text.toBytes target)).segments ≠ some .health) :
        (visit method target body).Welcome := ⟨rfl, items, fun _ _ _ => admitted⟩
    simp only [visits, List.forall_mem_cons]
    exact ⟨invited _ _ _ (by decide), invited _ _ _ (by decide), invited _ _ _ (by decide), invited _ _ _ (by decide),
      invited _ _ _ (by decide), invited _ _ _ (by decide), fun _ none => nomatch none⟩
  refine ⟨welcome, (library_refinement desk visits welcome).1, ?_⟩
  decide +kernel

end ConfigRegistry.Library
