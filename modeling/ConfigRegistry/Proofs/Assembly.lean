import Mathlib.Data.List.Forall2
import ConfigRegistry.Proofs.GroupTurns
import ConfigRegistry.Proofs.Persistence
import ConfigRegistry.Proofs.Removals

set_option autoImplicit false

/-!
A group that is submitted whole beside one that is submitted without entries and gets them one by one. Main statement:
the one is accepted where the other is, and then the same entries are stored in the same order, but for the ids that
they were given.
-/
namespace ConfigRegistry

open Catalog
open Concurrent (responded play_job_handed)
open Dedup (Desk)
open Http (Request Response Target)
open Library (create_absent play_and_then play_answered play_answered_bind play_stored)
open Service
open Session (Machine Product)
open Solitary (Idle Names Scene names_bind play playJob play_map play_process play_rescue process_bind sceneOf)
open Store (Call Memory)
open Throttle (Amount)
open Work (Job Process)

-- A group that was given the ids that it and its entries lacked.
structure Catalog.Group.Named (group given : Group) : Prop where
  name : given.name = group.name
  version : given.version = group.version
  entries : List.Forall₂ Entry.Named group.entries given.entries

section Plays

variable {α : Type} {scene : Scene} {kind : Kind} {name version : String}

theorem names_play {post : α → Prop} {job : Job α} (names : Names post job.process) (scene : Scene) :
    ∃ value after, playJob job scene = some (.ok value, after) ∧ post value ∧ after.memory = scene.memory := by
  induction job generalizing scene with
  | done value => exact ⟨value, scene, rfl, names, rfl⟩
  | fresh next ih => exact ih _ (names _) _
  | ask call next _ =>
      rw [Job.process, Job.host] at names
      exact False.elim names
  | _ => exact False.elim names

theorem entries_given (entries : List Entry) :
    Names (List.Forall₂ Entry.Named entries) (namedEntries entries).process := by
  induction entries with
  | nil => exact .nil
  | cons entry rest ih =>
      rw [namedEntries, process_bind]
      refine names_bind (entry_names entry) fun given named => ?_
      rw [process_bind]
      exact names_bind ih fun others complete => .cons named complete

theorem group_given (group : Group) : Names group.Named group.named.process := by
  rw [Group.named, process_bind]
  refine names_bind (named_id_names _) fun id _ => ?_
  rw [process_bind]
  exact names_bind (entries_given _) fun entries complete => ⟨rfl, rfl, complete⟩

theorem create_plays (absent : scene.memory.get? (kind.key name version) = none) (bytes : Bytes) :
    ∃ after, playJob (kind.create name version bytes) scene = some (.ok (.ok ()), after) ∧
      after.memory = scene.memory.insert (kind.key name version) bytes := by
  let call : Call := .create (kind.key name version) bytes
  have performs := create_absent absent bytes
  have written : (scene.memory.perform call).1 = true := congrArg Prod.fst performs
  refine ⟨scene.called call, ?_, congrArg Prod.snd performs⟩
  apply (play_and_then (play_stored call scene)).trans
  rw [written]
  rfl

theorem creation_plays (scene : Scene) {group : Group}
    (absent : scene.memory.get? (Kind.group.key group.name group.version) = none) :
    ∃ made after, playJob (Order.create .group group).job scene = some (.ok (.json 201 made.encode), after) ∧
      after.memory = scene.memory.insert (Kind.group.key group.name group.version) made.encode ∧ group.Named made := by
  obtain ⟨made, named, names, complete, same⟩ := names_play (group_given group) scene
  have absent' : named.memory.get? (Kind.group.key made.name made.version) = none := by
    rw [same, complete.name, complete.version]
    exact absent
  obtain ⟨after, creates, written⟩ := create_plays absent' made.encode
  refine ⟨made, after, ?_, ?_, complete⟩
  · have makes : playJob (made.create.andThen fun _ => .done (.ok made)) named = some (.ok (.ok made), after) :=
      play_and_then creates
    exact (play_answered_bind _ names).trans (play_answered _ makes)
  · rw [written, same, complete.name, complete.version]

theorem addition_plays (scene : Scene) {stored : Group}
    (lies : scene.memory.get? (Kind.group.key name version) = some stored.encode) (entry : Entry) :
    (stored.holds entry.configuration.name entry.configuration.version = true ∧ ∃ response after,
      playJob (Order.add name version entry).job scene = some (.ok response, after) ∧ 400 ≤ response.status) ∨
    (¬ stored.holds entry.configuration.name entry.configuration.version = true ∧ ∃ given after,
      playJob (Order.add name version entry).job scene =
          some (.ok (writeGroup 200 (stored.append given)), after) ∧
        after.memory =
          scene.memory.insert (Kind.group.key stored.name stored.version) (stored.append given).encode ∧
        entry.Named given) := by
  obtain ⟨found, fetches, same⟩ := fetch_finds stored.decode_encode lies
  by_cases held : stored.holds entry.configuration.name entry.configuration.version = true
  · have refused : stored.add entry = .done none := if_pos held
    let failure : ServiceFailure := .alreadyExists
      (inGroup (entry.configuration.name ++ "/" ++ entry.configuration.version) name version)
    refine .inl ⟨held, failure.response, found, (play_answered_bind (writeGroup 200) fetches).trans ?_,
      failure_refuses failure⟩
    dsimp only
    rw [refused]
    rfl
  · obtain ⟨_, named, adds, ⟨given, complete, rfl⟩, kept⟩ := names_play (lengthened_names stored entry) found
    let call : Call := .put (Kind.group.key stored.name stored.version) (stored.append given).encode
    have puts : playJob (stored.append given).update named = some (.ok (.ok ()), named.called call) :=
      play_stored call named
    have grown : stored.add entry = entry.named.bind fun given => .done (some (stored.append given)) := if_neg held
    refine .inr ⟨held, given, named.called call, ?_, ?_, complete⟩
    · refine (play_answered_bind (writeGroup 200) fetches).trans ?_
      dsimp only
      rw [grown]
      have ends : playJob ((stored.append given).update.andThen fun _ => .done (.ok (stored.append given))) named =
          some (.ok (.ok (stored.append given)), named.called call) := play_and_then puts
      exact (play_answered_bind _ adds).trans (play_answered _ ends)
    · change named.memory.insert _ _ = _
      rw [kept, same]

end Plays

namespace Library

section Visits

variable {α : Type} [Amount α] {desk : Desk} {visit : Visit α} {machine : Machine} {group : Group} {entry : Entry}
  {name version : String}

-- The client is told of a success.
def Accepted (answer : Option (Except String Product)) : Prop :=
  ∃ response, answer = told response ∧ response.status < 400

structure Visit.Submits (visit : Visit α) (group : Group) : Prop where
  welcome : visit.Welcome
  method : visit.request.method = "POST"
  target : Route.find? (Target.parse visit.request.target).segments = some .groups
  body : readBody Group.decoder visit.request = .ok group

-- The path is that of the group, provided that its name and version may stand in a path.
structure Visit.Adds (name version : String) (visit : Visit α) (entry : Entry) : Prop where
  welcome : visit.Welcome
  method : visit.request.method = "POST"
  target : checkPath name version = .ok () → ∃ named numbered,
    Route.find? (Target.parse visit.request.target).segments = some (.addEntry named numbered) ∧
      Order.namesOf named numbered = .ok (name, version)
  body : readBody Entry.decoder visit.request = .ok entry

theorem accepted_told {response : Response} : Accepted (told response) ↔ response.status < 400 := by
  constructor
  · rintro ⟨other, same, success⟩
    cases same
    exact success
  · exact fun success => ⟨response, rfl, success⟩

theorem serve_plays (desk : Desk) (welcome : visit.Welcome) (post : visit.request.method = "POST") (idle : Idle machine)
    {response : Response} {after : Scene}
    (plays : playJob (Order.handler (Order.ofRequest visit.request)) (sceneOf machine) = some (.ok response, after)) :
    (visit.serve desk machine).1 = told response ∧ Idle (visit.serve desk machine).2 ∧
      (visit.serve desk machine).2.memory = after.memory := by
  have mapped : play ((visit.process desk).map responded) (sceneOf machine) =
      some (.ok (responded response), after) := by
    rw [visit_handled desk welcome, handled_whole _ (by simp [post]), play_map, caught, play_rescue, play_process,
      plays]
    rfl
  obtain ⟨answered, idle, scene⟩ := Solitary.serve_play idle mapped (play_job_handed plays ▸ Nat.zero_le _)
  exact ⟨answered, idle, congrArg Scene.memory scene⟩

theorem post_orders {request : Request} {route : Route} (post : request.method = "POST")
    (found : Route.find? (Target.parse request.target).segments = some route)
    (changes : route.mutation? = some "POST") :
    Order.ofRequest request = Order.ofChange request (Target.parse request.target).query route := by
  rw [Order.ofRequest]
  simp only [found]
  rw [Order.ofRoute, post, if_neg (by decide), if_pos changes]

theorem submission_orders (submits : visit.Submits group) :
    Order.ofRequest visit.request = (Order.refused group.check >>= fun _ => .ok (.create .group group)) := by
  rw [post_orders submits.method submits.target rfl, Order.ofChange, Order.creation]
  change (Order.refused (readBody Group.decoder visit.request) >>= _) = _
  rw [submits.body]
  rfl

theorem addition_orders (adds : visit.Adds name version entry) (path : checkPath name version = .ok ()) :
    Order.ofRequest visit.request = (Order.refused entry.check >>= fun _ => .ok (.add name version entry)) := by
  obtain ⟨named, numbered, found, names⟩ := adds.target path
  rw [post_orders adds.method found rfl, Order.ofChange, Order.placeOf, names]
  change (Order.refused (checkPath name version) >>= _) >>= _ = _
  rw [path]
  change (Order.refused (readBody Entry.decoder visit.request) >>= _) = _
  rw [adds.body]
  rfl

-- What comes of a request whose order hangs on one more check.
theorem checked_served (desk : Desk) (welcome : visit.Welcome) (post : visit.request.method = "POST")
    (idle : Idle machine) {check : Except ServiceFailure Unit} {order : Order}
    (orders : Order.ofRequest visit.request = (Order.refused check >>= fun _ => .ok order)) :
    (check ≠ .ok () ∧ ¬ Accepted (visit.serve desk machine).1) ∨
      check = .ok () ∧ ∀ response after, playJob order.job (sceneOf machine) = some (.ok response, after) →
        (visit.serve desk machine).1 = told response ∧ Idle (visit.serve desk machine).2 ∧
          (visit.serve desk machine).2.memory = after.memory := by
  cases check with
  | error failure =>
      have plays : playJob (Order.handler (Order.ofRequest visit.request)) (sceneOf machine) =
          some (.ok failure.response, sceneOf machine) := by
        rw [orders]
        rfl
      obtain ⟨answered, -, -⟩ := serve_plays desk welcome post idle plays
      refine .inl ⟨nofun, ?_⟩
      rw [answered, accepted_told]
      exact Nat.not_lt.mpr (failure_refuses failure)
  | ok value =>
      refine .inr ⟨rfl, fun response after plays => serve_plays desk welcome post idle ?_⟩
      rw [orders]
      exact plays

theorem submission_served (desk : Desk) (submits : visit.Submits group) (idle : Idle machine)
    (absent : machine.memory.get? (Kind.group.key group.name group.version) = none) :
    (Accepted (visit.serve desk machine).1 ↔ group.check = .ok ()) ∧
      (group.check = .ok () → Idle (visit.serve desk machine).2 ∧ ∃ made, group.Named made ∧
        (visit.serve desk machine).2.memory =
          machine.memory.insert (Kind.group.key group.name group.version) made.encode) := by
  rcases checked_served desk submits.welcome submits.method idle (submission_orders submits) with
    ⟨unsound, refused⟩ | ⟨sound, goes⟩
  · exact ⟨iff_of_false refused unsound, fun sound => absurd sound unsound⟩
  · obtain ⟨made, after, plays, written, named⟩ := creation_plays (sceneOf machine) absent
    obtain ⟨answered, idle, left⟩ := goes _ _ plays
    rw [answered, accepted_told]
    exact ⟨iff_of_true (show 201 < 400 by decide) sound, fun _ => ⟨idle, made, named, left.trans written⟩⟩

theorem addition_served (desk : Desk) (adds : visit.Adds name version entry) (path : checkPath name version = .ok ())
    (idle : Idle machine) {stored : Group} (names : stored.name = name ∧ stored.version = version)
    (lies : machine.memory.get? (Kind.group.key name version) = some stored.encode) :
    (Accepted (visit.serve desk machine).1 ↔ entry.check = .ok () ∧ entry.pair ∉ stored.entries.map Entry.pair) ∧
      (Accepted (visit.serve desk machine).1 → Idle (visit.serve desk machine).2 ∧ ∃ given, entry.Named given ∧
        (visit.serve desk machine).2.memory =
          machine.memory.insert (Kind.group.key name version) (stored.append given).encode) := by
  rcases checked_served desk adds.welcome adds.method idle (addition_orders adds path) with
    ⟨unsound, refused⟩ | ⟨sound, goes⟩
  · exact ⟨iff_of_false refused fun fits => unsound fits.1, fun accepted => absurd accepted refused⟩
  · rcases addition_plays (sceneOf machine) lies entry with
      ⟨held, response, after, plays, refusal⟩ | ⟨free, given, after, plays, written, named⟩
    · obtain ⟨answered, -, -⟩ := goes _ _ plays
      have refused : ¬ Accepted (visit.serve desk machine).1 := by
        rw [answered, accepted_told]
        exact Nat.not_lt.mpr refusal
      exact ⟨iff_of_false refused fun fits => fits.2 ((holds_iff _ _ _).mp held),
        fun accepted => absurd accepted refused⟩
    · obtain ⟨answered, idle, left⟩ := goes _ _ plays
      rw [names.1, names.2] at written
      rw [answered, accepted_told]
      exact ⟨iff_of_true (show 200 < 400 by decide) ⟨sound, fun among => free ((holds_iff _ _ _).mpr among)⟩,
        fun _ => ⟨idle, given, named, left.trans written⟩⟩

theorem named_pair {given : Entry} (named : entry.Named given) : given.pair = entry.pair := by
  obtain ⟨id, inner, rfl, -⟩ := named
  rfl

theorem check_entries_first {seen : List (String × String)} {entries : List Entry} :
    checkEntries seen (entry :: entries) = .ok () ↔
      (entry.check = .ok () ∧ entry.pair ∉ seen) ∧ checkEntries (seen ++ [entry.pair]) entries = .ok () := by
  rw [check_entries_iff, check_entries_iff, List.forall_mem_cons, List.forall_mem_cons, List.map_cons, List.nodup_cons]
  have apart : entry.pair ∉ entries.map Entry.pair ↔ ∀ other ∈ entries, other.pair ≠ entry.pair := by
    simp only [List.mem_map, not_exists, not_and]
  simp only [List.mem_append, List.mem_singleton, not_or, apart, forall_and]
  tauto

-- The check of a whole list goes on where the group stands that has its first entries already.
theorem additions_served (desk : Desk) {additions : List (Visit α)} {entries : List Entry}
    (adds : List.Forall₂ (Visit.Adds name version) additions entries) (path : checkPath name version = .ok ())
    (idle : Idle machine) {stored : Group} (names : stored.name = name ∧ stored.version = version) {memory : Memory}
    (lies : machine.memory = memory.insert (Kind.group.key name version) stored.encode) :
    ((∀ answer ∈ (serveAll desk machine additions).1, Accepted answer) ↔
        checkEntries (stored.entries.map Entry.pair) entries = .ok ()) ∧
      ((∀ answer ∈ (serveAll desk machine additions).1, Accepted answer) →
        ∃ given, List.Forall₂ Entry.Named entries given ∧ (serveAll desk machine additions).2.memory =
          memory.insert (Kind.group.key name version)
            ({ stored with entries := stored.entries ++ given } : Group).encode) := by
  induction adds generalizing machine stored with
  | nil =>
      refine ⟨iff_of_true (fun _ none => nomatch none) rfl, fun _ => ⟨[], .nil, ?_⟩⟩
      rw [List.append_nil]
      exact lies
  | cons adding others ih =>
      rename_i visit entry additions entries
      have found : machine.memory.get? (Kind.group.key name version) = some stored.encode := by
        rw [lies, KeyMap.get_insert, if_pos rfl]
      obtain ⟨fits, grows⟩ := addition_served desk adding path idle names found
      rw [serveAll, List.forall_mem_cons, check_entries_first, ← fits]
      by_cases first : Accepted (visit.serve desk machine).1
      · obtain ⟨idle, given, named, left⟩ := grows first
        rw [lies, KeyMap.insert_insert] at left
        have pairs : (stored.append given).entries.map Entry.pair = stored.entries.map Entry.pair ++ [entry.pair] := by
          rw [Group.append, List.map_append, ← named_pair named]
          rfl
        have names' : (stored.append given).name = name ∧ (stored.append given).version = version := names
        obtain ⟨rest, last⟩ := ih idle names' left
        rw [pairs] at rest
        refine ⟨and_congr_right fun _ => rest, fun accepted => ?_⟩
        obtain ⟨more, complete, memory⟩ := last accepted.2
        refine ⟨given :: more, .cons named complete, memory.trans ?_⟩
        rw [Group.append, List.append_assoc]
        rfl
      · exact ⟨iff_of_false (fun both => first both.1) fun both => first both.1,
          fun accepted => absurd accepted.1 first⟩

end Visits

theorem group_assembly {α : Type} [Amount α] (desk : Desk) {machine : Machine} (idle : Idle machine)
    {group bare : Group} {whole first : Visit α} {additions : List (Visit α)}
    (absent : machine.memory.get? (Kind.group.key group.name group.version) = none) (submits : whole.Submits group)
    (same : bare.name = group.name ∧ bare.version = group.version) (empty : bare.entries = [])
    (begins : first.Submits bare)
    (adds : List.Forall₂ (Visit.Adds group.name group.version) additions group.entries) :
    let key := Kind.group.key group.name group.version
    let once := whole.serve desk machine
    let stepwise := serveAll desk machine (first :: additions)
    (Accepted once.1 ↔ group.check = .ok ()) ∧ (Accepted once.1 ↔ ∀ answer ∈ stepwise.1, Accepted answer) ∧
      (Accepted once.1 → ∃ made grown : Group,
        once.2.memory = machine.memory.insert key made.encode ∧
          stepwise.2.memory = machine.memory.insert key grown.encode ∧
          List.Forall₂ Entry.Named group.entries made.entries ∧
          List.Forall₂ Entry.Named group.entries grown.entries) := by
  intro key once stepwise
  have absent' : machine.memory.get? (Kind.group.key bare.name bare.version) = none := by
    rw [same.1, same.2]
    exact absent
  have bareness : bare.check = .ok () ↔ checkHeader group.name group.version = .ok () := by
    rw [group_check_iff, empty, same.1, same.2]
    simp
  obtain ⟨accepted, making⟩ := submission_served desk submits idle absent
  obtain ⟨begun, beginning⟩ := submission_served desk begins idle absent'
  have once_iff : Accepted once.1 ↔
      checkHeader group.name group.version = .ok () ∧ checkEntries [] group.entries = .ok () :=
    accepted.trans unit_bind_ok
  have steps : stepwise.1 = (first.serve desk machine).1 ::
      (serveAll desk (first.serve desk machine).2 additions).1 := rfl
  refine ⟨accepted, ?_⟩
  rw [steps, List.forall_mem_cons, begun, bareness, once_iff]
  by_cases header : checkHeader group.name group.version = .ok ()
  · obtain ⟨idle', opened, named, left⟩ := beginning (bareness.mpr header)
    rw [same.1, same.2] at left
    have names : opened.name = group.name ∧ opened.version = group.version :=
      ⟨named.name.trans same.1, named.version.trans same.2⟩
    have none : opened.entries = [] := by
      have nothing := named.entries
      rwa [empty, List.forall₂_nil_left_iff] at nothing
    obtain ⟨rest, grows⟩ := additions_served desk adds (header_path header) idle' names left
    rw [none] at rest
    refine ⟨and_congr_right fun _ => rest.symm, fun sound => ?_⟩
    obtain ⟨-, made, complete, memory⟩ := making (unit_bind_ok.mpr sound)
    obtain ⟨given, complete', memory'⟩ := grows (rest.mpr sound.2)
    refine ⟨made, { opened with entries := given }, memory, ?_, complete.entries, complete'⟩
    rw [none] at memory'
    exact memory'
  · exact ⟨iff_of_false (fun both => header both.1) fun both => header both.1, fun both => absurd both.1 header⟩

section Pair

-- One entry brings its ids, the other one none.
def halfNamed : Group where
  name := "web"
  version := "1"
  entries :=
    [{ id := "e", configuration := { id := "c", name := "app", version := "1" }, labels := .ofList [("env", "prod")] },
      { configuration := { name := "db", version := "1" } }]

def addingTo (body : String) : Visit Rat := posting "/groups/web/versions/1/add-config" (Text.toBytes body)

theorem adding_adds {body : String} {entry : Entry}
    (read : readBody Entry.decoder (addingTo body).request = .ok entry) : (addingTo body).Adds "web" "1" entry where
  welcome := posting_welcome _ (by decide)
  method := rfl
  target _ :=
    have route : Route.find? (Target.parse (Text.toBytes "/groups/web/versions/1/add-config")).segments =
        some (.addEntry (Text.toBytes "web") (Text.toBytes "1")) := by decide
    ⟨_, _, route, by decide⟩
  body := read

theorem group_assembly_of_two :
    let desk : Desk := { scope := "idempotency" }
    let additions := [
      addingTo ("\x7b\"id\":\"e\",\"configuration\":\x7b\"id\":\"c\",\"name\":\"app\",\"version\":\"1\"\x7d," ++
        "\"labels\":\x7b\"env\":\"prod\"\x7d\x7d"),
      addingTo "\x7b\"configuration\":\x7b\"name\":\"db\",\"version\":\"1\"\x7d\x7d"]
    let bare : Group := { halfNamed with entries := [] }
    let once := (submitting halfNamed).serve desk {}
    let stepwise := serveAll desk {} (submitting bare :: additions)
    (submitting halfNamed).Submits halfNamed ∧ (submitting bare).Submits bare ∧
      List.Forall₂ (Visit.Adds "web" "1") additions halfNamed.entries ∧
      (Accepted once.1 ∧ ∀ answer ∈ stepwise.1, Accepted answer) ∧ ∃ made grown : Group,
        once.2.memory = KeyMap.empty.insert "groups/web/1" made.encode ∧
          stepwise.2.memory = KeyMap.empty.insert "groups/web/1" grown.encode ∧
          List.Forall₂ Entry.Named halfNamed.entries made.entries ∧
          List.Forall₂ Entry.Named halfNamed.entries grown.entries := by
  intro desk additions bare once stepwise
  have idle : Idle {} := ⟨rfl, rfl, rfl⟩
  have submits : (submitting halfNamed).Submits halfNamed :=
    ⟨submitting_welcome _, rfl, by decide, by decide +kernel⟩
  have begins : (submitting bare).Submits bare := ⟨submitting_welcome _, rfl, by decide, by decide +kernel⟩
  have adds : List.Forall₂ (Visit.Adds "web" "1") additions halfNamed.entries :=
    .cons (adding_adds (by decide +kernel)) (.cons (adding_adds (by decide +kernel)) .nil)
  have accepted : Accepted once.1 := (submission_served desk submits idle rfl).1.mpr (by decide +kernel)
  have same : bare.name = halfNamed.name ∧ bare.version = halfNamed.version := ⟨rfl, rfl⟩
  obtain ⟨-, alike, stored⟩ := group_assembly desk idle rfl submits same rfl begins adds
  exact ⟨submits, begins, adds, ⟨accepted, alike.mp accepted⟩, stored accepted⟩

end Pair

end Library
end ConfigRegistry
