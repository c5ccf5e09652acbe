import ConfigRegistry.Proofs.Orders
import ConfigRegistry.Proofs.Solitary

set_option autoImplicit false

/-!
A store that holds a library: the JSON of each item under the key of its place, and nothing else. Main statement: each
order is carried out on the store by its job as it is on the library, and is answered alike.
-/
namespace ConfigRegistry.Library

open Catalog
open Store (Call Memory)
open Work (Job)
open Http (Request Response)
open Service (answered checked)
open Solitary (Scene playJob play_job_bind)

structure Holds (memory : Memory) (library : Library) : Prop where
  stored : ∀ place : Place, memory.get? place.key = (library.items.lookup place).map Item.encode
  filed : ∀ place item, library.items.lookup place = some item →
    checkPath place.name place.version = .ok () ∧ item.name = place.name ∧ item.version = place.version
  only : ∀ key bytes, memory.get? key = some bytes → ∃ place : Place, place.key = key

section Stores

variable {memory : Memory} {library : Library} {place other : Place}

theorem place_key_injective (path : checkPath place.name place.version = .ok ()) (same : place.key = other.key) :
    place = other := by
  obtain ⟨kind, name, version⟩ := place
  obtain ⟨kind', name', version'⟩ := other
  obtain ⟨rfl, rfl, rfl⟩ := item_key_injective path same
  rfl

theorem decode_encode {kind : Kind} (item : Item kind) : (Item.decoder kind).whole item.encode = .ok item := by
  cases kind with
  | configuration => exact Configuration.decode_encode item
  | group => exact Group.decode_encode item

theorem holds_empty : Holds .empty empty where
  stored place := by
    rw [KeyMap.get_empty, empty, Finmap.lookup_empty]
    rfl
  filed place item found := by
    rw [empty, Finmap.lookup_empty] at found
    exact nomatch found
  only key bytes found := nomatch found

theorem holds_put (holds : Holds memory library) (place : Place) (path : checkPath place.name place.version = .ok ())
    (item : Item place.kind) (names : item.name = place.name) (versions : item.version = place.version) :
    Holds (memory.insert place.key item.encode) (library.put place item) where
  stored other := by
    rw [KeyMap.get_insert]
    by_cases same : place = other
    · subst same
      rw [if_pos rfl, put, Finmap.lookup_insert]
      rfl
    · rw [if_neg fun keys => same (place_key_injective path keys), put_elsewhere library item same, holds.stored]
  filed other found lies := by
    by_cases same : place = other
    · subst same
      rw [put, Finmap.lookup_insert, Option.some.injEq] at lies
      subst lies
      exact ⟨path, names, versions⟩
    · rw [put_elsewhere library item same] at lies
      exact holds.filed other found lies
  only key bytes found := by
    rw [KeyMap.get_insert] at found
    by_cases same : place.key = key
    · exact ⟨place, same⟩
    · rw [if_neg same] at found
      exact holds.only key bytes found

theorem holds_erase (holds : Holds memory library) (path : checkPath place.name place.version = .ok ()) :
    Holds (memory.erase place.key) { library with items := library.items.erase place } where
  stored other := by
    rw [KeyMap.get_erase]
    by_cases same : other = place
    · subst same
      rw [if_pos rfl, Finmap.lookup_erase]
      rfl
    · rw [if_neg fun keys => same (place_key_injective path keys).symm, Finmap.lookup_erase_ne same, holds.stored]
  filed other item lies := by
    by_cases same : other = place
    · subst same
      rw [Finmap.lookup_erase] at lies
      exact nomatch lies
    · rw [Finmap.lookup_erase_ne same] at lies
      exact holds.filed other item lies
  only key bytes found := by
    rw [KeyMap.get_erase] at found
    by_cases same : place.key = key
    · exact ⟨place, same⟩
    · rw [if_neg same] at found
      exact holds.only key bytes found

theorem erase_absent {key : String} (absent : memory.get? key = none) : memory.erase key = memory := by
  apply KeyMap.eq_of_get
  intro other
  rw [KeyMap.get_erase]
  by_cases same : key = other
  · rw [if_pos same, ← same, absent]
  · rw [if_neg same]

theorem create_absent {key : String} (absent : memory.get? key = none) (value : Bytes) :
    memory.perform (.create key value) = (true, memory.insert key value) := by
  apply if_neg
  rw [KeyMap.contains, absent]
  exact Bool.false_ne_true

theorem create_present {key : String} {bytes : Bytes} (present : memory.get? key = some bytes) (value : Bytes) :
    memory.perform (.create key value) = (false, memory) := by
  apply if_pos
  rw [KeyMap.contains, present]
  rfl

theorem holds_absent (holds : Holds memory library) (absent : library.items.lookup place = none) :
    memory.get? place.key = none := by rw [holds.stored, absent, Option.map_none]

theorem holds_found (holds : Holds memory library) {item : Item place.kind}
    (found : library.items.lookup place = some item) :
    memory.get? place.key = some item.encode := by rw [holds.stored, found, Option.map_some]

end Stores

section Numbering

variable {α β : Type}

-- A job that gives ids and does nothing else.
def Numbers (job : Job α) (numbering : StateM Nat α) : Prop :=
  ∀ scene : Scene, playJob job scene =
    some (.ok (numbering.run scene.ids).1, { scene with ids := (numbering.run scene.ids).2 })

theorem numbers_done (value : α) : Numbers (.done value) (pure value) := fun _ => rfl

theorem numbers_bind {job : Job α} {numbering : StateM Nat α} {next : α → Job β} {following : α → StateM Nat β}
    (first : Numbers job numbering) (rest : ∀ value, Numbers (next value) (following value)) :
    Numbers (job.bind next) (numbering >>= following) := by
  intro scene
  rw [play_job_bind, first scene]
  exact rest _ _

theorem numbers_id (id : String) : Numbers (namedId id) (numberId id) := by
  intro scene
  rw [namedId, numberId]
  by_cases blank : id = ""
  · rw [if_pos blank, if_pos blank]
    rfl
  · rw [if_neg blank, if_neg blank]
    rfl

theorem numbers_entry (entry : Entry) : Numbers entry.named (numberEntry entry) :=
  numbers_bind (numbers_id _) fun _ => numbers_bind (numbers_id _) fun _ => numbers_done _

theorem numbers_entries (entries : List Entry) : Numbers (namedEntries entries) (entries.mapM numberEntry) := by
  induction entries with
  | nil => exact numbers_done []
  | cons entry entries ih =>
      rw [List.mapM_cons]
      exact numbers_bind (numbers_entry entry) fun _ => numbers_bind ih fun _ => numbers_done _

theorem numbers_item {kind : Kind} (item : Item kind) : Numbers (naming item) item.numbered := by
  cases kind with
  | configuration => exact numbers_bind (numbers_id "") fun _ => numbers_done _
  | group => exact numbers_bind (numbers_id _) fun _ => numbers_bind (numbers_entries _) fun _ => numbers_done _

theorem numbered_names {kind : Kind} (item : Item kind) (count : Nat) :
    (item.numbered.run count).1.name = item.name ∧ (item.numbered.run count).1.version = item.version := by
  cases kind <;> exact ⟨rfl, rfl⟩

end Numbering

-- A scene whose store holds a library and that has given as many ids.
structure Reflects (scene : Scene) (library : Library) : Prop where
  holds : Holds scene.memory library
  ids : scene.ids = library.ids

-- A job that does on the store what comes of a request on the library.
def Carries (job : Job Response) (demand : Except Response Order) : Prop :=
  ∀ library scene, Reflects scene library → ∃ after,
    playJob job scene = some (.ok (library.respond demand).1, after) ∧ Reflects after (library.respond demand).2

section Jobs

variable {α β : Type} {scene after : Scene}

def shown (write : α → Response) : Except ServiceFailure α → Response
  | .ok value => write value
  | .error failure => failure.response

theorem play_answered (write : α → Response) {job : Job (Except ServiceFailure α)} {ending : Except ServiceFailure α}
    (plays : playJob job scene = some (.ok ending, after)) :
    playJob (answered write job) scene = some (.ok (shown write ending), after) := by
  rw [answered, play_job_bind, plays]
  cases ending <;> rfl

theorem play_and_then {job : Job (Except ServiceFailure α)} {next : α → Job (Except ServiceFailure β)} {value : α}
    (plays : playJob job scene = some (.ok (.ok value), after)) :
    playJob (job.andThen next) scene = playJob (next value) after := by
  rw [Job.andThen, play_job_bind, plays]
  rfl

theorem play_and_then_failed {job : Job (Except ServiceFailure α)} {next : α → Job (Except ServiceFailure β)}
    {failure : ServiceFailure} (plays : playJob job scene = some (.ok (.error failure), after)) :
    playJob (job.andThen next) scene = some (.ok (.error failure), after) := by
  rw [Job.andThen, play_job_bind, plays]
  rfl

theorem play_answered_bind {γ : Type} (write : β → Response) {job : Job γ} {next : γ → Job (Except ServiceFailure β)}
    {value : γ} (plays : playJob job scene = some (.ok value, after)) :
    playJob (answered write (job.bind next)) scene = playJob (answered write (next value)) after := by
  rw [answered, play_job_bind, play_job_bind, plays, answered, play_job_bind]
  rfl

end Jobs

section Orders

variable {library : Library} {scene : Scene} {place : Place}

-- What the record store answers, told as a handler is told.
theorem play_stored (call : Call) (scene : Scene) :
    playJob (Job.stored call) scene = some (.ok (.ok (scene.memory.perform call).1), scene.called call) := rfl

theorem play_fetch (place : Place) (reflects : Reflects scene library) :
    playJob (place.kind.fetch (Item.decoder place.kind) place.name place.version) scene =
      some (.ok (match library.items.lookup place with
        | none => .error (.notFound place.describe)
        | some item => .ok item), scene) := by
  have found : (scene.memory.perform (.get place.key)).1 = _ := reflects.holds.stored place
  apply (play_and_then (play_stored (.get place.key) scene)).trans
  rw [found]
  cases library.items.lookup place with
  | none => rfl
  | some item =>
      have read := decode_encode item
      simp only [Option.map_some, read]
      rfl

theorem fetch_carries (place : Place) :
    Carries (answered (fun item : Item place.kind => .json 200 item.encode)
      (place.kind.fetch (Item.decoder place.kind) place.name place.version)) (.ok (.fetch place)) := by
  intro library scene reflects
  have plays := play_answered (fun item : Item place.kind => .json 200 item.encode) (play_fetch place reflects)
  rw [plays, respond, carryOut]
  cases library.items.lookup place with
  | none => exact ⟨scene, rfl, reflects⟩
  | some item => exact ⟨scene, rfl, reflects⟩

theorem delete_carries (place : Place) :
    Carries (answered Service.writeNothing (place.kind.delete place.name place.version)) (.ok (.delete place)) := by
  intro library scene reflects
  let after := scene.called (.delete place.key)
  have existed : (scene.memory.perform (.delete place.key)).1 = (library.items.lookup place).isSome := by
    rw [Memory.perform, KeyMap.contains, reflects.holds.stored, Option.isSome_map]
  have plays : playJob (place.kind.delete place.name place.version) scene =
      some (.ok (if (library.items.lookup place).isSome then .ok () else .error (.notFound place.describe)),
        after) := by
    apply (play_and_then (play_stored (.delete place.key) scene)).trans
    rw [existed]
    rfl
  rw [play_answered _ plays, respond, carryOut]
  cases found : library.items.lookup place with
  | none =>
      have same : after.memory = scene.memory := erase_absent (holds_absent reflects.holds found)
      exact ⟨after, rfl, ⟨same ▸ reflects.holds, reflects.ids⟩⟩
  | some item =>
      exact ⟨after, rfl, ⟨holds_erase reflects.holds (reflects.holds.filed place item found).1, reflects.ids⟩⟩

theorem play_create_absent {item : Item place.kind} (reflects : Reflects scene library)
    (absent : library.items.lookup place = none) (path : checkPath place.name place.version = .ok ())
    (names : item.name = place.name) (versions : item.version = place.version) :
    ∃ after, playJob (place.kind.create place.name place.version item.encode) scene = some (.ok (.ok ()), after) ∧
      Reflects after (library.put place item) := by
  let call : Call := .create place.key item.encode
  have performs := create_absent (holds_absent reflects.holds absent) item.encode
  have written : (scene.memory.perform call).1 = true := congrArg Prod.fst performs
  have memory : (scene.called call).memory = scene.memory.insert place.key item.encode := congrArg Prod.snd performs
  refine ⟨scene.called call, ?_, ?_, reflects.ids⟩
  · apply (play_and_then (play_stored call scene)).trans
    rw [written]
    rfl
  · rw [memory]
    exact holds_put reflects.holds place path item names versions

theorem play_create_present {item : Item place.kind} (reflects : Reflects scene library)
    (present : library.items.lookup place = some item) (bytes : Bytes) :
    ∃ after, playJob (place.kind.create place.name place.version bytes) scene =
        some (.ok (.error (.alreadyExists place.describe)), after) ∧ Reflects after library := by
  let call : Call := .create place.key bytes
  have performs := create_present (holds_found reflects.holds present) bytes
  have written : (scene.memory.perform call).1 = false := congrArg Prod.fst performs
  have memory : (scene.called call).memory = scene.memory := congrArg Prod.snd performs
  refine ⟨scene.called call, ?_, ?_, reflects.ids⟩
  · apply (play_and_then (play_stored call scene)).trans
    rw [written]
    rfl
  · rw [memory]
    exact reflects.holds

theorem create_carries {kind : Kind} (item : Item kind) (path : checkPath item.name item.version = .ok ()) :
    Carries (answered (fun item : Item kind => .json 201 item.encode) (creating item)) (.ok (.create kind item)) := by
  intro library scene reflects
  let place : Place := ⟨kind, item.name, item.version⟩
  let given := item.numbered.run library.ids
  let named : Scene := { scene with ids := given.2 }
  have reflecting : Reflects named { library with ids := given.2 } := ⟨{ reflects.holds with }, rfl⟩
  obtain ⟨names, versions⟩ : given.1.name = item.name ∧ given.1.version = item.version :=
    numbered_names item library.ids
  have goes : playJob (creating item) scene =
      playJob ((kind.create item.name item.version given.1.encode).andThen fun _ => .done (.ok given.1)) named := by
    rw [creating, play_job_bind, numbers_item item scene, reflects.ids, ← names, ← versions]
    rfl
  rw [respond, carryOut]
  cases found : library.items.lookup place with
  | none =>
      obtain ⟨after, plays, last⟩ := play_create_absent reflecting found path names versions
      exact ⟨after, play_answered _ (goes.trans (play_and_then plays)), last⟩
  | some item =>
      obtain ⟨after, plays, last⟩ := play_create_present reflecting found given.1.encode
      exact ⟨after, play_answered _ (goes.trans (play_and_then_failed plays)), last⟩

theorem update_reflects {name version : String} {group changed : Group} (reflects : Reflects scene library)
    (found : library.items.lookup ⟨.group, name, version⟩ = some group) (names : changed.name = group.name)
    (versions : changed.version = group.version) :
    ∃ after, playJob changed.update scene = some (.ok (.ok ()), after) ∧
      Reflects after (library.put ⟨.group, name, version⟩ changed) := by
  obtain ⟨path, names', versions'⟩ := reflects.holds.filed _ _ found
  refine ⟨_, play_stored _ scene, ?_, reflects.ids⟩
  have key : Kind.group.key changed.name changed.version = Place.key ⟨.group, name, version⟩ := by
    rw [Place.key, names, versions, ← names', ← versions']
    rfl
  rw [key]
  exact holds_put reflects.holds _ path _ (names.trans names') (versions.trans versions')

theorem in_group_carries {α : Type} {name version : String} {write : α → Response}
    {next : Group → Job (Except ServiceFailure α)} {act : Group → Response × Library}
    (reflects : Reflects scene library)
    (acts : ∀ group, library.items.lookup ⟨.group, name, version⟩ = some group → ∃ after,
      playJob (answered write (next group)) scene = some (.ok (act group).1, after) ∧ Reflects after (act group).2) :
    ∃ after, playJob (answered write ((Group.fetch name version).andThen next)) scene =
        some (.ok (library.inGroup name version act).1, after) ∧
      Reflects after (library.inGroup name version act).2 := by
  have plays : playJob (Group.fetch name version) scene = _ := play_fetch ⟨.group, name, version⟩ reflects
  rw [inGroup]
  cases found : library.items.lookup ⟨.group, name, version⟩ with
  | none =>
      rw [found] at plays
      rw [play_answered write (play_and_then_failed plays)]
      exact ⟨scene, rfl, reflects⟩
  | some group =>
      rw [found] at plays
      obtain ⟨after, runs, reflecting⟩ := acts group found
      exact ⟨after, (play_answered_bind write plays).trans runs, reflecting⟩

-- A group that was changed is written and then told of.
theorem change_carries {α : Type} {name version : String} {group : Group} (changed : Group) (write : α → Response)
    (value : α) (reflects : Reflects scene library) (found : library.items.lookup ⟨.group, name, version⟩ = some group)
    (names : changed.name = group.name) (versions : changed.version = group.version) :
    ∃ after, playJob (answered write (changed.update.andThen fun _ => .done (.ok value))) scene =
        some (.ok (write value), after) ∧ Reflects after (library.put ⟨.group, name, version⟩ changed) := by
  obtain ⟨after, plays, reflecting⟩ := update_reflects reflects found names versions
  have ends : playJob (changed.update.andThen fun _ => .done (.ok value)) scene = some (.ok (.ok value), after) :=
    play_and_then plays
  exact ⟨after, play_answered write ends, reflecting⟩

theorem add_carries (name version : String) (entry : Entry) :
    Carries (Order.job (.add name version entry)) (.ok (.add name version entry)) := by
  intro library scene reflects
  apply in_group_carries reflects
  intro group found
  dsimp only
  by_cases held : group.holds entry.configuration.name entry.configuration.version = true
  · rw [if_pos (by exact held), Group.add, if_pos held]
    exact ⟨scene, rfl, reflects⟩
  · rw [if_neg (by exact held), Group.add, if_neg held]
    let given := (numberEntry entry).run library.ids
    let named : Scene := { scene with ids := given.2 }
    have reflecting : Reflects named { library with ids := given.2 } := ⟨{ reflects.holds with }, rfl⟩
    have adds : playJob (entry.named.bind fun entry => .done (some (group.append entry))) scene =
        some (.ok (some (group.append given.1)), named) := by
      rw [play_job_bind, numbers_entry entry scene, reflects.ids]
      rfl
    rw [play_answered_bind _ adds]
    exact change_carries (group.append given.1) _ _ reflecting found rfl rfl

theorem remove_carries (name version entryId : String) :
    Carries (Order.job (.remove name version entryId)) (.ok (.remove name version entryId)) := by
  intro library scene reflects
  apply in_group_carries reflects
  intro group found
  by_cases present : group.hasEntry entryId = true
  · rw [if_pos present, if_pos (by exact present)]
    exact change_carries (group.remove entryId) _ _ reflects found rfl rfl
  · rw [if_neg present, if_neg (by exact present)]
    exact ⟨scene, rfl, reflects⟩

theorem list_carries (name version : String) (filter : LabelFilter) :
    Carries (Order.job (.list name version filter)) (.ok (.list name version filter)) := by
  intro library scene reflects
  apply in_group_carries reflects
  intro group found
  exact ⟨scene, rfl, reflects⟩

theorem discard_carries (name version : String) (filter : LabelFilter) :
    Carries (Order.job (.discard name version filter)) (.ok (.discard name version filter)) := by
  intro library scene reflects
  apply in_group_carries reflects
  intro group found
  exact change_carries (group.discard filter) _ _ reflects found rfl rfl

theorem job_carries {order : Order} (sound : order.Sound) : Carries order.job (.ok order) := by
  cases order with
  | create kind item => exact create_carries item sound
  | fetch place => exact fetch_carries place
  | delete place => exact delete_carries place
  | add name version entry => exact add_carries name version entry
  | remove name version entryId => exact remove_carries name version entryId
  | list name version filter => exact list_carries name version filter
  | discard name version filter => exact discard_carries name version filter

theorem handler_carries {demand : Except Response Order} (sound : ∀ order, demand = .ok order → order.Sound) :
    Carries (Order.handler demand) demand := by
  cases demand with
  | error response => exact fun _ scene reflects => ⟨scene, rfl, reflects⟩
  | ok order => exact job_carries (sound order rfl)

end Orders
end ConfigRegistry.Library
