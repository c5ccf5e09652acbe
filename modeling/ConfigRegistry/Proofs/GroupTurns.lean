import ConfigRegistry.Proofs.Attending
import ConfigRegistry.Proofs.Interleaving

set_option autoImplicit false

/-!
What one request does to a group when it is served alone, whatever ids it is given. Main statement: it takes its turn
at each group: it makes it, tells of it, changes it or deletes it, or it is refused and changes nothing.
-/
namespace ConfigRegistry

open Catalog
open Concurrent (Edits Writes)
open Http (Request Response)
open Library (creating naming place_key_injective)
open Service
open Solitary (Names Serves names_bind names_serves process_bind serves_then)
open Store (Call Memory)
open Work (Job Process)

-- An entry that was given the ids that it lacked.
def Catalog.Entry.Named (entry given : Entry) : Prop :=
  ∃ id inner, given = { entry with id, configuration := { entry.configuration with id := inner } } ∧
    (entry.id ≠ "" → id = entry.id) ∧ (entry.configuration.id ≠ "" → inner = entry.configuration.id)

section Names

theorem named_id_names (id : String) : Names (fun given => id ≠ "" → given = id) (namedId id).process := by
  by_cases blank : id = ""
  · rw [namedId, if_pos blank]
    exact fun _ nonempty => absurd blank nonempty
  · rw [namedId, if_neg blank]
    exact fun _ => rfl

theorem entry_names (entry : Entry) : Names entry.Named entry.named.process := by
  rw [Entry.named, process_bind]
  refine names_bind (named_id_names _) fun id kept => ?_
  rw [process_bind]
  exact names_bind (named_id_names _) fun inner same => ⟨id, inner, rfl, kept, same⟩

theorem entries_names (entries : List Entry) : Names (fun _ => True) (namedEntries entries).process := by
  induction entries with
  | nil => trivial
  | cons entry rest ih =>
      rw [namedEntries, process_bind]
      refine names_bind (entry_names entry) fun given _ => ?_
      rw [process_bind]
      exact names_bind ih fun _ _ => trivial

theorem item_names {kind : Kind} (item : Item kind) :
    Names (fun given => given.name = item.name ∧ given.version = item.version) (naming item).process := by
  cases kind with
  | configuration => exact fun _ => ⟨rfl, rfl⟩
  | group =>
      refine cast (congrArg (Names _) (process_bind _ _).symm) (names_bind (named_id_names _) fun _ _ => ?_)
      rw [process_bind]
      exact names_bind (entries_names _) fun _ _ => ⟨rfl, rfl⟩

end Names

section Shapes

variable {α : Type} {name version : String}

theorem answered_edits (write : α → Response) {job : Job (Except ServiceFailure α)} (edits : Edits job.process) :
    Edits (answered write job).process := by
  rw [answered, process_bind]
  exact Concurrent.edits_then edits fun result => by cases result <;> exact ⟨_, rfl⟩

-- What the group is that was found, if it is one.
def readGroup (name version : String) : Option Bytes → Except ServiceFailure Group
  | none => .error (.notFound (Kind.group.describe name version))
  | some bytes => (Group.decoder.whole bytes).mapError ServiceFailure.ofJson

theorem fetching_process (next : Group → Job (Except ServiceFailure α)) :
    ((Group.fetch name version).andThen next).process = .ask none (.get (Kind.group.key name version)) fun
      | .ok found => (Job.andThen (.done (readGroup name version found)) next).process
      | .failed failure => .done (.error (.ofStore failure))
      | .panicked message => .crash message := by
  rw [Group.fetch, Kind.fetch, Job.stored, Job.andThen, Job.andThen, Job.bind, Job.bind, Job.process, Job.host,
    Process.ask.injEq]
  refine ⟨rfl, rfl, heq_of_eq (funext fun outcome => ?_)⟩
  cases outcome with
  | ok found => cases found <;> rfl
  | failed failure => rfl
  | panicked message => rfl

theorem update_process (group : Group) (value : α) :
    (group.update.andThen fun _ => .done (.ok value)).process =
      .ask none (.put (Kind.group.key group.name group.version) group.encode) fun
        | .ok _ => .done (.ok value)
        | .failed failure => .done (.error (.ofStore failure))
        | .panicked message => .crash message := by
  rw [Group.update, Kind.update, Job.stored, Job.andThen, Job.bind, Job.process, Job.host, Process.ask.injEq]
  refine ⟨rfl, rfl, heq_of_eq (funext fun outcome => ?_)⟩
  cases outcome <;> rfl

theorem update_writes (group : Group) (value : α) :
    Writes (group.update.andThen fun _ => .done (.ok value)).process := by
  rw [update_process]
  exact ⟨_, rfl⟩

theorem fetching_edits {next : Group → Job (Except ServiceFailure α)}
    (rest : ∀ group, (∃ result, (next group).process = .done result) ∨ Writes (next group).process) :
    Edits ((Group.fetch name version).andThen next).process := by
  rw [fetching_process]
  intro found
  dsimp only
  cases read : readGroup name version found with
  | error failure => exact .inl ⟨_, rfl⟩
  | ok group =>
      rcases rest group with done | writes
      · exact .inl done
      · exact .inr ⟨⟨_, rfl⟩, writes⟩

theorem stored_edits (call : Call) : Edits (Job.stored call).process := by
  rw [Job.stored, Job.process, Job.host]
  exact fun _ => .inl ⟨_, rfl⟩

theorem and_then_edits {β : Type} {job : Job (Except ServiceFailure α)} {next : α → Job (Except ServiceFailure β)}
    (edits : Edits job.process) (ends : ∀ value, ∃ last, (next value).process = .done last) :
    Edits (job.andThen next).process := by
  rw [Job.andThen, process_bind]
  refine Concurrent.edits_then edits fun result => ?_
  cases result with
  | ok value => exact ends value
  | error failure => exact ⟨_, rfl⟩

theorem create_edits (kind : Kind) (name version : String) (bytes : Bytes) :
    Edits (kind.create name version bytes).process :=
  and_then_edits (stored_edits _) fun _ => ⟨_, rfl⟩

theorem lengthened_names (group : Group) (entry : Entry) :
    Names (fun longer => ∃ given, entry.Named given ∧ longer = some (group.append given))
      (entry.named.bind fun given => .done (some (group.append given))).process := by
  rw [process_bind]
  exact names_bind (entry_names entry) fun given named => ⟨given, named, rfl⟩

theorem add_edits (group : Group) (entry : Entry) (failure : ServiceFailure) :
    let adding := (group.add entry).bind fun
      | none => .done (.error failure)
      | some group => group.update.andThen fun _ => .done (.ok group)
    (∃ result, adding.process = .done result) ∨ Writes adding.process := by
  intro adding
  by_cases held : group.holds entry.configuration.name entry.configuration.version = true
  · left
    simp only [adding, Group.add, if_pos held]
    exact ⟨_, rfl⟩
  · right
    simp only [adding, Group.add, if_neg held]
    rw [process_bind]
    refine Concurrent.names_writes (lengthened_names group entry) ?_
    rintro _ ⟨given, -, rfl⟩
    exact update_writes _ _

theorem job_edits (order : Order) : Edits order.job.process := by
  cases order with
  | create kind item =>
      refine answered_edits _ ?_
      rw [creating, process_bind]
      exact Concurrent.names_edits (item_names item) fun given _ =>
        and_then_edits (create_edits kind given.name given.version given.encode) fun _ => ⟨_, rfl⟩
  | fetch place => exact answered_edits _ (and_then_edits (stored_edits _) fun _ => ⟨_, rfl⟩)
  | delete place => exact answered_edits _ (and_then_edits (stored_edits _) fun _ => ⟨_, rfl⟩)
  | add name version entry => exact answered_edits _ (fetching_edits fun group => add_edits group entry _)
  | remove name version entryId =>
      refine answered_edits _ (fetching_edits fun group => ?_)
      by_cases present : group.hasEntry entryId = true
      · rw [if_pos present]
        exact .inr (update_writes _ _)
      · rw [if_neg present]
        exact .inl ⟨_, rfl⟩
  | list name version filter => exact answered_edits _ (fetching_edits fun group => .inl ⟨_, rfl⟩)
  | discard name version filter => exact answered_edits _ (fetching_edits fun group => .inr (update_writes _ _))

end Shapes

def groupIn (memory : Memory) (name version : String) : Option Group :=
  (memory.get? (Kind.group.key name version)).bind fun bytes => (Group.decoder.whole bytes).toOption

-- What lies under the key of a group is a group of that name and version.
def Filed (memory : Memory) : Prop :=
  ∀ name version bytes, checkPath name version = .ok () → memory.get? (Kind.group.key name version) = some bytes →
    ∃ group, Group.decoder.whole bytes = .ok group ∧ group.name = name ∧ group.version = version

-- What an order does to the group that it names, and how it is answered.
inductive Turn (name version : String) : Order → Option Group → Response → Option Group → Prop where
  | created {group given : Group} (named : given.name = group.name ∧ given.version = group.version) :
      Turn name version (.create .group group) none (.json 201 given.encode) (some given)
  | told {group : Group} :
      Turn name version (.fetch ⟨.group, name, version⟩) (some group) (.json 200 group.encode) (some group)
  | listed {filter : LabelFilter} {group : Group} :
      Turn name version (.list name version filter) (some group) (writeEntries (group.select filter)) (some group)
  | deleted {group : Group} : Turn name version (.delete ⟨.group, name, version⟩) (some group) (.empty 204) none
  | added {entry given : Entry} {group : Group} (named : entry.Named given) :
      Turn name version (.add name version entry) (some group) (writeGroup 200 (group.append given))
        (some (group.append given))
  | removed {entryId : String} {group : Group} :
      Turn name version (.remove name version entryId) (some group) (writeGroup 200 (group.remove entryId))
        (some (group.remove entryId))
  | discarded {filter : LabelFilter} {group : Group} :
      Turn name version (.discard name version filter) (some group) (writeDeleted (group.select filter).length)
        (some (group.discard filter))
  | refused {order : Order} {found : Option Group} {response : Response} (refusal : 400 ≤ response.status) :
      Turn name version order found response found

structure Turned (order : Order) (memory : Memory) (response : Response) (after : Memory) : Prop where
  filed : Filed after
  own : ∀ name version, order.place = ⟨.group, name, version⟩ →
    Turn name version order (groupIn memory name version) response (groupIn after name version)
  others : ∀ name version, order.place ≠ ⟨.group, name, version⟩ →
    groupIn after name version = groupIn memory name version

section Memories

variable {memory : Memory} {order : Order} {response : Response} {name version : String} {group : Group}

theorem failure_refuses (failure : ServiceFailure) : 400 ≤ failure.response.status := by
  cases failure <;> simp [ServiceFailure.response, ServiceFailure.status, Response.json]

theorem filed_group (filed : Filed memory) (path : checkPath name version = .ok ())
    (found : groupIn memory name version = some group) : group.name = name ∧ group.version = version := by
  obtain ⟨bytes, lies, read⟩ := Option.bind_eq_some_iff.mp found
  obtain ⟨group', decodes, names⟩ := filed name version bytes path lies
  rw [decodes] at read
  cases read
  exact names

theorem group_in_stored (lies : memory.get? (Kind.group.key name version) = some group.encode) :
    groupIn memory name version = some group := by
  rw [groupIn, lies, Option.bind_some, Group.decode_encode]
  rfl

theorem kept_turned (filed : Filed memory)
    (turn : ∀ name version, order.place = ⟨.group, name, version⟩ →
      Turn name version order (groupIn memory name version) response (groupIn memory name version)) :
    Turned order memory response memory := ⟨filed, turn, fun _ _ _ => rfl⟩

theorem refused_turned (filed : Filed memory) (refusal : 400 ≤ response.status) :
    Turned order memory response memory := kept_turned filed fun _ _ _ => .refused refusal

theorem other_group {changed : Memory} (sound : order.Sound)
    (elsewhere : ∀ key, order.place.key ≠ key → changed.get? key = memory.get? key)
    (apart : order.place ≠ ⟨.group, name, version⟩) :
    changed.get? (Kind.group.key name version) = memory.get? (Kind.group.key name version) :=
  elsewhere _ fun same => apart (place_key_injective sound (same : order.place.key = Place.key ⟨.group, name, version⟩))

-- A change in one place turns the group there, if it is the place of a group.
theorem changed_turned {changed : Memory} (filed : Filed memory) (sound : order.Sound)
    (elsewhere : ∀ key, order.place.key ≠ key → changed.get? key = memory.get? key)
    (own : ∀ name version, order.place = ⟨.group, name, version⟩ →
      (∀ bytes, changed.get? (Kind.group.key name version) = some bytes →
        ∃ group, Group.decoder.whole bytes = .ok group ∧ group.name = name ∧ group.version = version) ∧
      Turn name version order (groupIn memory name version) response (groupIn changed name version)) :
    Turned order memory response changed where
  filed name version bytes path lies := by
    by_cases same : order.place = ⟨.group, name, version⟩
    · exact (own name version same).1 bytes lies
    · rw [other_group sound elsewhere same] at lies
      exact filed name version bytes path lies
  own name version same := (own name version same).2
  others name version apart := by
    rw [groupIn, groupIn, other_group sound elsewhere apart]

theorem put_turned (filed : Filed memory) (sound : order.Sound)
    (place : order.place = ⟨.group, group.name, group.version⟩)
    (turn : Turn group.name group.version order (groupIn memory group.name group.version) response (some group)) :
    Turned order memory response (memory.insert (Kind.group.key group.name group.version) group.encode) := by
  have key : order.place.key = Kind.group.key group.name group.version := by
    rw [place]
    rfl
  refine changed_turned filed sound ?_ ?_
  · exact fun other apart => Memory.get_perform_other memory (.put _ group.encode) (key ▸ apart)
  · intro name version same
    obtain ⟨rfl, rfl⟩ : group.name = name ∧ group.version = version := by
      rw [place] at same
      cases same
      exact ⟨rfl, rfl⟩
    have lies := KeyMap.get_insert memory (Kind.group.key group.name group.version) group.encode
      (Kind.group.key group.name group.version)
    rw [if_pos rfl] at lies
    refine ⟨fun bytes found => ?_, ?_⟩
    · cases lies.symm.trans found
      exact ⟨group, Group.decode_encode group, rfl, rfl⟩
    · rw [group_in_stored lies]
      exact turn

theorem aside_turned {changed : Memory} (filed : Filed memory) (sound : order.Sound)
    (aside : order.place.kind = .configuration)
    (elsewhere : ∀ key, order.place.key ≠ key → changed.get? key = memory.get? key) :
    Turned order memory response changed := by
  refine changed_turned filed sound elsewhere fun name version same => ?_
  rw [same] at aside
  cases aside

end Memories

section Serving

variable {α β : Type} {memory after : Memory} {order : Order} {response : Response} {name version : String}
  {group : Group}

theorem stored_serves {call : Call} {ending : Except String (Except ServiceFailure call.Answer)}
    (serves : Serves (Job.stored call).process memory ending after) :
    ending = .ok (.ok (memory.perform call).1) ∧ after = (memory.perform call).2 := by
  rw [Job.stored, Job.process, Job.host] at serves
  exact serves

theorem and_then_serves {job : Job (Except ServiceFailure α)} {next : α → Job (Except ServiceFailure β)}
    {result : Except ServiceFailure β} (serves : Serves (job.andThen next).process memory (.ok result) after) :
    (∃ failure, Serves job.process memory (.ok (.error failure)) after ∧ result = .error failure) ∨
      ∃ value between, Serves job.process memory (.ok (.ok value)) between ∧
        Serves (next value).process between (.ok result) after := by
  rw [Job.andThen, process_bind] at serves
  obtain ⟨first, between, goes, rest⟩ := serves_then serves
  cases first with
  | ok value => exact .inr ⟨value, between, goes, rest⟩
  | error failure =>
      obtain ⟨same, rfl⟩ := rest
      cases same
      exact .inl ⟨failure, goes, rfl⟩

theorem answered_serves {write : α → Response} {job : Job (Except ServiceFailure α)}
    (serves : Serves (answered write job).process memory (.ok response) after) :
    ∃ result, Serves job.process memory (.ok result) after ∧ response = Library.shown write result := by
  rw [answered, process_bind] at serves
  obtain ⟨result, between, goes, rest⟩ := serves_then serves
  cases result with
  | ok value =>
      obtain ⟨same, rfl⟩ := rest
      cases same
      exact ⟨_, goes, rfl⟩
  | error failure =>
      obtain ⟨same, rfl⟩ := rest
      cases same
      exact ⟨_, goes, rfl⟩

theorem update_serves {value : α} {result : Except ServiceFailure α}
    (serves : Serves (group.update.andThen fun _ => .done (.ok value)).process memory (.ok result) after) :
    result = .ok value ∧ after = memory.insert (Kind.group.key group.name group.version) group.encode := by
  rw [update_process] at serves
  obtain ⟨same, rfl⟩ := serves
  cases same
  exact ⟨rfl, rfl⟩

theorem stored_then_serves {call : Call} {next : call.Answer → Job (Except ServiceFailure β)}
    {result : Except ServiceFailure β}
    (serves : Serves ((Job.stored call).andThen next).process memory (.ok result) after) :
    Serves (next (memory.perform call).1).process (memory.perform call).2 (.ok result) after := by
  rcases and_then_serves serves with ⟨failure, goes, -⟩ | ⟨value, between, goes, rest⟩
  · cases (stored_serves goes).1
  · obtain ⟨same, rfl⟩ := stored_serves goes
    cases same
    exact rest

theorem create_serves {kind : Kind} {bytes : Bytes} {result : Except ServiceFailure Unit}
    (serves : Serves (kind.create name version bytes).process memory (.ok result) after) :
    (∃ failure, result = .error failure ∧ after = memory) ∨
      result = .ok () ∧ memory.get? (kind.key name version) = none ∧
        after = memory.insert (kind.key name version) bytes := by
  obtain ⟨same, rfl⟩ := stored_then_serves serves
  rw [Except.ok.injEq] at same
  cases lies : memory.get? (kind.key name version) with
  | none =>
      rw [Library.create_absent lies] at same ⊢
      exact .inr ⟨same, rfl, rfl⟩
  | some found =>
      rw [Library.create_present lies] at same ⊢
      exact .inl ⟨_, same, rfl⟩

theorem delete_serves {kind : Kind} {result : Except ServiceFailure Unit}
    (serves : Serves (kind.delete name version).process memory (.ok result) after) :
    (∃ failure, result = .error failure ∧ after = memory) ∨
      ∃ bytes, result = .ok () ∧ memory.get? (kind.key name version) = some bytes ∧
        after = memory.erase (kind.key name version) := by
  obtain ⟨same, rfl⟩ := stored_then_serves serves
  rw [Except.ok.injEq, Memory.perform, KeyMap.contains] at same
  cases lies : memory.get? (kind.key name version) with
  | none =>
      rw [lies] at same
      exact .inl ⟨_, same, Library.erase_absent lies⟩
  | some bytes =>
      rw [lies] at same
      exact .inr ⟨bytes, same, rfl, rfl⟩

theorem fetch_keeps {kind : Kind} {decoder : Json.Decoder α} {result : Except ServiceFailure α}
    (serves : Serves (kind.fetch decoder name version).process memory (.ok result) after) : after = memory :=
  (stored_then_serves serves).2

theorem fetch_serves {result : Except ServiceFailure Group}
    (serves : Serves (Group.fetch name version).process memory (.ok result) after) :
    after = memory ∧ ((∃ failure, result = .error failure) ∨
      ∃ group, groupIn memory name version = some group ∧ result = .ok group) := by
  obtain ⟨same, kept⟩ := stored_then_serves serves
  refine ⟨kept, ?_⟩
  have read : result = readGroup name version (memory.get? (Kind.group.key name version)) := by
    rw [Except.ok.inj same, Memory.perform]
    cases memory.get? (Kind.group.key name version) <;> rfl
  rw [read, groupIn]
  cases memory.get? (Kind.group.key name version) with
  | none => exact .inl ⟨_, rfl⟩
  | some bytes =>
      rw [readGroup, Option.bind_some]
      cases Group.decoder.whole bytes with
      | error failure => exact .inl ⟨_, rfl⟩
      | ok group => exact .inr ⟨group, rfl, rfl⟩

theorem fetching_serves {next : Group → Job (Except ServiceFailure α)} {result : Except ServiceFailure α}
    (serves : Serves ((Group.fetch name version).andThen next).process memory (.ok result) after) :
    (∃ failure, result = .error failure ∧ after = memory) ∨
      ∃ group, groupIn memory name version = some group ∧ Serves (next group).process memory (.ok result) after := by
  rcases and_then_serves serves with ⟨failure, goes, same⟩ | ⟨group, between, goes, rest⟩
  · exact .inl ⟨failure, same, (fetch_serves goes).1⟩
  · obtain ⟨rfl, ⟨failure, same⟩ | ⟨group', found, same⟩⟩ := fetch_serves goes
    · cases same
    · cases same
      exact .inr ⟨group, found, rest⟩

-- The ids are given first, and the name stays as it is: what is made lies where the order names it.
theorem create_turned {kind : Kind} {item : Item kind} (filed : Filed memory) (sound : (Order.create kind item).Sound)
    (serves : Serves (Order.create kind item).job.process memory (.ok response) after) :
    Turned (.create kind item) memory response after := by
  obtain ⟨result, creates, rfl⟩ := answered_serves serves
  rw [creating, process_bind] at creates
  obtain ⟨given, between, names, writes⟩ := serves_then creates
  obtain ⟨_, same, ⟨named, numbered⟩, rfl⟩ := names_serves (item_names item) names
  cases same
  rcases and_then_serves writes with ⟨failure, fails, rfl⟩ | ⟨_, later, succeeds, rest⟩
  · rcases create_serves fails with ⟨_, _, rfl⟩ | ⟨same, -⟩
    · exact refused_turned filed (failure_refuses failure)
    · cases same
  · rcases create_serves succeeds with ⟨_, same, -⟩ | ⟨-, absent, rfl⟩
    · cases same
    · obtain ⟨same, rfl⟩ := rest
      cases same
      cases kind with
      | configuration =>
          refine aside_turned filed sound rfl fun key apart => ?_
          refine Memory.get_perform_other between (.put _ _) ?_
          rw [Call.key, named, numbered]
          exact apart
      | group =>
          have missing : groupIn between (Group.name given) (Group.version given) = none := by
            rw [groupIn, show between.get? (Kind.group.key (Group.name given) (Group.version given)) = none from absent,
              Option.bind_none]
          have turn : Turn (Group.name given) (Group.version given) (.create .group item)
              (groupIn between (Group.name given) (Group.version given)) (.json 201 (Group.encode given))
              (some given) := by
            rw [missing]
            exact .created ⟨named, numbered⟩
          refine put_turned filed sound ?_ turn
          exact congrArg₂ (Place.mk .group) named.symm numbered.symm

theorem delete_turned {place : Place} (filed : Filed memory) (sound : (Order.delete place).Sound)
    (serves : Serves (Order.delete place).job.process memory (.ok response) after) :
    Turned (.delete place) memory response after := by
  obtain ⟨result, deletes, rfl⟩ := answered_serves serves
  rcases delete_serves deletes with ⟨failure, rfl, rfl⟩ | ⟨bytes, rfl, lies, rfl⟩
  · exact refused_turned filed (failure_refuses failure)
  · have elsewhere (key : String) (apart : place.key ≠ key) : (memory.erase place.key).get? key = memory.get? key :=
      Memory.get_perform_other memory (.delete _) apart
    refine changed_turned filed sound elsewhere fun name version same => ?_
    obtain rfl : place = ⟨.group, name, version⟩ := same
    have gone : (memory.erase (Kind.group.key name version)).get? (Kind.group.key name version) = none := by
      rw [KeyMap.get_erase, if_pos rfl]
    obtain ⟨group, read, -⟩ := filed name version bytes sound lies
    have found : groupIn memory name version = some group := by
      rw [groupIn, lies, Option.bind_some, read]
      rfl
    have none : groupIn (memory.erase (Kind.group.key name version)) name version = none := by
      rw [groupIn, gone, Option.bind_none]
    refine ⟨fun bytes lies => absurd (gone.symm.trans lies) (Option.some_ne_none bytes).symm, ?_⟩
    rw [found]
    change Turn name version _ _ _ (groupIn (memory.erase (Kind.group.key name version)) name version)
    rw [none]
    exact .deleted

theorem fetch_turned {place : Place} (filed : Filed memory) (sound : (Order.fetch place).Sound)
    (serves : Serves (Order.fetch place).job.process memory (.ok response) after) :
    Turned (.fetch place) memory response after := by
  obtain ⟨result, reads, rfl⟩ := answered_serves serves
  obtain ⟨kind, name, version⟩ := place
  obtain rfl := fetch_keeps reads
  cases kind with
  | configuration => exact aside_turned filed sound rfl fun _ _ => rfl
  | group =>
      obtain ⟨-, ⟨failure, rfl⟩ | ⟨group, found, rfl⟩⟩ := fetch_serves reads
      · exact refused_turned filed (failure_refuses failure)
      · refine kept_turned filed fun name' version' same => ?_
        cases same
        rw [found]
        exact .told

-- An edit of a group that was found there.
theorem edit_turned {name version : String} {write : α → Response} {next : Group → Job (Except ServiceFailure α)}
    (filed : Filed memory) (place : order.place = ⟨.group, name, version⟩) (sound : order.Sound)
    (job : order.job = answered write ((Group.fetch name version).andThen next))
    (serves : Serves order.job.process memory (.ok response) after)
    (edits : ∀ group result, groupIn memory name version = some group → group.name = name → group.version = version →
      Serves (next group).process memory (.ok result) after →
        (∃ failure, result = .error failure ∧ after = memory) ∨
          (after = memory ∧ Turn name version order (some group) (Library.shown write result) (some group)) ∨
          ∃ changed : Group, changed.name = name ∧ changed.version = version ∧
            after = memory.insert (Kind.group.key changed.name changed.version) changed.encode ∧
              Turn name version order (some group) (Library.shown write result) (some changed)) :
    Turned order memory response after := by
  rw [job] at serves
  obtain ⟨result, goes, rfl⟩ := answered_serves serves
  rcases fetching_serves goes with ⟨failure, rfl, rfl⟩ | ⟨group, found, goes⟩
  · exact refused_turned filed (failure_refuses failure)
  · have path : checkPath name version = .ok () := by
      rw [Order.Sound, place] at sound
      exact sound
    obtain ⟨named, numbered⟩ := filed_group filed path found
    rcases edits group result found named numbered goes with
      ⟨failure, rfl, rfl⟩ | ⟨rfl, turn⟩ | ⟨changed, rfl, rfl, rfl, turn⟩
    · exact refused_turned filed (failure_refuses failure)
    · refine kept_turned filed fun name' version' same => ?_
      cases place.symm.trans same
      rw [found]
      exact turn
    · refine put_turned filed sound place ?_
      rw [found]
      exact turn

theorem add_turned {entry : Entry} (filed : Filed memory) (sound : (Order.add name version entry).Sound)
    (serves : Serves (Order.add name version entry).job.process memory (.ok response) after) :
    Turned (.add name version entry) memory response after := by
  refine edit_turned filed rfl sound rfl serves fun group result found named numbered goes => ?_
  by_cases held : group.holds entry.configuration.name entry.configuration.version = true
  · rw [Group.add, if_pos held] at goes
    obtain ⟨same, rfl⟩ := goes
    cases same
    exact .inl ⟨_, rfl, rfl⟩
  · rw [Group.add, if_neg held, process_bind] at goes
    obtain ⟨longer, between, names, writes⟩ := serves_then goes
    obtain ⟨_, same, ⟨given, proper, rfl⟩, rfl⟩ := names_serves (lengthened_names group entry) names
    cases same
    obtain ⟨rfl, rfl⟩ := update_serves writes
    exact .inr (.inr ⟨group.append given, named, numbered, rfl, .added proper⟩)

theorem remove_turned {entryId : String} (filed : Filed memory) (sound : (Order.remove name version entryId).Sound)
    (serves : Serves (Order.remove name version entryId).job.process memory (.ok response) after) :
    Turned (.remove name version entryId) memory response after := by
  refine edit_turned filed rfl sound rfl serves fun group result found named numbered goes => ?_
  by_cases present : group.hasEntry entryId = true
  · rw [if_pos present] at goes
    obtain ⟨rfl, rfl⟩ := update_serves goes
    exact .inr (.inr ⟨group.remove entryId, named, numbered, rfl, .removed⟩)
  · rw [if_neg present] at goes
    obtain ⟨same, rfl⟩ := goes
    cases same
    exact .inl ⟨_, rfl, rfl⟩

theorem list_turned {filter : LabelFilter} (filed : Filed memory) (sound : (Order.list name version filter).Sound)
    (serves : Serves (Order.list name version filter).job.process memory (.ok response) after) :
    Turned (.list name version filter) memory response after := by
  refine edit_turned filed rfl sound rfl serves fun group result found named numbered goes => ?_
  obtain ⟨same, rfl⟩ := goes
  cases same
  exact .inr (.inl ⟨rfl, .listed⟩)

theorem discard_turned {filter : LabelFilter} (filed : Filed memory) (sound : (Order.discard name version filter).Sound)
    (serves : Serves (Order.discard name version filter).job.process memory (.ok response) after) :
    Turned (.discard name version filter) memory response after := by
  refine edit_turned filed rfl sound rfl serves fun group result found named numbered goes => ?_
  obtain ⟨rfl, rfl⟩ := update_serves goes
  exact .inr (.inr ⟨group.discard filter, named, numbered, rfl, .discarded⟩)

theorem job_turned (filed : Filed memory) (sound : order.Sound)
    (serves : Serves order.job.process memory (.ok response) after) : Turned order memory response after := by
  cases order with
  | create kind item => exact create_turned filed sound serves
  | fetch place => exact fetch_turned filed sound serves
  | delete place => exact delete_turned filed sound serves
  | add name version entry => exact add_turned filed sound serves
  | remove name version entryId => exact remove_turned filed sound serves
  | list name version filter => exact list_turned filed sound serves
  | discard name version filter => exact discard_turned filed sound serves

end Serving
end ConfigRegistry
