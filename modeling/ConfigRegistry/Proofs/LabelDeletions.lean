import ConfigRegistry.Proofs.LabelGrammar
import ConfigRegistry.Proofs.Persistence
import ConfigRegistry.Proofs.Queries
import ConfigRegistry.Proofs.Spelling

set_option autoImplicit false

/-!
Listing and deleting entries by their labels. Main statement: what is deleted by a filter are the entries that are
listed by it, the others stay as they are and in order, and nothing is deleted where the filter would pass everything.
-/
namespace ConfigRegistry

open Catalog
open Catalog.LabelFilter (LastTells WellFormed segments)
open Http (Request Response)
open Json.Value (bind_ok)
open Service
open Solitary (Scene playJob)
open Store (Memory)
open Text (Blank)
open Work (Job)

namespace Catalog

section Filters

variable {labels : Option String} {filter : LabelFilter} {failure : ServiceFailure} {entry : Entry}
  {key value : String}

-- No filter to delete by: the text is missing, or a part of it is malformed, or it is nothing but blanks.
def Unfiltered : Option String → Prop
  | none => True
  | some text =>
      (∃ segment ∈ segments text, ¬ Blank segment ∧ ¬ WellFormed segment) ∨ ∀ segment ∈ segments text, Blank segment

-- What the labels of a request say of a key.
def Told (labels : Option String) (key value : String) : Prop :=
  ∃ text, labels = some text ∧ LastTells (segments text) key value

theorem carries_iff : entry.carries filter = true ↔
    ∀ key value, filter.get? key = some value → entry.labels.get? key = some value := by
  rw [Entry.carries, List.all_eq_true]
  constructor
  · intro carries key value found
    exact beq_iff_eq.mp (carries (key, value) (KeyMap.get_iff_mem.mp found))
  · intro carries label among
    exact beq_iff_eq.mpr (carries label.1 label.2 (KeyMap.get_iff_mem.mpr among))

theorem parse_told (read : LabelFilter.parse labels = .ok filter) :
    filter.get? key = some value ↔ Told labels key value := by
  cases labels with
  | none =>
      cases read
      simp [Told]
  | some text =>
      rw [LabelFilter.parse_segments] at read
      rw [(LabelFilter.pairs_told read).2]
      simp [Told]

theorem parse_refused (read : LabelFilter.parse labels = .error failure) : failure.status = 400 := by
  cases labels with
  | none => cases read
  | some text =>
      rw [LabelFilter.parse_segments] at read
      obtain ⟨-, segment, -, -, -, -, offends⟩ := LabelFilter.pairs_refused.mp read
      cases offends <;> rfl

theorem unfiltered_iff :
    Unfiltered labels ↔ ∀ filter, LabelFilter.parse labels = .ok filter → filter.isEmpty = true := by
  cases labels with
  | none => exact ⟨fun _ filter read => by cases read; rfl, fun _ => trivial⟩
  | some text =>
      rw [Unfiltered, LabelFilter.parse_segments]
      constructor
      · rintro (⟨segment, among, filled, malformed⟩ | blank) filter read
        · exact absurd ((LabelFilter.pairs_told read).1 segment among filled) malformed
        · rw [LabelFilter.pieces_none blank] at read
          cases read
          rfl
      · intro empty
        by_cases formed : ∀ segment ∈ segments text, ¬ Blank segment → WellFormed segment
        · obtain ⟨filter, read⟩ := LabelFilter.pairs_read formed
          refine .inr fun segment among => Classical.byContradiction fun filled => ?_
          obtain ⟨key, value, tells⟩ := LabelFilter.well_formed_iff.mp (formed segment among filled)
          obtain ⟨last, told⟩ := LabelFilter.last_told ⟨segment, among, value, tells⟩
          have listed := KeyMap.get_iff_mem.mp (((LabelFilter.pairs_told read).2 key last).mpr (.inl told))
          rw [List.isEmpty_iff.mp (empty filter read)] at listed
          cases listed
        · push Not at formed
          exact .inl formed

end Filters

end Catalog

namespace Library

-- A job that comes to an answer over a store and leaves one behind, whatever ids it is given.
def Gives (job : Job Response) (memory : Memory) (response : Response) (left : Memory) : Prop :=
  ∀ scene : Scene, scene.memory = memory →
    ∃ after, playJob job scene = some (.ok response, after) ∧ after.memory = left

section Handlers

variable {memory : Memory} {bytes : Bytes} {group : Group} {response : Response}

theorem refusal_gives (response : Response) (memory : Memory) : Gives (.done response) memory response memory :=
  fun scene same => ⟨scene, rfl, same⟩

section Groups

variable {name version : String} (reads : Group.decoder.whole bytes = .ok group)
  (lies : memory.get? (Kind.group.key name version) = some bytes)

include reads lies

theorem list_gives (filter : LabelFilter) :
    Gives (Order.list name version filter).job memory (writeEntries (group.select filter)) memory := by
  rintro scene rfl
  obtain ⟨last, found, same⟩ := fetch_finds reads lies
  have lists : playJob ((Group.fetch name version).andThen fun group => .done (.ok (group.select filter))) scene =
      some (.ok (.ok (group.select filter)), last) := play_and_then found
  exact ⟨last, play_answered writeEntries lists, same⟩

theorem discard_gives (filter : LabelFilter) :
    Gives (Order.discard name version filter).job memory (writeDeleted (group.select filter).length)
      (memory.insert (Kind.group.key group.name group.version) (group.discard filter).encode) := by
  rintro scene rfl
  obtain ⟨last, found, same⟩ := fetch_finds reads lies
  let call : Store.Call := .put (Kind.group.key group.name group.version) (group.discard filter).encode
  have puts : playJob (group.discard filter).update last = some (.ok (.ok ()), last.called call) :=
    play_stored call last
  have discards : playJob ((Group.fetch name version).andThen fun group =>
      (group.discard filter).update.andThen fun _ => .done (.ok (group.select filter).length)) scene =
        some (.ok (.ok (group.select filter).length), last.called call) :=
    (play_and_then found).trans (play_and_then puts)
  exact ⟨last.called call, play_answered writeDeleted discards, congrArg (KeyMap.insert · _ _) same⟩

end Groups

section Requests

variable {name version : Bytes} {query : Option Bytes} {labels : Option String} {filter : LabelFilter}
  {failure : ServiceFailure} {kind : Kind} {place : Place}

theorem refused_ok {α : Type} {check : Except ServiceFailure α} {value : α}
    (passed : Order.refused check = .ok value) : check = .ok value := by
  cases check with
  | error failure => cases passed
  | ok other =>
      cases passed
      rfl

theorem place_named (leads : Order.placeOf kind name version = .ok place) :
    Order.namesOf name version = .ok (place.name, place.version) ∧ checkPath place.name place.version = .ok () ∧
      place.kind = kind := by
  rw [Order.placeOf] at leads
  obtain ⟨names, named, leads⟩ := bind_ok leads
  obtain ⟨_, allowed, leads⟩ := bind_ok leads
  cases leads
  exact ⟨named, refused_ok allowed, rfl⟩

section Labelled

variable (leads : Order.placeOf .group name version = .ok ⟨.group, group.name, group.version⟩)
  (asks : Order.labelsOf query = .ok labels)

include leads asks

theorem labels_lead : Order.labelled name version query = (do
    let filter ← Order.refused (LabelFilter.parse labels)
    return (⟨.group, group.name, group.version⟩, filter)) := by
  obtain ⟨named, path, -⟩ := place_named leads
  rw [Order.labelled, named, asks]
  change (Order.refused (checkPath group.name group.version) >>= _) = _
  rw [path]
  rfl

theorem deletion_demands (request : Request) :
    mutate request query (.entries name version) = Order.handler (do
      let filter ← Order.refused (LabelFilter.parse labels)
      if filter.isEmpty then throw (ServiceFailure.badRequest "labels query param is required").response
      return .discard group.name group.version filter) := by
  rw [(Order.mutate_means request query (.entries name version)).does, Order.ofChange, labels_lead leads asks]
  cases LabelFilter.parse labels <;> rfl

theorem deletion_discards (request : Request) (read : LabelFilter.parse labels = .ok filter)
    (filled : filter.isEmpty = false) :
    mutate request query (.entries name version) = (Order.discard group.name group.version filter).job := by
  rw [deletion_demands leads asks request, read]
  change Order.handler (if KeyMap.isEmpty filter = true then _ else _) = _
  rw [if_neg (by simp [filled])]
  rfl

theorem listing_lists (clock : Clock) (read : LabelFilter.parse labels = .ok filter) :
    inspect clock query (.entries name version) = (Order.list group.name group.version filter).job := by
  have items : Route.entries name version ≠ .health := nofun
  rw [(Order.inspect_means clock query items).does, Order.ofLook, labels_lead leads asks, read]
  rfl

theorem deletion_refused (request : Request) (memory : Memory) (unfiltered : Unfiltered labels) : ∃ response,
    Gives (mutate request query (.entries name version)) memory response memory ∧ response.status = 400 := by
  rw [deletion_demands leads asks request]
  cases read : LabelFilter.parse labels with
  | error failure => exact ⟨failure.response, refusal_gives _ memory, parse_refused read⟩
  | ok filter =>
      change ∃ response,
        Gives (Order.handler (if KeyMap.isEmpty filter = true then _ else _)) memory response memory ∧ _
      rw [if_pos (unfiltered_iff.mp unfiltered filter read)]
      exact ⟨(ServiceFailure.badRequest "labels query param is required").response, refusal_gives _ memory, rfl⟩

section Stored

variable (lies : memory.get? (Kind.group.key group.name group.version) = some bytes)
  (reads : Group.decoder.whole bytes = .ok group)

include lies reads

theorem deletion_gives (request : Request) (read : LabelFilter.parse labels = .ok filter)
    (filled : filter.isEmpty = false) :
    Gives (mutate request query (.entries name version)) memory (writeDeleted (group.select filter).length)
      (memory.insert (Kind.group.key group.name group.version) (group.discard filter).encode) := by
  rw [deletion_discards leads asks request read filled]
  exact discard_gives reads lies filter

theorem listing_gives (clock : Clock) (read : LabelFilter.parse labels = .ok filter) :
    Gives (inspect clock query (.entries name version)) memory (writeEntries (group.select filter)) memory := by
  rw [listing_lists leads asks clock read]
  exact list_gives reads lies filter

end Stored
end Labelled
end Requests

end Handlers

section Deletions

variable {memory : Memory} {bytes : Bytes} {group : Group} {name version : Bytes} {query look : Option Bytes}
  {labels : Option String}

theorem select_discard (group : Group) (filter : LabelFilter) : (group.discard filter).select filter = [] := by
  simp [Group.select, Group.discard]

theorem select_passing {filter : LabelFilter} (group : Group) (empty : filter.isEmpty = true) :
    group.select filter = group.entries := by
  rw [Group.select, List.filter_eq_self]
  intro entry among
  rw [Entry.carries, List.isEmpty_iff.mp empty]
  rfl

theorem label_deletion (request : Request) (clock : Clock)
    (leads : Order.placeOf .group name version = .ok ⟨.group, group.name, group.version⟩)
    (lies : memory.get? (Kind.group.key group.name group.version) = some bytes)
    (reads : Group.decoder.whole bytes = .ok group)
    (asks : Order.labelsOf query = .ok labels) (looks : Order.labelsOf look = .ok labels) :
    (Unfiltered labels → ∃ response,
      Gives (mutate request query (.entries name version)) memory response memory ∧ response.status = 400) ∧
    (∀ filter, LabelFilter.parse labels = .ok filter →
      (∀ entry : Entry, entry.carries filter = true ↔
        ∀ key value, Told labels key value → entry.labels.get? key = some value) ∧
      Gives (inspect clock look (.entries name version)) memory
        (writeEntries (group.entries.filter fun entry => entry.carries filter)) memory ∧
      (filter.isEmpty = true →
        Gives (inspect clock look (.entries name version)) memory (writeEntries group.entries) memory)) ∧
    (¬ Unfiltered labels → ∃ filter, LabelFilter.parse labels = .ok filter ∧
      let chosen := group.entries.filter fun entry => entry.carries filter
      let others := group.entries.filter fun entry => !entry.carries filter
      let fewer : Group := { group with entries := others }
      let left := memory.insert (Kind.group.key group.name group.version) fewer.encode
      Gives (inspect clock look (.entries name version)) memory (writeEntries chosen) memory ∧
        Gives (mutate request query (.entries name version)) memory (writeDeleted chosen.length) left ∧
        Gives (inspect clock look (.entries name version)) left (writeEntries []) left) := by
  refine ⟨deletion_refused leads asks request memory, fun filter read => ⟨fun entry => ?_, ?_, fun empty => ?_⟩, ?_⟩
  · rw [carries_iff]
    simp only [parse_told read]
  · exact listing_gives leads looks lies reads clock read
  · rw [← select_passing group empty]
    exact listing_gives leads looks lies reads clock read
  · intro filtered
    rw [unfiltered_iff] at filtered
    push Not at filtered
    obtain ⟨filter, read, filled⟩ := filtered
    refine ⟨filter, read, ?_⟩
    intro chosen others fewer left
    have filed : left.get? (Kind.group.key group.name group.version) = some (group.discard filter).encode := by
      rw [KeyMap.get_insert, if_pos rfl]
      rfl
    refine ⟨listing_gives leads looks lies reads clock read, ?_, ?_⟩
    · exact deletion_gives leads asks lies reads request read (Bool.eq_false_of_not_eq_true filled)
    · rw [listing_lists leads looks clock read, ← select_discard group filter]
      exact list_gives (Group.decode_encode _) filed filter

def twoTiers : Group where
  name := "web"
  version := "1"
  entries :=
    [{ id := "a", configuration := { name := "app", version := "1" }, labels := .ofList [("env", "prod")] },
      { id := "b", configuration := { name := "app", version := "2" }, labels := .ofList [("env", "dev")] }]

def tiersStored : Memory := .insert .empty "groups/web/1" twoTiers.encode

theorem tiers_lie : tiersStored.get? "groups/web/1" = some twoTiers.encode := rfl

theorem tiers_path :
    Order.placeOf .group (Text.toBytes "web") (Text.toBytes "1") = .ok ⟨.group, twoTiers.name, twoTiers.version⟩ := by
  let place : Place := ⟨.group, "web", "1"⟩
  have sound : checkPath place.name place.version = .ok () := by decide
  exact place_of_path sound

def prodDeletion : Request where
  method := "DELETE"
  target := Text.toBytes "/groups/web/versions/1/configs?" ++ Text.labelsQuery " env: prod ;"

-- A text with blanks around its one label: the first of the two entries goes.
theorem label_deletion_of_prod :
    Gives (mutate prodDeletion (some (Text.labelsQuery " env: prod ;"))
        (.entries (Text.toBytes "web") (Text.toBytes "1"))) tiersStored (writeDeleted 1)
      (tiersStored.insert "groups/web/1" { twoTiers with entries := twoTiers.entries.drop 1 : Group }.encode) := by
  have asks := Order.labels_of_query " env: prod ;"
  have read : LabelFilter.parse (some " env: prod ;") = .ok (.ofList [("env", "prod")]) := by decide
  have filtered : ¬ Unfiltered (some " env: prod ;") := fun unfiltered => nomatch unfiltered_iff.mp unfiltered _ read
  have stored := Group.decode_encode twoTiers
  obtain ⟨filter, read', -, deletes, -⟩ :=
    (label_deletion prodDeletion ⟨0, 0, 0⟩ tiers_path tiers_lie stored asks asks).2.2 filtered
  cases read.symm.trans read'
  exact deletes

end Deletions

end Library
end ConfigRegistry
