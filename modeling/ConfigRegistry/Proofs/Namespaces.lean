import Mathlib.Data.List.Basic
import ConfigRegistry.Proofs.Visitors
import ConfigRegistry.Settings.Basic

set_option autoImplicit false

/-!
The keys of records beside the keys of items. Main statement: which namespaces of records meet an item's key, and
that in every run of a service whose namespace begins with no shelf of items, each call of the store is either one of
the desk for a record or one of a handler for an item.
-/
namespace ConfigRegistry.Concurrent

open Store (Call Outcome)
open Work (Job Process Settlement)
open Session (Product)
open Catalog (Kind checkPath checkIdentifier isIdentifier)
open Http (Request Target)
open Throttle (Gate Amount)
open Dedup
open Service

section Keys

-- A list that is cut at a mark, held against one whose first part has no such mark.
theorem cut_at_mark {α : Type} {mark : α} {left first right second : List α} (plain : mark ∉ first) :
    left ++ mark :: right = first ++ mark :: second ↔
      (left = first ∧ right = second) ∨
        ∃ middle, left = first ++ mark :: middle ∧ second = middle ++ mark :: right := by
  constructor
  · intro same
    rcases List.append_eq_append_iff.mp same with ⟨gap, rfl, cut⟩ | ⟨gap, rfl, cut⟩
    · cases gap with
      | nil =>
          simp only [List.nil_append, List.cons.injEq, true_and] at cut
          exact .inl ⟨(List.append_nil left).symm, cut⟩
      | cons head gap =>
          simp only [List.cons_append, List.cons.injEq] at cut
          exact absurd (by simp [← cut.1]) plain
    · cases gap with
      | nil =>
          simp only [List.nil_append, List.cons.injEq, true_and] at cut
          exact .inl ⟨List.append_nil first, cut.symm⟩
      | cons head gap =>
          simp only [List.cons_append, List.cons.injEq] at cut
          exact .inr ⟨gap, by rw [cut.1], cut.2⟩
  · rintro (⟨rfl, rfl⟩ | ⟨middle, rfl, rfl⟩)
    · rfl
    · simp

theorem identifier_plain {text : String} (valid : isIdentifier text = true) : '/' ∉ text.toList := by
  intro slash
  simp only [isIdentifier, Bool.and_eq_true, List.all_eq_true] at valid
  exact absurd (valid.2 '/' slash) (by decide)

theorem path_identifiers {name version : String} (path : checkPath name version = .ok ()) :
    isIdentifier name = true ∧ isIdentifier version = true := by
  rw [checkPath] at path
  by_cases sound : isIdentifier name = true
  · by_cases valid : isIdentifier version = true
    · exact ⟨sound, valid⟩
    · simp [checkIdentifier, sound, valid, bind, Except.bind] at path
  · simp [checkIdentifier, sound, bind, Except.bind] at path

theorem shelf_plain (kind : Kind) : '/' ∉ kind.shelf.toList := by cases kind <;> decide

theorem store_key_letters (desk : Desk) (key : String) :
    (desk.storeKey key).toList = desk.scope.toList ++ '/' :: key.toList := by
  simp [Desk.storeKey]

theorem item_key_letters (kind : Kind) (name version : String) :
    (kind.key name version).toList = kind.shelf.toList ++ '/' :: (name.toList ++ '/' :: version.toList) := by
  simp [Kind.key]

-- A record and an item share a key where the namespace of records is a shelf of items, or the place of all versions
-- of one item.
def Meets (scope key : String) (kind : Kind) (name version : String) : Prop :=
  (scope = kind.shelf ∧ key = name ++ "/" ++ version) ∨ (scope = kind.shelf ++ "/" ++ name ∧ key = version)

theorem store_key_item_iff (desk : Desk) (key : String) (kind : Kind) {name version : String}
    (path : checkPath name version = .ok ()) :
    desk.storeKey key = kind.key name version ↔ Meets desk.scope key kind name version := by
  obtain ⟨sound, valid⟩ := path_identifiers path
  constructor
  · intro same
    have letters := congrArg String.toList same
    rw [store_key_letters, item_key_letters, cut_at_mark (shelf_plain kind)] at letters
    rcases letters with ⟨scope, rest⟩ | ⟨middle, scope, rest⟩
    · exact .inl ⟨String.toList_inj.mp scope, String.toList_inj.mp (by simp [rest])⟩
    · rw [eq_comm, cut_at_mark (identifier_plain sound)] at rest
      rcases rest with ⟨rfl, rest⟩ | ⟨last, rfl, rest⟩
      · exact .inr ⟨String.toList_inj.mp (by simp [scope]), String.toList_inj.mp rest⟩
      · exact absurd (by simp [rest]) (identifier_plain valid)
  · rintro (⟨scope, rfl⟩ | ⟨scope, rfl⟩)
    · simp [Desk.storeKey, Kind.key, scope, String.append_assoc]
    · simp [Desk.storeKey, Kind.key, scope, String.append_assoc]

def firstSegment (key : String) : List Char := key.toList.takeWhile fun c => c ≠ '/'

-- The namespace of records begins with no shelf of items.
def Foreign (scope : String) : Prop := ∀ kind : Kind, firstSegment scope ≠ kind.shelf.toList

theorem first_segment_under {scope key : String} (under : Under scope key) : firstSegment key = firstSegment scope := by
  obtain ⟨rest, rfl⟩ := under
  simp only [firstSegment, String.toList_append, List.append_assoc]
  rw [List.takeWhile_append]
  split
  · rename_i whole
    have every := List.takeWhile_eq_self_iff.mp (List.IsPrefix.eq_of_length (List.takeWhile_prefix _) whole)
    rw [List.takeWhile_eq_self_iff.mpr every]
    simp
  · rfl

theorem first_segment_item (kind : Kind) (name version : String) :
    firstSegment (kind.key name version) = kind.shelf.toList := by
  have under : Under kind.shelf (kind.key name version) :=
    ⟨name ++ "/" ++ version, by simp [Kind.key, String.append_assoc]⟩
  rw [first_segment_under under]
  cases kind <;> decide

theorem foreign_item {scope key : String} (foreign : Foreign scope) (under : Under scope key) (kind : Kind)
    (name version : String) : key ≠ kind.key name version := by
  rintro rfl
  exact foreign kind ((first_segment_under under).symm.trans (first_segment_item kind name version))

end Keys

section Runs

variable {scope : String} {desk : Desk}

theorem record_under {desk : Desk} {key : String} {call : Call} (record : RecordCall (desk.storeKey key) call) :
    Under desk.scope call.key := by
  cases record <;> exact ⟨key, rfl⟩

theorem ping_not_under (scope : String) : ¬ Under scope Call.ping.key := by
  rintro ⟨rest, same⟩
  have letters := congrArg String.toList same
  simp [Call.key] at letters

theorem item_not_under (foreign : Foreign scope) {call : Call} (item : ItemCall call) : ¬ Under scope call.key := by
  rcases item with rfl | ⟨kind, name, version, same⟩
  · exact ping_not_under scope
  · intro under
    exact foreign_item foreign under kind name version same

theorem namespaces_apart (desk : Desk) :
    (∀ key kind name version, checkPath name version = .ok () →
        (desk.storeKey key = Kind.key kind name version ↔ Meets desk.scope key kind name version)) ∧
      (Foreign desk.scope →
        (∀ key kind name version, desk.storeKey key ≠ Kind.key kind name version) ∧
          ∀ (conduct : Conduct) (start world : World) (events : List Event),
            (∀ number, start.tasks number = none) → Run conduct (Visitor desk) start events world →
              ∀ number role call outcome, .called number role call outcome ∈ events →
                ((∃ key, RecordCall (desk.storeKey key) call) ∧
                    ∀ kind name version, call.key ≠ Kind.key kind name version) ∨
                  (ItemCall call ∧ ¬ Under desk.scope call.key)) := by
  refine ⟨fun key kind name version path => store_key_item_iff desk key kind path, fun foreign => ⟨?_, ?_⟩⟩
  · intro key kind name version
    exact foreign_item foreign ⟨key, rfl⟩ kind name version
  · intro conduct start world events idle run number role call outcome called
    obtain ⟨_, calls⟩ := run_abides visitor_abides idle run
    rcases calls number role call outcome called with ⟨key, record⟩ | item
    · exact .inl ⟨⟨key, record⟩, foreign_item foreign (record_under record)⟩
    · exact .inr ⟨item, item_not_under foreign item⟩

end Runs

-- Under the namespace that the service has by default, a request that reads a configuration.
theorem namespaces_apart_default :
    let desk := Desk.ofScope "idempotency" 1048576
    Foreign desk.scope ∧ (∀ key kind name version, desk.storeKey key ≠ Kind.key kind name version) ∧
      ∃ world, Run Atomic (Visitor desk) (.idle .empty)
          [.called 0 .request (.get "configs/app/1") (.ok none), .began 0] world ∧
        ItemCall (.get "configs/app/1") ∧ ¬ Under desk.scope "configs/app/1" := by
  intro desk
  have foreign : Foreign desk.scope := by
    intro kind
    cases kind <;> decide
  obtain ⟨apart, runs⟩ := (namespaces_apart desk).2 foreign
  let request : Request := { method := "GET", target := Text.toBytes "/configs/app/versions/1" }
  let gate : Gate Rat := { rate := 1, burst := 1 }
  let route : Route := .configuration (Text.toBytes "app") (Text.toBytes "1")
  have asks : ∃ next,
      (receive desk gate ⟨0, 0, 0⟩ request).2.map responded = .ask none (.get "configs/app/1") next := by
    have found : Route.find? (Target.parse request.target).segments = some route := by decide
    have name : Text.ofBytes? (Text.percentDecode (Text.toBytes "app")) = some "app" := by decide
    have version : Text.ofBytes? (Text.percentDecode (Text.toBytes "1")) = some "1" := by decide
    have path : checkPath "app" "1" = .ok () := by decide
    have reads : inspect ⟨0, 0, 0⟩ none route =
        answered (writeConfiguration 200) (Catalog.Configuration.fetch "app" "1") := by
      simp only [inspect, route, withNames, name, version, getConfiguration, path, checked]
    have received : (receive desk gate ⟨0, 0, 0⟩ request).2 = caught (inspect ⟨0, 0, 0⟩ none route).process :=
      congrArg Prod.snd (receive_reading desk gate ⟨0, 0, 0⟩ found rfl (by decide))
    rw [received, reads, Job.process]
    change ∃ next, Process.map _ (Process.rescue _ (Job.host _ _ _ (.ask (.get "configs/app/1") _))) = _
    rw [Job.host]
    exact ⟨_, rfl⟩
  obtain ⟨next, asks⟩ := asks
  have visitor : Visitor desk (.ask none (.get "configs/app/1") next) := asks ▸ .receive gate ⟨0, 0, 0⟩ request
  have run : Run Atomic (Visitor desk) (.idle .empty)
      [.called 0 .request (.get "configs/app/1") (.ok none), .began 0] _ :=
    .step (.step .start (.begin rfl visitor)) (.call (World.put_tasks_self _ _ _) .answered)
  rcases runs _ _ _ _ (fun _ => rfl) run 0 .request (.get "configs/app/1") (.ok none) (List.mem_cons_self) with
    ⟨_, other⟩ | item
  · exact absurd rfl (other .configuration "app" "1")
  · exact ⟨foreign, apart, _, run, item⟩

-- The check of the settings lets a shelf of items pass as the namespace of records.
theorem accepted_namespace_meets_items :
    Settings.checkKeyScope "configs" = .ok () ∧ checkPath "app" "1" = .ok () ∧
      (Desk.ofScope "configs" 1048576).storeKey "app/1" = Kind.configuration.key "app" "1" := by
  decide

end ConfigRegistry.Concurrent
