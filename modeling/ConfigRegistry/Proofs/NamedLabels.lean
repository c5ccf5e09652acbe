import ConfigRegistry.Proofs.Filing
import ConfigRegistry.Proofs.LabelDeletions

set_option autoImplicit false

/-!
Labels and the filters that name them. Main statement: a filter names the labels of an accepted entry where none of
them has a mark of the syntax or white space at an end, and by such a filter the entry is listed and deleted; there
is no way to write the others.
-/
namespace ConfigRegistry.Library

open Catalog
open Catalog.LabelFilter (Sayable Unmarked parsed_iff)
open Http (Request)
open Service
open Store (Memory)

section Labels

variable {entry : Entry}

theorem labels_filled (valid : entry.check = .ok ()) : ∀ label ∈ entry.labels.entries, label.1 ≠ "" ∧ label.2 ≠ "" := by
  have checked := (unit_bind_ok.mp valid).2
  intro label among
  have filled : (Text.isBlankText label.1 || Text.isBlankText label.2) = false := by
    refine Bool.eq_false_iff.mpr fun blank => ?_
    have found : (entry.labels.entries.any fun pair => Text.isBlankText pair.1 || Text.isBlankText pair.2) = true :=
      List.any_eq_true.mpr ⟨label, among, blank⟩
    rw [if_pos found] at checked
    cases checked
  constructor
  · intro empty
    rw [empty] at filled
    cases filled
  · intro empty
    rw [empty, Bool.or_eq_false_iff] at filled
    cases filled.2

theorem labels_named_iff (valid : entry.check = .ok ()) :
    (∃ text, LabelFilter.parse (some text) = .ok entry.labels) ↔
      ∀ label ∈ entry.labels.entries, Unmarked label.1 label.2 := by
  rw [parsed_iff]
  constructor
  · exact fun sayable label among => (sayable label among).toUnmarked
  · exact fun unmarked label among => ⟨unmarked label among, labels_filled valid label among⟩

theorem carries_own (entry : Entry) : entry.carries entry.labels = true := carries_iff.mpr fun _ _ found => found

theorem own_labels_reach (valid : entry.check = .ok ()) (labeled : entry.labels.isEmpty = false) :
    ((∃ text, LabelFilter.parse (some text) = .ok entry.labels) ↔
      ∀ label ∈ entry.labels.entries, Unmarked label.1 label.2) ∧
    ∀ text, LabelFilter.parse (some text) = .ok entry.labels →
      ∀ (memory : Memory) (bytes : Bytes) (group : Group) (name version : Bytes) (request : Request) (clock : Clock),
        memory.get? (Kind.group.key group.name group.version) = some bytes → Group.decoder.whole bytes = .ok group →
        entry ∈ group.entries →
        Order.placeOf .group name version = .ok ⟨.group, group.name, group.version⟩ →
          let query := some (Text.labelsQuery text)
          let listed := group.entries.filter fun other => other.carries entry.labels
          let others := group.entries.filter fun other => !other.carries entry.labels
          let fewer : Group := { group with entries := others }
          (entry ∈ listed ∧ entry ∉ others) ∧
          Gives (inspect clock query (.entries name version)) memory (writeEntries listed) memory ∧
          Gives (mutate request query (.entries name version)) memory (writeDeleted listed.length)
            (memory.insert (Kind.group.key group.name group.version) fewer.encode) := by
  refine ⟨labels_named_iff valid, fun text read memory bytes group name version request clock => ?_⟩
  intro lies reads among leads query listed others fewer
  have asks := Order.labels_of_query text
  refine ⟨⟨?_, ?_⟩, ?_, ?_⟩
  · exact List.mem_filter.mpr ⟨among, carries_own entry⟩
  · simp [others, carries_own]
  · exact listing_gives leads asks lies reads clock read
  · exact deletion_gives leads asks lies reads request read labeled

end Labels

def twoInOne : Entry where
  configuration := { name := "app", version := "1" }
  labels := .ofList [("env", "a;b")]

theorem marked_labels_unnamed : twoInOne.check = .ok () ∧ twoInOne.labels.isEmpty = false ∧
    ¬ ∃ text, LabelFilter.parse (some text) = .ok twoInOne.labels := by
  refine ⟨by decide, by decide, fun named => ?_⟩
  have sayable := parsed_iff.mp named ("env", "a;b") (by decide)
  exact sayable.semicolons.2 (by decide)

def prodEntry : Entry where
  id := "a"
  configuration := { name := "app", version := "1" }
  labels := .ofList [("env", "prod")]

theorem own_labels_reach_of_prod :
    (∃ text, LabelFilter.parse (some text) = .ok prodEntry.labels) ∧
      Gives (mutate prodDeletion (some (Text.labelsQuery "env:prod"))
          (.entries (Text.toBytes "web") (Text.toBytes "1"))) tiersStored (writeDeleted 1)
        (tiersStored.insert "groups/web/1" { twoTiers with entries := twoTiers.entries.drop 1 : Group }.encode) := by
  have valid : prodEntry.check = .ok () := by decide
  have read : LabelFilter.parse (some "env:prod") = .ok prodEntry.labels := by decide
  have stored := Group.decode_encode twoTiers
  refine ⟨⟨_, read⟩, ?_⟩
  exact ((own_labels_reach valid (by decide)).2 "env:prod" read tiersStored _ twoTiers _ _ prodDeletion ⟨0, 0, 0⟩
    tiers_lie stored (by decide) tiers_path).2.2

end ConfigRegistry.Library
