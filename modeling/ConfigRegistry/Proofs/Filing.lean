import ConfigRegistry.Proofs.ItemCodec
import ConfigRegistry.Proofs.Namespaces

set_option autoImplicit false

/-!
What may lie under the key of an item. Main statements: a key is that of one kind, name and version only, and a group
stays acceptable when an entry of another name or version is appended to it or entries are taken out of it.
-/
namespace ConfigRegistry.Catalog

open Concurrent (cut_at_mark identifier_plain path_identifiers item_key_letters shelf_plain)

section Keys

theorem shelf_injective {kind other : Kind} (same : kind.shelf = other.shelf) : kind = other := by
  cases kind <;> cases other <;> first | rfl | exact absurd same (by decide)

-- Nothing is asked of the second name and version.
theorem item_key_injective {kind other : Kind} {name version name' version' : String}
    (path : checkPath name version = .ok ()) (same : kind.key name version = other.key name' version') :
    kind = other ∧ name = name' ∧ version = version' := by
  obtain ⟨sound, valid⟩ := path_identifiers path
  have letters := congrArg String.toList same.symm
  rw [item_key_letters, item_key_letters, cut_at_mark (shelf_plain kind)] at letters
  rcases letters with ⟨shelf, rest⟩ | ⟨middle, shelf, rest⟩
  · rw [cut_at_mark (identifier_plain sound)] at rest
    rcases rest with ⟨names, versions⟩ | ⟨more, _, versions⟩
    · exact ⟨shelf_injective (String.toList_inj.mp shelf.symm), String.toList_inj.mp names.symm,
        String.toList_inj.mp versions.symm⟩
    · exact absurd (by simp [versions]) (identifier_plain valid)
  · exact absurd (by simp [shelf]) (shelf_plain other)

end Keys

section Checks

theorem unit_bind_ok {ε : Type} {first second : Except ε Unit} :
    (first >>= fun _ => second) = .ok () ↔ first = .ok () ∧ second = .ok () := by
  cases first with
  | error failure => simp [bind, Except.bind]
  | ok value => simp [bind, Except.bind]

theorem header_path {name version : String} (header : checkHeader name version = .ok ()) :
    checkPath name version = .ok () := (unit_bind_ok.mp header).2

-- The name and version by which the entries of a group are told apart.
def Entry.pair (entry : Entry) : String × String := (entry.configuration.name, entry.configuration.version)

theorem check_entries_iff (seen : List (String × String)) (entries : List Entry) :
    checkEntries seen entries = .ok () ↔
      (∀ entry ∈ entries, entry.check = .ok ()) ∧ (entries.map Entry.pair).Nodup ∧
        ∀ entry ∈ entries, entry.pair ∉ seen := by
  induction entries generalizing seen with
  | nil => simp [checkEntries]
  | cons entry entries ih =>
      rw [checkEntries, unit_bind_ok]
      change _ ∧ (if seen.contains entry.pair = true then _ else checkEntries (entry.pair :: seen) entries) = _ ↔ _
      by_cases known : entry.pair ∈ seen
      · simp [known]
      · rw [if_neg (by simpa using known), ih]
        rw [List.forall_mem_cons, List.forall_mem_cons, List.map_cons, List.nodup_cons]
        simp only [List.mem_cons, not_or, List.mem_map, not_exists, not_and]
        constructor
        · rintro ⟨first, others, apart, unseen⟩
          exact ⟨⟨first, others⟩, ⟨fun other among => (unseen other among).1, apart⟩, known, fun other among =>
            (unseen other among).2⟩
        · rintro ⟨⟨first, others⟩, ⟨different, apart⟩, -, unseen⟩
          exact ⟨first, others, apart, fun other among => ⟨different other among, unseen other among⟩⟩

theorem group_check_iff (group : Group) :
    group.check = .ok () ↔ checkHeader group.name group.version = .ok () ∧
      (∀ entry ∈ group.entries, entry.check = .ok ()) ∧ (group.entries.map Entry.pair).Nodup := by
  rw [Group.check, unit_bind_ok, check_entries_iff]
  simp

theorem holds_iff (group : Group) (name version : String) :
    group.holds name version = true ↔ (name, version) ∈ group.entries.map Entry.pair := by
  simp [Group.holds, Entry.isOf, Entry.pair]

end Checks

structure Configuration.Sound (configuration : Configuration) : Prop where
  checked : configuration.check = .ok ()
  named : configuration.id ≠ ""

structure Entry.Sound (entry : Entry) : Prop where
  checked : entry.check = .ok ()
  named : entry.id ≠ ""
  inner : entry.configuration.id ≠ ""

structure Group.Sound (group : Group) : Prop where
  checked : group.check = .ok ()
  named : group.id ≠ ""
  entries : ∀ entry ∈ group.entries, entry.id ≠ "" ∧ entry.configuration.id ≠ ""

namespace Group

variable {group : Group} {entry : Entry}

theorem sound_pairs (sound : group.Sound) : (group.entries.map Entry.pair).Nodup :=
  ((group_check_iff group).mp sound.checked).2.2

theorem append_sound (sound : group.Sound) (fits : entry.Sound)
    (absent : ¬ group.holds entry.configuration.name entry.configuration.version = true) :
    (group.append entry).Sound where
  checked := by
    obtain ⟨header, checks, apart⟩ := (group_check_iff group).mp sound.checked
    refine (group_check_iff _).mpr ⟨header, ?_, ?_⟩
    · intro other among
      rcases List.mem_append.mp among with old | new
      · exact checks other old
      · cases List.mem_singleton.mp new
        exact fits.checked
    · rw [holds_iff] at absent
      have fresh : entry.pair ∉ group.entries.map Entry.pair := absent
      simp only [append, List.map_append, List.map_cons, List.map_nil]
      exact List.nodup_append.mpr ⟨apart, by simp, fun pair old other new same =>
        fresh (by rwa [← List.mem_singleton.mp new, ← same])⟩
  named := sound.named
  entries := by
    intro other among
    rcases List.mem_append.mp among with old | new
    · exact sound.entries other old
    · cases List.mem_singleton.mp new
      exact ⟨fits.named, fits.inner⟩

theorem filter_sound (sound : group.Sound) (keep : Entry → Bool) :
    Sound { group with entries := group.entries.filter keep } where
  checked := by
    obtain ⟨header, checks, apart⟩ := (group_check_iff group).mp sound.checked
    refine (group_check_iff _).mpr ⟨header, fun entry among => checks entry (List.mem_filter.mp among).1, ?_⟩
    exact apart.sublist (List.filter_sublist.map Entry.pair)
  named := sound.named
  entries := fun entry among => sound.entries entry (List.mem_filter.mp among).1

end Group

-- What lies under the key of an item.
def Shelved : Kind → String → String → Bytes → Prop
  | .configuration, name, version, bytes => ∃ configuration : Configuration,
      Configuration.decoder.whole bytes = .ok configuration ∧ configuration.name = name ∧
        configuration.version = version ∧ configuration.Sound
  | .group, name, version, bytes => ∃ group : Group,
      Group.decoder.whole bytes = .ok group ∧ group.name = name ∧ group.version = version ∧ group.Sound

theorem configuration_shelved {configuration : Configuration} (sound : configuration.Sound) :
    Shelved .configuration configuration.name configuration.version configuration.encode :=
  ⟨configuration, configuration.decode_encode, rfl, rfl, sound⟩

theorem group_shelved {group : Group} (sound : group.Sound) : Shelved .group group.name group.version group.encode :=
  ⟨group, group.decode_encode, rfl, rfl, sound⟩

end ConfigRegistry.Catalog
