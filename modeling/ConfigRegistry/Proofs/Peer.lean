import ConfigRegistry.Store.Memory
import ConfigRegistry.Store.Remote

set_option autoImplicit false

/-!
The database server behind the remote store. Main statement: each command does to a database what its call does to
the memory that the database holds, and the server's reply is read as the answer of the call.
-/
namespace ConfigRegistry.Store

open Text (toBytes)

namespace Database

-- Keys are kept as their bytes. What lies under bytes that are no text is out of reach.
def Holds (database : Database) (memory : Memory) : Prop := ∀ key, database.get? (toBytes key) = memory.get? key

variable {database : Database} {memory other : Memory}

theorem get_erase (database : Database) (key found : Bytes) :
    (database.erase key).get? found = if key = found then none else database.get? found := by
  induction database with
  | nil => simp [erase, get?]
  | cons entry rest ih =>
      obtain ⟨stored, value⟩ := entry
      simp only [erase, get?, List.filter_cons] at ih ⊢
      by_cases same : stored = key
      · subst same
        simp only [bne_self_eq_false, Bool.false_eq_true, if_false, ih, List.lookup_cons]
        by_cases hit : stored = found
        · simp [hit]
        · simp [hit, beq_eq_false_iff_ne.mpr (Ne.symm hit)]
      · simp only [bne_iff_ne, ne_eq, same, not_false_eq_true, if_true, List.lookup_cons, ih]
        by_cases hit : found = stored
        · subst hit
          simp [Ne.symm same]
        · simp [beq_eq_false_iff_ne.mpr hit]

theorem get_set (database : Database) (key value found : Bytes) :
    (database.set key value).get? found = if key = found then some value else database.get? found := by
  by_cases hit : key = found
  · subst hit
    simp [set, get?]
  · have missed : (found == key) = false := beq_eq_false_iff_ne.mpr (Ne.symm hit)
    rw [set, get?, List.lookup_cons, missed, if_neg hit]
    exact (get_erase database key found).trans (if_neg hit)

theorem holds_unique (first : database.Holds memory) (second : database.Holds other) : memory = other :=
  KeyMap.eq_of_get fun key => (first key).symm.trans (second key)

theorem holds_erase (holds : database.Holds memory) (key : String) :
    (database.erase (toBytes key)).Holds (memory.erase key) := by
  intro found
  rw [get_erase, KeyMap.get_erase, holds found]
  by_cases same : key = found
  · rw [if_pos same, if_pos (congrArg toBytes same)]
  · rw [if_neg same, if_neg fun equal => same (Text.to_bytes_injective equal)]

theorem holds_set (holds : database.Holds memory) (key : String) (value : Bytes) :
    (database.set (toBytes key) value).Holds (memory.insert key value) := by
  intro found
  rw [get_set, KeyMap.get_insert, holds found]
  by_cases same : key = found
  · rw [if_pos same, if_pos (congrArg toBytes same)]
  · rw [if_neg same, if_neg fun equal => same (Text.to_bytes_injective equal)]

-- Every memory can be held: its entries in any order will do.
def ofMemory (memory : Memory) : Database := memory.entries.map fun entry => (toBytes entry.1, entry.2)

theorem holds_of_memory (memory : Memory) : (ofMemory memory).Holds memory := by
  intro key
  rw [get?, ofMemory, KeyMap.get?]
  induction memory.entries with
  | nil => rfl
  | cons entry rest ih =>
      obtain ⟨stored, value⟩ := entry
      rw [List.map_cons, KeyMap.lookup, List.lookup_cons, ih]
      by_cases same : stored = key
      · simp [same]
      · have missed : (toBytes key == toBytes stored) = false :=
          beq_eq_false_iff_ne.mpr fun equal => same (Text.to_bytes_injective equal).symm
        rw [missed, if_neg same]

theorem command_performs (holds : database.Holds memory) (call : Call) :
    Remote.interpret call (database.execute (Remote.command call)).1 = .ok (memory.perform call).1 ∧
      (database.execute (Remote.command call)).2.Holds (memory.perform call).2 := by
  cases call with
  | get key =>
      have executed : database.execute (Remote.command (.get key)) =
          ((database.get? (toBytes key)).elim .nil .bulk, database) := rfl
      rw [executed, holds key]
      refine ⟨?_, holds⟩
      cases lies : memory.get? key <;> simp [Remote.interpret, Memory.perform, lies]
  | create key value =>
      have executed : database.execute (Remote.command (.create key value)) =
          if (database.get? (toBytes key)).isSome then (.nil, database)
          else (.status "OK", database.set (toBytes key) value) := rfl
      rw [executed, holds key, Memory.perform, KeyMap.contains]
      by_cases taken : (memory.get? key).isSome = true
      · rw [if_pos taken, if_pos taken]
        exact ⟨rfl, holds⟩
      · rw [if_neg taken, if_neg taken]
        exact ⟨rfl, holds_set holds key value⟩
  | put key value => exact ⟨rfl, holds_set holds key value⟩
  | delete key =>
      have executed : database.execute (Remote.command (.delete key)) =
          (.integer (if (database.get? (toBytes key)).isSome then 1 else 0), database.erase (toBytes key)) := rfl
      rw [executed, holds key]
      refine ⟨?_, holds_erase holds key⟩
      cases lies : memory.get? key <;>
        simp [Remote.interpret, Remote.replyNumber?, Memory.perform, KeyMap.contains, lies]
  | ping => exact ⟨rfl, holds⟩

end Database
end ConfigRegistry.Store
