import ConfigRegistry.Store.Call
import ConfigRegistry.KeyMap

set_option autoImplicit false

/-!
The store that keeps its values in memory. Main statement: what each call leaves behind.
-/
namespace ConfigRegistry.Store

abbrev Memory := KeyMap Bytes

namespace Memory

def backend : String := "memory"

def perform (memory : Memory) : (call : Call) → call.Answer × Memory
  | .get key => (memory.get? key, memory)
  | .create key value => if memory.contains key then (false, memory) else (true, memory.insert key value)
  | .put key value => ((), memory.insert key value)
  | .delete key => (memory.contains key, memory.erase key)
  | .ping => ((), memory)

theorem get_perform_other (memory : Memory) (call : Call) {key : String} (different : call.key ≠ key) :
    (memory.perform call).2.get? key = memory.get? key := by
  cases call with
  | get _ => rfl
  | create k value =>
      simp only [perform]
      split
      · rfl
      · exact (KeyMap.get_insert memory k value key).trans (if_neg different)
  | put k value => exact (KeyMap.get_insert memory k value key).trans (if_neg different)
  | delete k => exact (KeyMap.get_erase memory k key).trans (if_neg different)
  | ping => rfl

end Memory
end ConfigRegistry.Store
