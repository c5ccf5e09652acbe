set_option autoImplicit false

/-!
Finite maps from texts, kept in ascending order of their keys without repetition.
Main statements: what is found after an insertion, a removal and a selection, and that maps with the
same findings are equal.
-/
namespace ConfigRegistry

-- Pairs in strictly ascending order of keys, by code points, which is the order of their UTF-8 bytes.
structure KeyMap (β : Type) where
  entries : List (String × β) := []
  ascending : entries.Pairwise (fun a b => a.1 < b.1) := by exact List.Pairwise.nil

namespace KeyMap

variable {β γ : Type}

def lookup (key : String) : List (String × β) → Option β
  | [] => none
  | (k, value) :: rest => if k = key then some value else lookup key rest

def insertInto (key : String) (value : β) : List (String × β) → List (String × β)
  | [] => [(key, value)]
  | (k, v) :: rest =>
      if key < k then (key, value) :: (k, v) :: rest
      else if k = key then (key, value) :: rest
      else (k, v) :: insertInto key value rest

theorem key_trichotomy {a b : String} (before : ¬ a < b) (different : ¬ b = a) : b < a := by
  rcases String.le_total a b with le | le
  · exact absurd (String.le_antisymm le (String.not_lt.mp before)) (fun same => different same.symm)
  · exact String.not_le.mp fun ge => different (String.le_antisymm le ge)

theorem mem_insert_into {key : String} {value : β} {entry : String × β} {entries : List (String × β)}
    (found : entry ∈ insertInto key value entries) : entry = (key, value) ∨ entry ∈ entries := by
  induction entries with
  | nil => simpa [insertInto] using found
  | cons head rest ih =>
      obtain ⟨k, v⟩ := head
      rw [insertInto] at found
      split at found
      · simpa using found
      · split at found
        · rcases List.mem_cons.mp found with same | tail
          · exact .inl same
          · exact .inr (List.mem_cons_of_mem _ tail)
        · rcases List.mem_cons.mp found with same | tail
          · exact .inr (same ▸ List.mem_cons_self)
          · exact (ih tail).imp id (List.mem_cons_of_mem _)

theorem insert_into_ascending (key : String) (value : β) {entries : List (String × β)}
    (ascending : entries.Pairwise (fun a b => a.1 < b.1)) :
    (insertInto key value entries).Pairwise (fun a b => a.1 < b.1) := by
  induction entries with
  | nil => simp [insertInto]
  | cons head rest ih =>
      obtain ⟨k, v⟩ := head
      obtain ⟨above, tail⟩ := List.pairwise_cons.mp ascending
      rw [insertInto]
      split
      · rename_i before
        refine List.pairwise_cons.mpr ⟨fun entry found => ?_, ascending⟩
        rcases List.mem_cons.mp found with same | later
        · exact same ▸ before
        · exact String.lt_trans before (above entry later)
      · split
        · rename_i same
          exact List.pairwise_cons.mpr ⟨fun entry found => same ▸ above entry found, tail⟩
        · rename_i before different
          refine List.pairwise_cons.mpr ⟨fun entry found => ?_, ih tail⟩
          rcases mem_insert_into found with same | later
          · exact same ▸ key_trichotomy before different
          · exact above entry later

def empty : KeyMap β := {}

instance : Inhabited (KeyMap β) := ⟨empty⟩

def get? (map : KeyMap β) (key : String) : Option β := lookup key map.entries

def contains (map : KeyMap β) (key : String) : Bool := (map.get? key).isSome

def size (map : KeyMap β) : Nat := map.entries.length

def isEmpty (map : KeyMap β) : Bool := map.entries.isEmpty

def insert (map : KeyMap β) (key : String) (value : β) : KeyMap β :=
  ⟨insertInto key value map.entries, insert_into_ascending key value map.ascending⟩

def filter (map : KeyMap β) (keep : String → β → Bool) : KeyMap β :=
  ⟨map.entries.filter fun entry => keep entry.1 entry.2, map.ascending.filter _⟩

def erase (map : KeyMap β) (key : String) : KeyMap β := map.filter fun k _ => k != key

def ofList (pairs : List (String × β)) : KeyMap β :=
  pairs.foldl (fun map pair => map.insert pair.1 pair.2) empty

instance [DecidableEq β] : DecidableEq (KeyMap β) := fun a b =>
  if same : a.entries = b.entries then
    isTrue (by cases a; cases b; simp at same; simp [same])
  else isFalse fun equal => same (equal ▸ rfl)

instance [Repr β] : Repr (KeyMap β) := ⟨fun map n => reprPrec map.entries n⟩

@[simp] theorem get_empty (key : String) : (empty : KeyMap β).get? key = none := rfl

theorem lookup_insert_into_self (key : String) (value : β) (entries : List (String × β)) :
    lookup key (insertInto key value entries) = some value := by
  induction entries with
  | nil => simp [insertInto, lookup]
  | cons head rest ih =>
      obtain ⟨k, v⟩ := head
      rw [insertInto]
      split
      · simp [lookup]
      · split
        · simp [lookup]
        · rename_i different
          simp [lookup, different, ih]

theorem lookup_insert_into_other {key other : String} (different : key ≠ other) (value : β)
    (entries : List (String × β)) :
    lookup other (insertInto key value entries) = lookup other entries := by
  induction entries with
  | nil => simp [insertInto, lookup, different]
  | cons head rest ih =>
      obtain ⟨k, v⟩ := head
      rw [insertInto]
      split
      · simp [lookup, different]
      · split
        · rename_i same
          subst same
          simp [lookup, different]
        · by_cases hit : k = other <;> simp [lookup, hit, ih]

theorem get_insert (map : KeyMap β) (key : String) (value : β) (other : String) :
    (map.insert key value).get? other = if key = other then some value else map.get? other := by
  by_cases same : key = other
  · subst same
    rw [if_pos rfl]
    exact lookup_insert_into_self key value map.entries
  · rw [if_neg same]
    exact lookup_insert_into_other same value map.entries

theorem lookup_eq_none {key : String} {entries : List (String × β)}
    (above : ∀ entry ∈ entries, key < entry.1) : lookup key entries = none := by
  induction entries with
  | nil => rfl
  | cons head rest ih =>
      have larger := above head List.mem_cons_self
      have different : head.1 ≠ key := fun same => String.lt_irrefl key (same ▸ larger)
      simp only [lookup, if_neg different]
      exact ih fun entry found => above entry (List.mem_cons_of_mem _ found)

theorem lookup_filter (keep : String → β → Bool) (key : String) {entries : List (String × β)}
    (ascending : entries.Pairwise (fun a b => a.1 < b.1)) :
    lookup key (entries.filter fun entry => keep entry.1 entry.2) =
      (lookup key entries).filter (keep key) := by
  induction entries with
  | nil => rfl
  | cons head rest ih =>
      obtain ⟨k, v⟩ := head
      obtain ⟨above, tail⟩ := List.pairwise_cons.mp ascending
      by_cases hit : k = key
      · subst hit
        by_cases kept : keep k v
        · simp [lookup, kept, Option.filter]
        · rw [List.filter_cons_of_neg (by simpa using kept), ih tail, lookup_eq_none above]
          simp [lookup, kept, Option.filter]
      · by_cases kept : keep k v <;> simp [lookup, hit, kept, ih tail]

theorem get_filter (map : KeyMap β) (keep : String → β → Bool) (key : String) :
    (map.filter keep).get? key = (map.get? key).filter (keep key) :=
  lookup_filter keep key map.ascending

theorem get_erase (map : KeyMap β) (key other : String) :
    (map.erase key).get? other = if key = other then none else map.get? other := by
  rw [erase, get_filter]
  by_cases same : key = other
  · subst same
    cases map.get? key <;> simp [Option.filter]
  · cases map.get? other <;> simp [Option.filter, same, Ne.symm same]

theorem lookup_cons_self (key : String) (value : β) (rest : List (String × β)) :
    lookup key ((key, value) :: rest) = some value := by simp [lookup]

theorem entries_eq_of_lookup {left right : List (String × β)}
    (leftUp : left.Pairwise (fun a b => a.1 < b.1)) (rightUp : right.Pairwise (fun a b => a.1 < b.1))
    (same : ∀ key, lookup key left = lookup key right) : left = right := by
  induction left generalizing right with
  | nil =>
      cases right with
      | nil => rfl
      | cons head rest => simpa [lookup] using same head.1
  | cons head rest ih =>
      cases right with
      | nil => simpa [lookup] using same head.1
      | cons other more =>
          obtain ⟨k, v⟩ := head
          obtain ⟨j, w⟩ := other
          obtain ⟨above, tail⟩ := List.pairwise_cons.mp leftUp
          obtain ⟨larger, others⟩ := List.pairwise_cons.mp rightUp
          have keys : k = j := by
            apply String.le_antisymm
            · refine String.not_lt.mp fun smaller => ?_
              have found := same j
              rw [lookup_cons_self, lookup_eq_none] at found
              · cases found
              · intro entry mem
                rcases List.mem_cons.mp mem with first | later
                · exact first ▸ smaller
                · exact String.lt_trans smaller (above entry later)
            · refine String.not_lt.mp fun smaller => ?_
              have found := same k
              rw [lookup_cons_self, lookup_eq_none] at found
              · cases found
              · intro entry mem
                rcases List.mem_cons.mp mem with first | later
                · exact first ▸ smaller
                · exact String.lt_trans smaller (larger entry later)
          subst keys
          have values : v = w := by simpa [lookup] using same k
          subst values
          congr 1
          refine ih tail others fun key => ?_
          by_cases hit : k = key
          · subst hit
            rw [lookup_eq_none above, lookup_eq_none larger]
          · simpa [lookup, hit] using same key

theorem mem_of_lookup {key : String} {value : β} {entries : List (String × β)}
    (found : lookup key entries = some value) : (key, value) ∈ entries := by
  induction entries with
  | nil => cases found
  | cons head rest ih =>
      rw [lookup] at found
      split at found
      · rename_i hit
        cases hit
        cases found
        exact List.mem_cons_self
      · exact List.mem_cons_of_mem _ (ih found)

theorem lookup_of_mem {key : String} {value : β} {entries : List (String × β)}
    (ascending : entries.Pairwise (fun a b => a.1 < b.1)) (among : (key, value) ∈ entries) :
    lookup key entries = some value := by
  induction entries with
  | nil => cases among
  | cons head rest ih =>
      obtain ⟨above, tail⟩ := List.pairwise_cons.mp ascending
      rcases List.mem_cons.mp among with rfl | later
      · exact lookup_cons_self key value rest
      · have different : head.1 ≠ key := fun same => String.lt_irrefl key (same ▸ above (key, value) later)
        rw [lookup, if_neg different, ih tail later]

theorem get_iff_mem {map : KeyMap β} {key : String} {value : β} :
    map.get? key = some value ↔ (key, value) ∈ map.entries :=
  ⟨mem_of_lookup, lookup_of_mem map.ascending⟩

theorem eq_of_get {left right : KeyMap β} (same : ∀ key, left.get? key = right.get? key) :
    left = right := by
  cases left
  cases right
  congr 1
  exact entries_eq_of_lookup (by assumption) (by assumption) same

theorem insert_insert (map : KeyMap β) (key : String) (first second : β) :
    (map.insert key first).insert key second = map.insert key second := by
  apply eq_of_get
  intro other
  rw [get_insert, get_insert, get_insert]
  split <;> rfl

theorem keys_nodup (map : KeyMap β) : (map.entries.map Prod.fst).Nodup := by
  apply List.pairwise_map.mpr
  apply map.ascending.imp
  intro first second less same
  rw [same] at less
  exact String.lt_irrefl _ less

end KeyMap
end ConfigRegistry
