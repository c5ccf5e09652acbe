import Mathlib.Data.Option.Basic
import ConfigRegistry.Dedup.ClientKey
import ConfigRegistry.Dedup.Desk
import ConfigRegistry.Proofs.UrlBase64

set_option autoImplicit false

/-!
Which header values come to the same key. Main statement: two values do if they are the same after trimming, or if
one of them spells out the Base64 form in which the other, which is no UTF-8, is kept; and in no other case.
-/
namespace ConfigRegistry.Dedup

open Text (ofBytes? toBytes of_bytes_to_bytes)
open Text.Base64 (encode urlSafe encode_url_injective)

-- The key of a value that is not blank.
def keyText (raw : Bytes) : String := (ofBytes? raw).getD (binaryMark ++ encode urlSafe raw)

-- The first value is the text in which the second, which is no UTF-8, is kept.
def Spells (text raw : Bytes) : Prop := ofBytes? raw = none ∧ text = toBytes (binaryMark ++ encode urlSafe raw)

theorem client_key_blank {value : Bytes} (blank : trimHeader value = []) : clientKey? value = none := by
  simp [clientKey?, blank]

theorem client_key_text {value : Bytes} (present : trimHeader value ≠ []) :
    clientKey? value = some (keyText (trimHeader value)) := by
  rw [clientKey?, if_neg (by simpa using present), keyText]
  cases ofBytes? (trimHeader value) <;> rfl

theorem to_bytes_marked_nonempty (text : String) : toBytes (binaryMark ++ text) ≠ [] := by
  intro empty
  have same : binaryMark ++ text = "" := Text.to_bytes_injective empty
  have letters := congrArg String.toList same
  simp [binaryMark] at letters

theorem key_text_binary_iff {raw other : Bytes} {text : String} (read : ofBytes? raw = some text)
    (binary : ofBytes? other = none) : keyText raw = keyText other ↔ Spells raw other := by
  simp only [keyText, read, binary, Option.getD_some, Option.getD_none]
  constructor
  · rintro rfl
    exact ⟨binary, (Text.to_bytes_of_bytes read).symm⟩
  · rintro ⟨_, rfl⟩
    rw [of_bytes_to_bytes] at read
    exact (Option.some.inj read).symm

theorem spells_text {raw text : Bytes} {read : String} (utf8 : ofBytes? raw = some read) : ¬ Spells text raw := by
  rintro ⟨binary, _⟩
  exact nomatch utf8.symm.trans binary

theorem spells_binary {raw other : Bytes} (binary : ofBytes? raw = none) : ¬ Spells raw other := by
  rintro ⟨_, rfl⟩
  exact nomatch (of_bytes_to_bytes _).symm.trans binary

theorem key_text_eq_iff (left right : Bytes) :
    keyText left = keyText right ↔ left = right ∨ Spells left right ∨ Spells right left := by
  cases first : ofBytes? left with
  | some text =>
      cases second : ofBytes? right with
      | some other =>
          have apart : ¬ (Spells left right ∨ Spells right left) := not_or.mpr ⟨spells_text second, spells_text first⟩
          rw [or_iff_left apart]
          refine ⟨fun same => ?_, congrArg keyText⟩
          simp only [keyText, first, second, Option.getD_some] at same
          rw [← Text.to_bytes_of_bytes first, ← Text.to_bytes_of_bytes second, same]
      | none =>
          have different : left ≠ right := by
            rintro rfl
            exact nomatch first.symm.trans second
          rw [key_text_binary_iff first second, or_iff_left (spells_text first), or_iff_right different]
  | none =>
      cases second : ofBytes? right with
      | some other =>
          have different : left ≠ right := by
            rintro rfl
            exact nomatch first.symm.trans second
          rw [eq_comm, key_text_binary_iff second first, or_iff_right (spells_text second), or_iff_right different]
      | none =>
          have apart : ¬ (Spells left right ∨ Spells right left) :=
            not_or.mpr ⟨spells_binary first, spells_binary second⟩
          rw [or_iff_left apart]
          refine ⟨fun same => ?_, congrArg keyText⟩
          simp only [keyText, first, second, Option.getD_none] at same
          have letters := congrArg String.toList same
          simp only [String.toList_append, List.append_cancel_left_eq] at letters
          exact encode_url_injective (String.toList_inj.mp letters)

theorem store_key_injective (desk : Desk) {first second : String} :
    desk.storeKey first = desk.storeKey second ↔ first = second := by
  refine ⟨fun same => ?_, congrArg desk.storeKey⟩
  have letters := congrArg String.toList same
  simp only [Desk.storeKey, String.toList_append, List.append_cancel_left_eq] at letters
  exact String.toList_inj.mp letters

theorem blank_spells_nothing (raw : Bytes) : ¬ Spells [] raw ∧ ¬ Spells raw [] := by
  constructor
  · rintro ⟨_, same⟩
    exact to_bytes_marked_nonempty _ same.symm
  · rintro ⟨binary, _⟩
    exact nomatch (of_bytes_to_bytes "").symm.trans binary

-- Two header values that come to one key: the same but for blanks around them, or one of them spells the other.
def Alike (first second : Bytes) : Prop :=
  trimHeader first = trimHeader second ∨ Spells (trimHeader first) (trimHeader second) ∨
    Spells (trimHeader second) (trimHeader first)

theorem client_key_eq_iff (first second : Bytes) : clientKey? first = clientKey? second ↔ Alike first second := by
  rw [Alike]
  by_cases left : trimHeader first = []
  · by_cases right : trimHeader second = []
    · simp [client_key_blank left, client_key_blank right, left, right]
    · have apart := blank_spells_nothing (trimHeader second)
      simp [client_key_blank left, client_key_text right, left, apart, Ne.symm right]
  · by_cases right : trimHeader second = []
    · have apart := blank_spells_nothing (trimHeader first)
      simp [client_key_text left, client_key_blank right, right, left, apart]
    · rw [client_key_text left, client_key_text right, Option.some.injEq]
      exact key_text_eq_iff _ _

-- Only the first value of a request counts, and the records of one desk are as distinct as the keys.
theorem same_record_iff (desk : Desk) (first second : Bytes) (values others : List Bytes) :
    (clientKey? first = clientKey? second ↔ Alike first second) ∧
      ((clientKeyOf (first :: values)).map desk.storeKey = (clientKeyOf (second :: others)).map desk.storeKey ↔
        Alike first second) := by
  have keys := client_key_eq_iff first second
  refine ⟨keys, ?_⟩
  have injective : Function.Injective (Option.map desk.storeKey) :=
    Option.map_injective fun _ _ same => (store_key_injective desk).mp same
  exact injective.eq_iff.trans keys

-- A value that is no UTF-8 and the text in which it is kept are two legal values with one key.
theorem distinct_values_share_record :
    let binary : Bytes := [107, 101, 121, 45, 255]
    let text := toBytes "b64:a2V5Lf8"
    (isHeaderValue binary = true ∧ isHeaderValue text = true) ∧ (trimHeader binary ≠ [] ∧ trimHeader text ≠ []) ∧
      trimHeader binary ≠ trimHeader text ∧ clientKey? binary = some "b64:a2V5Lf8" ∧
      clientKey? text = some "b64:a2V5Lf8" := by
  decide

end ConfigRegistry.Dedup
