import ConfigRegistry.Json.Layout
import ConfigRegistry.Proofs.Rendering

set_option autoImplicit false

/-!
Reading values from tokens that were written for them. Main statement: the members of an object fill the fields of
their names one after the other.
-/
namespace ConfigRegistry.Json

section Values

variable {α : Type} {decoder : Decoder α} {value : α} {tokens rest : List Token}

theorem read_text (text : String) (rest : List Token) : Json.text (.ofText text :: rest) = .ok (text, rest) := by
  simp only [Token.ofText, Json.text, read_escaped]

theorem read_natural {bound n : Nat} (expected : String) (rest : List Token) (small : n < bound)
    (word : bound ≤ wordBound) : natural bound expected (.ofNat n :: rest) = .ok (n, rest) := by
  simp only [Token.ofNat, natural, numeral_of_nat (Nat.lt_of_lt_of_le small word), if_pos small]

theorem read_word (code : UInt16) (rest : List Token) : word (.ofNat code.toNat :: rest) = .ok (code, rest) := by
  rw [word, Decoder.map, read_natural "u16" rest code.toNat_lt (by decide)]
  exact congrArg (fun code => Except.ok (code, rest)) UInt16.ofNat_toNat

theorem read_variant {find : String → Option α} {name : String} (expected : String) (rest : List Token)
    (known : find name = some value) : variant expected find (.ofText name :: rest) = .ok (value, rest) := by
  simp only [Token.ofText, variant, read_escaped, known]

theorem read_map {β : Type} (f : α → β) (read : decoder tokens = .ok (value, rest)) :
    Decoder.map f decoder tokens = .ok (f value, rest) := by
  rw [Decoder.map, read]
  rfl

theorem read_optional (read : decoder tokens = .ok (value, rest)) (present : ∀ more, tokens ≠ .null :: more) :
    optional decoder tokens = .ok (some value, rest) := by
  rw [optional]
  · exact read_map some read
  · exact present

end Values

section Objects

variable {δ : Type} {layout : Layout δ} {draft next : δ} {tokens rest : List Token}

theorem member_field {field : Field δ} {name : String}
    (found : layout.fields.find? (fun field => field.name == name) = some field) (empty : field.filled draft = false)
    (read : field.read draft tokens = .ok (next, rest)) :
    layout.member draft (.ofText name :: .colon :: tokens) = .ok (next, rest) := by
  simp only [Token.ofText, Layout.member, read_escaped, found, empty, Decoder.under, read]
  rfl

theorem more_members (fuel : Nat) (read : layout.member draft tokens = .ok (next, rest)) :
    layout.moreMembers (fuel + 1) draft (.comma :: tokens) = layout.moreMembers fuel next rest := by
  rw [Layout.moreMembers, read]
  rfl

theorem no_more_members (fuel : Nat) (rest : List Token) :
    layout.moreMembers fuel draft (.closeObject :: rest) = .ok (draft, rest) := by
  cases fuel <;> rfl

theorem read_object {blank filled : δ} {after : List Token} (first : layout.member blank tokens = .ok (next, rest))
    (others : layout.moreMembers rest.length next rest = .ok (filled, after))
    (complete : layout.lacking filled = none) :
    layout.read blank (.openObject :: tokens) = .ok (filled, after) := by
  rw [Layout.read]
  · simp only [first, others, bind, Except.bind, Layout.ofObject, complete]
  · rintro more rfl
    exact nomatch first

end Objects

end ConfigRegistry.Json
