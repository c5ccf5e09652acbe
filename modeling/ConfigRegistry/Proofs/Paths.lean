import ConfigRegistry.Proofs.Library
import ConfigRegistry.Proofs.Namespaces
import ConfigRegistry.Proofs.Rendering

set_option autoImplicit false

/-!
The path of each place. Main statement: a name and a version that an item may have are read back from its path as they
are, so a request to that path asks for that place.
-/
namespace ConfigRegistry.Text

theorem split_at_byte_eq (mark : UInt8) (bytes : Bytes) : splitAtByte mark bytes = bytes.splitOn mark := by
  induction bytes with
  | nil => rw [splitAtByte, List.splitOn_nil]
  | cons byte rest ih =>
      rw [splitAtByte, ih, List.splitOn_eq_splitOnP, List.splitOn_eq_splitOnP, List.splitOnP_cons_eq_if_modifyHead]
      cases split : rest.splitOnP (· == mark) with
      | nil => exact absurd split (List.splitOnP_ne_nil _ _)
      | cons piece pieces => by_cases same : byte = mark <;> simp [same]

theorem percent_decode_plain {bytes : Bytes} (plain : (37 : UInt8) ∉ bytes) : percentDecode bytes = bytes := by
  induction bytes with
  | nil => rfl
  | cons byte rest ih =>
      have other : byte ≠ 37 := fun same => plain (same ▸ List.mem_cons_self)
      rw [percentDecode, ih fun among => plain (List.mem_cons_of_mem _ among)]
      exact fun high low more same => absurd same other

end ConfigRegistry.Text

namespace ConfigRegistry.Library

open Catalog
open Http (Request Response Target)
open Service (Route)

theorem identifier_codes {c : Char} (valid : isIdentifierChar c = true) :
    c.toNat ≤ 127 ∧ c.toNat ≠ 35 ∧ c.toNat ≠ 37 ∧ c.toNat ≠ 47 ∧ c.toNat ≠ 63 := by
  have ranges : (65 ≤ c.toNat ∧ c.toNat ≤ 90) ∨ (97 ≤ c.toNat ∧ c.toNat ≤ 122) ∨ (48 ≤ c.toNat ∧ c.toNat ≤ 57) ∨
      c.toNat = 46 ∨ c.toNat = 95 ∨ c.toNat = 45 := by
    simp only [isIdentifierChar, Bool.or_eq_true, Bool.and_eq_true, decide_eq_true_eq] at valid
    rcases valid with ((((upper | lower) | digit) | rfl) | rfl) | rfl
    · exact .inl upper
    · exact .inr (.inl lower)
    · exact .inr (.inr (.inl digit))
    · decide
    · decide
    · decide
  omega

-- A byte that stands for itself in a target: no hash, percent sign, slash or question mark.
def isPlain (byte : UInt8) : Bool := byte ≠ 35 && byte ≠ 37 && byte ≠ 47 && byte ≠ 63

theorem plain_iff {byte : UInt8} : isPlain byte = true ↔ byte ≠ 35 ∧ byte ≠ 37 ∧ byte ≠ 47 ∧ byte ≠ 63 := by
  simp [isPlain, and_assoc]

theorem identifier_bytes {text : String} (valid : isIdentifier text = true) {byte : UInt8}
    (among : byte ∈ Text.toBytes text) : isPlain byte = true := by
  simp only [isIdentifier, Bool.and_eq_true, List.all_eq_true] at valid
  have small : ∀ c ∈ text.toList, c.toNat ≤ 127 := fun c found => (identifier_codes (valid.2 c found)).1
  rw [← String.ofList_toList (s := text), Json.ascii_bytes small] at among
  obtain ⟨c, found, rfl⟩ := List.mem_map.mp among
  obtain ⟨small, hash, percent, slash, mark⟩ := identifier_codes (valid.2 c found)
  have value : (UInt8.ofNat c.toNat).toNat = c.toNat := by
    rw [UInt8.toNat_ofNat']
    omega
  have differs {code : Nat} (other : c.toNat ≠ code) (byte : UInt8) (means : byte.toNat = code) :
      UInt8.ofNat c.toNat ≠ byte := fun same => other (by rw [← value, same, means])
  exact plain_iff.mpr ⟨differs hash 35 rfl, differs percent 37 rfl, differs slash 47 rfl, differs mark 63 rfl⟩

def path (place : Place) : String := "/" ++ place.kind.shelf ++ "/" ++ place.name ++ "/versions/" ++ place.version

-- The pieces between the slashes of a path.
def pieces (place : Place) : List Bytes :=
  [Text.toBytes place.kind.shelf, Text.toBytes place.name, Text.toBytes "versions", Text.toBytes place.version]

theorem path_bytes (place : Place) : Text.toBytes (path place) = List.intercalate [47] ([] :: pieces place) := by
  have slash : Text.toBytes "/" = [47] := by decide
  have versions : Text.toBytes "/versions/" = 47 :: Text.toBytes "versions" ++ [47] := by decide
  simp [path, pieces, Text.to_bytes_append, slash, versions, List.intercalate]

variable {place : Place}

theorem pieces_plain (sound : checkPath place.name place.version = .ok ()) :
    ∀ piece ∈ pieces place, ∀ byte ∈ piece, isPlain byte = true := by
  obtain ⟨name, version⟩ := Concurrent.path_identifiers sound
  have shelf : (Text.toBytes place.kind.shelf).all isPlain = true := by cases place.kind <;> rfl
  have versions : (Text.toBytes "versions").all isPlain = true := rfl
  simp only [pieces, List.forall_mem_cons]
  exact ⟨List.all_eq_true.mp shelf, fun _ => identifier_bytes name, List.all_eq_true.mp versions,
    fun _ => identifier_bytes version, fun _ none => nomatch none⟩

theorem path_target (sound : checkPath place.name place.version = .ok ()) :
    Target.parse (Text.toBytes (path place)) = ⟨pieces place, none⟩ := by
  have plain : ∀ byte ∈ Text.toBytes (path place), byte ≠ 35 ∧ byte ≠ 63 := by
    intro byte among
    have parts : byte = 47 ∨ ∃ piece ∈ pieces place, byte ∈ piece := by
      rw [path_bytes] at among
      simp [List.intercalate, pieces] at among ⊢
      grind
    rcases parts with rfl | ⟨piece, listed, inside⟩
    · decide
    · obtain ⟨hash, -, -, mark⟩ := plain_iff.mp (pieces_plain sound piece listed byte inside)
      exact ⟨hash, mark⟩
  have visible : (Text.toBytes (path place)).takeWhile (fun byte => byte ≠ 35) = Text.toBytes (path place) :=
    List.takeWhile_eq_self_iff.mpr fun byte among => by simp [(plain byte among).1]
  have whole : (Text.toBytes (path place)).takeWhile (fun byte => byte ≠ 63) = Text.toBytes (path place) :=
    List.takeWhile_eq_self_iff.mpr fun byte among => by simp [(plain byte among).2]
  have unasked : (Text.toBytes (path place)).dropWhile (fun byte => byte ≠ 63) = [] :=
    List.dropWhile_eq_nil_iff.mpr fun byte among => by simp [(plain byte among).2]
  have split : Text.splitAtByte 47 (Text.toBytes (path place)) = [] :: pieces place := by
    rw [Text.split_at_byte_eq, path_bytes]
    apply List.splitOn_intercalate
    · intro piece listed slash
      rcases List.mem_cons.mp listed with rfl | listed
      · exact nomatch slash
      · exact (plain_iff.mp (pieces_plain sound piece listed 47 slash)).2.2.1 rfl
    · exact List.cons_ne_nil _ _
  rw [Target.parse]
  simp only [visible, whole, unasked, split]
  rfl

def route : Place → Route
  | ⟨.configuration, name, version⟩ => .configuration (Text.toBytes name) (Text.toBytes version)
  | ⟨.group, name, version⟩ => .group (Text.toBytes name) (Text.toBytes version)

theorem pieces_route (sound : checkPath place.name place.version = .ok ()) :
    Route.find? (pieces place) = some (route place) := by
  obtain ⟨kind, name, version⟩ := place
  obtain ⟨sound, valid⟩ := Concurrent.path_identifiers sound
  have present {text : String} (valid : isIdentifier text = true) : (Text.toBytes text).isEmpty = false := by
    rw [isIdentifier, Bool.and_eq_true] at valid
    cases bytes : Text.toBytes text with
    | nil =>
        have blank : text = "" := Text.to_bytes_injective (bytes.trans (by decide))
        subst blank
        exact absurd valid.1 (by decide)
    | cons byte rest => rfl
  have other : (Text.toBytes "groups" == Text.toBytes "configs") = false := by decide
  rw [pieces, Route.find?]
  simp only [present sound, present valid, beq_self_eq_true, Bool.not_true, Bool.or_false, Bool.false_eq_true, if_false]
  cases kind with
  | configuration => exact if_pos (beq_self_eq_true _)
  | group =>
      rw [Kind.shelf, other, if_neg Bool.false_ne_true]
      exact if_pos (beq_self_eq_true _)

theorem place_of_path (sound : checkPath place.name place.version = .ok ()) :
    Order.placeOf place.kind (Text.toBytes place.name) (Text.toBytes place.version) = .ok place := by
  obtain ⟨name, version⟩ := Concurrent.path_identifiers sound
  have decoded {text : String} (valid : isIdentifier text = true) :
      Text.ofBytes? (Text.percentDecode (Text.toBytes text)) = some text := by
    rw [Text.percent_decode_plain fun percent => (plain_iff.mp (identifier_bytes valid percent)).2.1 rfl,
      Text.of_bytes_to_bytes]
  have names : Order.namesOf (Text.toBytes place.name) (Text.toBytes place.version) =
      .ok (place.name, place.version) := by
    simp only [Order.namesOf, decoded name, decoded version]
  rw [Order.placeOf, names]
  change Order.refused (checkPath place.name place.version) >>= _ = _
  rw [sound]
  rfl

theorem route_allows (place : Place) : (route place).mutation? = some "DELETE" ∧ (route place).isReadable = true := by
  obtain ⟨kind, name, version⟩ := place
  cases kind <;> exact ⟨rfl, rfl⟩

theorem route_orders (sound : checkPath place.name place.version = .ok ()) (request : Request) :
    Order.ofLook none (route place) = .ok (.fetch place) ∧
      Order.ofChange request none (route place) = .ok (.delete place) := by
  have found := place_of_path sound
  obtain ⟨kind, name, version⟩ := place
  cases kind <;> simp only [route, Order.ofLook, Order.ofChange, found] <;> exact ⟨rfl, rfl⟩

theorem path_request {request : Request} (sound : checkPath place.name place.version = .ok ())
    (target : request.target = Text.toBytes (path place)) :
    (request.method = "GET" → Order.ofRequest request = .ok (.fetch place)) ∧
      (request.method = "DELETE" → Order.ofRequest request = .ok (.delete place)) := by
  have asked : Order.ofRequest request = Order.ofRoute request none (route place) := by
    rw [Order.ofRequest, target, path_target sound]
    simp only [pieces_route sound]
  obtain ⟨mutation, readable⟩ := route_allows place
  obtain ⟨looks, changes⟩ := route_orders sound request
  rw [asked, Order.ofRoute, mutation, readable, looks, changes]
  constructor
  · intro get
    rw [get]
    rfl
  · intro delete
    rw [delete]
    rfl

end ConfigRegistry.Library
