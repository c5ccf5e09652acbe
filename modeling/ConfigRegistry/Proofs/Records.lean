import ConfigRegistry.Dedup.Record
import ConfigRegistry.Proofs.Base64
import ConfigRegistry.Proofs.Reading

set_option autoImplicit false

/-!
Main statement: a stored record is read back as it was written, whatever its status code and its body are.
-/
namespace ConfigRegistry.Dedup.Record

open Json (Token Decoder Readable)
open Text (Base64.encode Base64.standard Base64.decode_encode)

theorem tokens_readable (record : Record) : Readable record.tokens := by
  have escaped : ∀ bytes, ∃ other, Json.escape bytes = Json.escape other := fun bytes => ⟨bytes, rfl⟩
  cases record with
  | inProgress =>
      simp [tokens, Json.object, Json.separated, Readable, Token.ofText, Token.isNumber, Token.Sound, escaped]
  | completed statusCode body =>
      have written := Json.of_nat_written statusCode.toNat
      simp [tokens, Json.object, Json.separated, Readable, Token.ofText, Token.ofNat, Token.isNumber, Token.Sound,
        escaped, written]

def draftOf : Record → Draft
  | inProgress => { status := some .inProgress }
  | completed statusCode body =>
      { status := some .completed, statusCode := some (some statusCode),
        body := some (some (Base64.encode Base64.standard body)) }

section Members

variable (draft : Draft) (rest : List Token)

theorem status_name (status : Status) : Status.ofName? status.name = some status := by
  cases status <;> rfl

theorem status_member (status : Status) (empty : draft.status = none) :
    layout.member draft (.ofText "status" :: .colon :: .ofText status.name :: rest) =
      .ok ({ draft with status := some status }, rest) := by
  have read := Json.read_variant "`in_progress` or `completed`" rest (status_name status)
  exact Json.member_field rfl (by simp [empty])
    (Json.read_map (fun status => { draft with status := some status }) read)

theorem code_member (code : UInt16) (empty : draft.statusCode = none) :
    layout.member draft (.ofText "statusCode" :: .colon :: .ofNat code.toNat :: rest) =
      .ok ({ draft with statusCode := some (some code) }, rest) := by
  have read := Json.read_optional (Json.read_word code rest) fun more same => nomatch same
  exact Json.member_field rfl (by simp [empty])
    (Json.read_map (fun code => { draft with statusCode := some code }) read)

theorem body_member (text : String) (empty : draft.body = none) :
    layout.member draft (.ofText "body" :: .colon :: .ofText text :: rest) =
      .ok ({ draft with body := some (some text) }, rest) := by
  have read := Json.read_optional (Json.read_text text rest) fun more same => nomatch same
  exact Json.member_field rfl (by simp [empty]) (Json.read_map (fun body => { draft with body := some body }) read)

end Members

theorem read_tokens (record : Record) : layout.read {} record.tokens = .ok (record.draftOf, []) := by
  cases record with
  | inProgress => exact Json.read_object (status_member {} _ .inProgress rfl) (Json.no_more_members _ _) rfl
  | completed statusCode body =>
      have status := status_member {} (.comma :: .ofText "statusCode" :: .colon :: .ofNat statusCode.toNat :: .comma ::
        .ofText "body" :: .colon :: .ofText (Base64.encode Base64.standard body) :: [.closeObject]) .completed rfl
      have code := code_member { status := some .completed } (.comma :: .ofText "body" :: .colon ::
        .ofText (Base64.encode Base64.standard body) :: [.closeObject]) statusCode rfl
      have text := body_member { status := some .completed, statusCode := some (some statusCode) } [.closeObject]
        (Base64.encode Base64.standard body) rfl
      refine Json.read_object status ?_ rfl
      rw [List.length_cons, Json.more_members _ code]
      rw [List.length_cons, Json.more_members _ text, Json.no_more_members]
      rfl

theorem draft_of (record : Record) : ofDraft record.draftOf = .ok record := by
  cases record with
  | inProgress => rfl
  | completed statusCode body => simp [draftOf, ofDraft, Base64.decode_encode]

theorem decode_encode (key : String) (record : Record) : decode key record.encode = .ok record := by
  have cut := Json.scan_render (tokens_readable record)
  have whole : Decoder.whole (layout.read {}) record.encode = .ok record.draftOf := by
    simp only [Decoder.whole, encode, cut, read_tokens record, bind, Except.bind, List.isEmpty_nil, if_true]
    rfl
  rw [decode, whole]
  exact congrArg (Except.mapError (StoreFailure.corrupt key)) (draft_of record)

end ConfigRegistry.Dedup.Record
