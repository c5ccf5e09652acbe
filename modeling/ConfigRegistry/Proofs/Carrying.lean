import Mathlib.Data.List.Basic
import ConfigRegistry.Proofs.Records
import ConfigRegistry.Proofs.Spelling

set_option autoImplicit false

/-!
What the text of a stored record carries. Main statement: a record is read back as it was written, and any text that
is read as a record carries exactly the payload of its canonical form, or none.
-/
namespace ConfigRegistry.Json.Value

def natural? : Value → Option Nat
  | number literal => match literal.numeral? with
      | some (.natural value) => some value
      | _ => none
  | _ => none

-- A natural number that a word of 16 bits has room for.
def word? (value : Value) : Option UInt16 :=
  value.natural?.bind fun n => if n < UInt16.size then some (UInt16.ofNat n) else none

def text? : Value → Option String
  | text raw => readText? raw
  | _ => none

-- The name of a variant is a text, or the one name of an object.
def variant? : Value → Option String
  | text raw => readText? raw
  | object [(raw, null)] => readText? raw
  | _ => none

-- A part that may be null, and what is read from it otherwise.
def Optional {α : Type} (read : Value → Option α) (value : Value) (found : Option α) : Prop :=
  (value = null ∧ found = none) ∨ ∃ item, read value = some item ∧ found = some item

section Readers

variable {α : Type} {tokens rest : List Token}

theorem natural_leads {bound n : Nat} {expected : String}
    (read : Json.natural bound expected tokens = .ok (n, rest)) :
    ∃ value, Leads tokens value rest ∧ value.natural? = some n ∧ n < bound := by
  unfold Json.natural at read
  split at read
  · rename_i literal more
    split at read
    · exact nomatch read
    · rename_i value numeral
      split at read
      · rename_i small
        cases read
        exact ⟨_, leads_number literal, by simp [natural?, numeral], small⟩
      · exact nomatch read
    · exact nomatch read
    · exact nomatch read
  · exact absurd read unexpected_fails

theorem word_leads {code : UInt16} (read : Json.word tokens = .ok (code, rest)) :
    ∃ value, Leads tokens value rest ∧ value.word? = some code := by
  obtain ⟨n, first, rfl⟩ := map_ok read
  obtain ⟨value, leads, seen, small⟩ := natural_leads first
  refine ⟨value, leads, ?_⟩
  rw [word?, seen, Option.bind_some, if_pos small]

theorem text_leads {found : String} (read : Json.text tokens = .ok (found, rest)) :
    ∃ value, Leads tokens value rest ∧ value.text? = some found := by
  unfold Json.text at read
  split at read
  · rename_i raw more
    split at read
    · rename_i value named
      cases read
      exact ⟨_, leads_text raw, named⟩
    · exact nomatch read
  · exact absurd read unexpected_fails

theorem optional_leads {decoder : Decoder α} {observe : Value → Option α} {found : Option α}
    (reads : ∀ tokens item rest, decoder tokens = .ok (item, rest) →
      ∃ value, Leads tokens value rest ∧ observe value = some item)
    (read : Json.optional decoder tokens = .ok (found, rest)) :
    ∃ value, Leads tokens value rest ∧ Optional observe value found := by
  unfold Json.optional at read
  split at read
  · cases read
    exact ⟨_, leads_null, .inl ⟨rfl, rfl⟩⟩
  · obtain ⟨item, first, rfl⟩ := map_ok read
    obtain ⟨value, leads, seen⟩ := reads _ _ _ first
    exact ⟨value, leads, .inr ⟨item, seen, rfl⟩⟩

theorem variant_leads {expected : String} {find : String → Option α} {found : α}
    (read : Json.variant expected find tokens = .ok (found, rest)) :
    ∃ value, Leads tokens value rest ∧ value.variant?.bind find = some found := by
  unfold Json.variant at read
  split at read
  · rename_i raw more
    split at read
    · cases read
    · rename_i name named
      split at read
      · rename_i item known
        cases read
        exact ⟨_, leads_text raw, by simp [variant?, named, known]⟩
      · cases read
  · dsimp only at read
    split at read
    · rename_i raw more
      obtain ⟨⟨name, later⟩, first, chosen⟩ := bind_ok read
      obtain ⟨rfl, named⟩ : later = more ∧ readText? raw = some name := by
        rw [Json.text] at first
        split at first
        · rename_i read
          cases first
          exact ⟨rfl, read⟩
        · cases first
      dsimp only at chosen
      split at chosen
      · cases chosen
      · rename_i item known
        split at chosen
        · cases chosen
          exact ⟨_, leads_members (leads_last_member raw leads_null), by simp [variant?, named, known]⟩
        · cases chosen
        · exact absurd chosen unexpected_fails
        · cases chosen
    · obtain ⟨found, first, -⟩ := bind_ok read
      exact absurd first unexpected_fails
  · cases read

end Readers

section Fields

variable {δ α : Type} {takes : δ → String → Value → δ → Prop} {read : Value → Option α} {name : String}

-- What the last part of a name leaves in the field that alone takes parts of this name.
theorem last_taken {get : δ → Option (Option α)} {draft final : δ} {given : List (String × Value)}
    (takings : Takings takes draft given final)
    (hit : ∀ draft value next, takes draft name value next → ∃ found, get next = some found ∧ Optional read value found)
    (miss : ∀ draft other value next, other ≠ name → takes draft other value next → get next = get draft) :
    (last? name given = none ∧ get final = get draft) ∨
      ∃ value found, last? name given = some value ∧ get final = some found ∧ Optional read value found := by
  induction takings with
  | nil => exact .inl ⟨rfl, rfl⟩
  | @cons draft next final other value others first later ih =>
      rcases ih with ⟨absent, kept⟩ | ⟨value, found, present, got, reads⟩
      · by_cases same : other = name
        · subst same
          obtain ⟨found, got, reads⟩ := hit _ _ _ first
          exact .inr ⟨value, found, by simp [last?, absent], kept.trans got, reads⟩
        · exact .inl ⟨by simp [last?, absent, same], kept.trans (miss _ _ _ _ same first)⟩
      · exact .inr ⟨value, found, by simp [last?, present], got, reads⟩

-- What a value carries under a name. Null is nothing.
def carried? (names : List String) (name : String) (value : Value) : Option Value :=
  match last? name (value.parts names) with
  | some null => none
  | part => part

theorem carried_taken {names : List String} {value : Value} (get : δ → Option (Option α)) {blank final : δ}
    (takings : Takings takes blank (value.parts names) final) (empty : get blank = none) (solid : read null = none)
    (hit : ∀ draft value next, takes draft name value next → ∃ found, get next = some found ∧ Optional read value found)
    (miss : ∀ draft other value next, other ≠ name → takes draft other value next → get next = get draft) :
    ((get final).join = none ∧ value.carried? names name = none) ∨
      ∃ item, (get final).join = some item ∧ (value.carried? names name).bind read = some item := by
  rcases last_taken takings hit miss with ⟨absent, kept⟩ | ⟨part, found, present, got, reads⟩
  · exact .inl ⟨by simp [kept, empty], by simp [carried?, absent]⟩
  · rcases reads with ⟨rfl, rfl⟩ | ⟨item, read, rfl⟩
    · exact .inl ⟨by simp [got], by simp [carried?, present]⟩
    · refine .inr ⟨item, by simp [got], ?_⟩
      cases part with
      | null => exact nomatch solid.symm.trans read
      | _ => simp [carried?, present, read]

end Fields
end ConfigRegistry.Json.Value

namespace ConfigRegistry.Dedup.Record

open Json (Value Decoder Token)
open Json.Value (Leads Takings Filled Optional)
open Text (toBytes Base64.encode Base64.decode? Base64.standard Base64.encode_decode)

def fieldNames : List String := ["status", "statusCode", "body"]

def status? (value : Value) : Option Status := value.variant?.bind Status.ofName?

-- What one part of a value does to a draft.
inductive Draft.Takes (draft : Draft) : String → Value → Draft → Prop where
  | status {value : Value} {status : Status} (reads : status? value = some status) :
      Takes draft "status" value { draft with status := some status }
  | code {value : Value} {code : Option UInt16} (reads : Optional Value.word? value code) :
      Takes draft "statusCode" value { draft with statusCode := some code }
  | body {value : Value} {body : Option String} (reads : Optional Value.text? value body) :
      Takes draft "body" value { draft with body := some body }
  | other {name : String} (value : Value) (unknown : name ∉ fieldNames) : Takes draft name value draft

theorem layout_filled : Filled layout Draft.Takes where
  field := by
    intro field among draft tokens next rest read
    simp only [layout, List.mem_cons, List.not_mem_nil, or_false] at among
    rcases among with rfl | rfl | rfl <;> dsimp only at read <;> obtain ⟨found, first, rfl⟩ := Value.map_ok read
    · obtain ⟨value, leads, reads⟩ := Value.variant_leads first
      exact ⟨value, leads, .status reads⟩
    · obtain ⟨value, leads, reads⟩ := Value.optional_leads (fun _ _ _ => Value.word_leads) first
      exact ⟨value, leads, .code reads⟩
    · obtain ⟨value, leads, reads⟩ := Value.optional_leads (fun _ _ _ => Value.text_leads) first
      exact ⟨value, leads, .body reads⟩
  other := by
    intro draft name value unknown
    refine .other value fun known => ?_
    simp only [fieldNames, List.mem_cons, List.not_mem_nil, or_false] at known
    simp only [layout, List.mem_cons, List.not_mem_nil, or_false, forall_eq_or_imp, forall_eq] at unknown
    rcases known with rfl | rfl | rfl
    · exact unknown.1 rfl
    · exact unknown.2.1 rfl
    · exact unknown.2.2 rfl

section Payloads

variable {given : List (String × Value)} {value : Value} {final : Draft}

theorem takes_status {draft next : Draft} (takes : draft.Takes "status" value next) :
    ∃ found, next.status.map some = some found ∧ Optional status? value found := by
  generalize named : "status" = name at takes
  cases takes with
  | status reads => exact ⟨_, rfl, .inr ⟨_, reads, rfl⟩⟩
  | code => exact absurd named (by decide)
  | body => exact absurd named (by decide)
  | other _ unknown => exact absurd (named ▸ by decide) unknown

theorem keeps_status {draft next : Draft} {name : String} (other : name ≠ "status")
    (takes : draft.Takes name value next) : next.status.map some = draft.status.map some := by
  cases takes with
  | status => exact absurd rfl other
  | _ => rfl

theorem takes_code {draft next : Draft} (takes : draft.Takes "statusCode" value next) :
    ∃ found, next.statusCode = some found ∧ Optional Value.word? value found := by
  generalize named : "statusCode" = name at takes
  cases takes with
  | status => exact absurd named (by decide)
  | code reads => exact ⟨_, rfl, reads⟩
  | body => exact absurd named (by decide)
  | other _ unknown => exact absurd (named ▸ by decide) unknown

theorem keeps_code {draft next : Draft} {name : String} (other : name ≠ "statusCode")
    (takes : draft.Takes name value next) : next.statusCode = draft.statusCode := by
  cases takes with
  | code => exact absurd rfl other
  | _ => rfl

theorem takes_body {draft next : Draft} (takes : draft.Takes "body" value next) :
    ∃ found, next.body = some found ∧ Optional Value.text? value found := by
  generalize named : "body" = name at takes
  cases takes with
  | status => exact absurd named (by decide)
  | code => exact absurd named (by decide)
  | body reads => exact ⟨_, rfl, reads⟩
  | other _ unknown => exact absurd (named ▸ by decide) unknown

theorem keeps_body {draft next : Draft} {name : String} (other : name ≠ "body")
    (takes : draft.Takes name value next) : next.body = draft.body := by
  cases takes with
  | body => exact absurd rfl other
  | _ => rfl

end Payloads

section Text

def Plain (c : Char) : Prop := c.toNat ≤ 127 ∧ Json.escapeByte (UInt8.ofNat c.toNat) = [UInt8.ofNat c.toNat]

theorem symbol_plain {n : Nat} (small : n < 64) : Plain (Base64.standard.symbol n) := by
  have every : ∀ n < 64, (Base64.standard.symbol n).toNat ≤ 127 ∧
      Json.escapeByte (UInt8.ofNat (Base64.standard.symbol n).toNat) =
        [UInt8.ofNat (Base64.standard.symbol n).toNat] := by
    decide
  exact every n small

theorem padding_plain : Plain '=' := by
  refine ⟨by decide, ?_⟩
  decide

theorem groups_plain (bytes : Bytes) : ∀ c ∈ Text.Base64.writeGroups Base64.standard [] bytes, Plain c := by
  match bytes with
  | [] => simp [Text.Base64.writeGroups]
  | [a] =>
      have bound := a.toNat_lt
      simp only [Text.Base64.writeGroups, Text.Base64.Alphabet.padding, Base64.standard, if_true, List.replicate,
        List.cons_append,
        List.nil_append, List.forall_mem_cons]
      exact ⟨padding_plain, padding_plain, symbol_plain (by omega), symbol_plain (by omega), by simp⟩
  | [a, b] =>
      have boundA := a.toNat_lt
      have boundB := b.toNat_lt
      simp only [Text.Base64.writeGroups, Text.Base64.Alphabet.padding, Base64.standard, if_true, List.replicate,
        List.cons_append,
        List.nil_append, List.forall_mem_cons]
      exact ⟨padding_plain, symbol_plain (by omega), symbol_plain (by omega), symbol_plain (by omega), by simp⟩
  | a :: b :: c :: rest =>
      have boundA := a.toNat_lt
      have boundB := b.toNat_lt
      have boundC := c.toNat_lt
      rw [Text.Base64.writeGroups, Text.Base64.write_groups_onto]
      simp only [List.forall_mem_append, List.forall_mem_cons]
      exact ⟨groups_plain rest, symbol_plain (by omega), symbol_plain (by omega), symbol_plain (by omega),
        symbol_plain (by omega), by simp⟩
termination_by bytes.length

theorem escape_plain {chars : List Char} (plain : ∀ c ∈ chars, Plain c) :
    Json.escape (toBytes (String.ofList chars)) = toBytes (String.ofList chars) := by
  rw [Json.ascii_bytes fun c among => (plain c among).1, Json.escape, List.flatMap_map]
  induction chars with
  | nil => rfl
  | cons c chars ih =>
      rw [List.flatMap_cons, (plain c List.mem_cons_self).2, ih fun other among =>
        plain other (List.mem_cons_of_mem _ among)]
      rfl

theorem escape_encoded (bytes : Bytes) :
    Json.escape (toBytes (Base64.encode Base64.standard bytes)) = toBytes (Base64.encode Base64.standard bytes) := by
  rw [Base64.encode]
  exact escape_plain fun c among => groups_plain bytes c (List.mem_reverse.mp among)

def canonical (statusCode : UInt16) (text : String) : String :=
  "\x7b\"status\":\"completed\",\"statusCode\":" ++ toString statusCode ++ ",\"body\":\"" ++ text ++ "\"\x7d"

theorem encode_in_progress : encode inProgress = toBytes "\x7b\"status\":\"in_progress\"\x7d" := by decide +kernel

theorem render_front (rest : List Token) :
    Json.render (.openObject :: .ofText "status" :: .colon :: .ofText "completed" :: .comma ::
        .ofText "statusCode" :: .colon :: rest) =
      toBytes "\x7b\"status\":\"completed\",\"statusCode\":" ++ Json.render rest := by
  have front : Json.render [.openObject, .ofText "status", .colon, .ofText "completed", .comma,
      .ofText "statusCode", .colon] =
      toBytes "\x7b\"status\":\"completed\",\"statusCode\":" := by decide +kernel
  rw [← front, Json.render, Json.render, Json.render, ← List.flatMap_append]
  rfl

theorem render_middle (rest : List Token) :
    Json.render (.comma :: .ofText "body" :: .colon :: rest) = toBytes ",\"body\":" ++ Json.render rest := by
  have middle : Json.render [.comma, .ofText "body", .colon] = toBytes ",\"body\":" := by decide +kernel
  rw [← middle, Json.render, Json.render, Json.render, ← List.flatMap_append]
  rfl

theorem render_number (n : Nat) (rest : List Token) :
    Json.render (.ofNat n :: rest) = toBytes (toString n) ++ Json.render rest := by
  simp [Json.render, Token.bytes, Token.ofNat, Json.Literal.bytes, Json.Literal.ofNat]

theorem render_encoded (bytes : Bytes) :
    Json.render [.ofText (Base64.encode Base64.standard bytes), .closeObject] =
      toBytes "\"" ++ toBytes (Base64.encode Base64.standard bytes) ++ toBytes "\"\x7d" := by
  have quote : toBytes "\"" = [34] := by decide +kernel
  have close : toBytes "\"\x7d" = [34, 125] := by decide +kernel
  simp only [Json.render, List.flatMap_cons, List.flatMap_nil, Token.bytes, Token.ofText, escape_encoded, quote, close]
  simp

theorem quoted_body : toBytes ",\"body\":\"" = toBytes ",\"body\":" ++ toBytes "\"" := by decide +kernel

theorem tokens_completed (statusCode : UInt16) (body : Bytes) :
    tokens (completed statusCode body) = .openObject :: .ofText "status" :: .colon :: .ofText "completed" ::
      .comma :: .ofText "statusCode" :: .colon :: .ofNat statusCode.toNat :: .comma :: .ofText "body" :: .colon ::
        [.ofText (Base64.encode Base64.standard body), .closeObject] := by
  simp only [tokens, Json.object, Json.separated, List.map_cons, List.map_nil, List.cons_append, List.nil_append,
    Status.name]

theorem to_bytes_parts (a b c d e : String) :
    toBytes (a ++ b ++ c ++ d ++ e) = toBytes a ++ (toBytes b ++ (toBytes c ++ (toBytes d ++ toBytes e))) := by
  simp [toBytes]

theorem encode_completed (statusCode : UInt16) (body : Bytes) :
    encode (completed statusCode body) = toBytes (canonical statusCode (Base64.encode Base64.standard body)) := by
  have parts : toBytes (canonical statusCode (Base64.encode Base64.standard body)) = _ := to_bytes_parts _ _ _ _ _
  have shown : toString statusCode = toString statusCode.toNat := rfl
  rw [encode, tokens_completed, render_front, render_number, render_middle, render_encoded, parts, quoted_body, shown]
  simp only [List.append_assoc]

end Text

-- What a value says of the record that it stands for. Nothing but the spelling of the parts is left open.
def Spells (value : Value) : Record → Prop
  | inProgress => (value.carried? fieldNames "status").bind status? = some .inProgress ∧
      value.carried? fieldNames "statusCode" = none ∧ value.carried? fieldNames "body" = none ∧
      encode inProgress = toBytes "\x7b\"status\":\"in_progress\"\x7d"
  | completed statusCode body => (value.carried? fieldNames "status").bind status? = some .completed ∧
      (value.carried? fieldNames "statusCode").bind Value.word? = some statusCode ∧
      ∃ text, (value.carried? fieldNames "body").bind Value.text? = some text ∧ Base64.decode? text = some body ∧
        encode (completed statusCode body) = toBytes (canonical statusCode text)

theorem status_read {draft : Draft} (complete : layout.lacking draft = none) :
    ∃ status, draft.status = some status := by
  cases given : draft.status with
  | none => simp [Json.Layout.lacking, layout, given] at complete
  | some status => exact ⟨status, rfl⟩

theorem of_draft_ok {draft : Draft} {status : Status} {record : Record} (present : draft.status = some status)
    (read : ofDraft draft = .ok record) :
    (status = .inProgress ∧ draft.statusCode.join = none ∧ draft.body.join = none ∧ record = inProgress) ∨
      ∃ code text body, status = .completed ∧ draft.statusCode.join = some code ∧ draft.body.join = some text ∧
        Base64.decode? text = some body ∧ record = completed code body := by
  unfold ofDraft at read
  rw [present] at read
  split at read
  · rename_i code text finished hasCode hasBody
    split at read
    · rename_i body decoded
      exact .inr ⟨code, text, body, Option.some.inj finished, hasCode, hasBody, decoded, (Except.ok.inj read).symm⟩
    · exact nomatch read
  · exact nomatch read
  · rename_i noCode noBody unfinished
    cases status with
    | inProgress => exact .inl ⟨rfl, noCode, noBody, (Except.ok.inj read).symm⟩
    | completed => exact absurd rfl unfinished
  · exact nomatch read

-- What a draft makes of a record is settled by what was carried under each name.
theorem of_draft_spells {value : Value} {draft : Draft} {record : Record}
    (takings : Takings Draft.Takes {} (value.parts fieldNames) draft) (complete : layout.lacking draft = none)
    (read : ofDraft draft = .ok record) : Spells value record := by
  obtain ⟨status, present⟩ := status_read complete
  have named : (value.carried? fieldNames "status").bind status? = some status := by
    rcases Value.carried_taken (fun draft => draft.status.map some) takings rfl rfl (fun _ _ _ => takes_status)
      fun _ _ _ _ => keeps_status with ⟨absent, -⟩ | ⟨found, given, carried⟩
    · simp [present] at absent
    · simpa [present, carried] using given.symm
  have code := Value.carried_taken Draft.statusCode takings rfl rfl (fun _ _ _ => takes_code)
    fun _ _ _ _ => keeps_code
  have body := Value.carried_taken Draft.body takings rfl rfl (fun _ _ _ => takes_body)
    fun _ _ _ _ => keeps_body
  rcases of_draft_ok present read with
    ⟨rfl, noCode, noBody, rfl⟩ | ⟨n, text, bytes, rfl, hasCode, hasBody, decoded, rfl⟩
  · simp only [noCode, noBody, true_and, reduceCtorEq, false_and, exists_false, or_false] at code body
    exact ⟨named, code, body, encode_in_progress⟩
  · simp only [hasCode, hasBody, reduceCtorEq, false_and, Option.some.injEq, exists_eq_left', false_or] at code body
    refine ⟨named, code, text, body, decoded, ?_⟩
    rw [encode_completed, Base64.encode_decode decoded]

theorem record_codec (key : String) :
    (∀ record : Record, decode key record.encode = .ok record) ∧
    ∀ bytes record, decode key bytes = .ok record →
      decode key record.encode = .ok record ∧
        ∃ value, Json.Value.parse? bytes = some value ∧ Spells value record := by
  refine ⟨decode_encode key, fun bytes record read => ?_⟩
  rw [decode] at read
  split at read
  · cases read
  rename_i draft whole
  obtain ⟨⟨_, rest⟩, first, ends⟩ := Value.bind_ok whole
  have last : rest = [] := by
    cases rest with
    | nil => rfl
    | cons => cases ends
  subst last
  cases ends
  obtain ⟨complete, value, leads, takings⟩ := Value.read_takes layout_filled first
  have made : ofDraft draft = .ok record := by
    cases made : ofDraft draft with
    | error message => simp [made, Except.mapError] at read
    | ok other => simpa [made, Except.mapError] using read
  exact ⟨decode_encode key record, value, Value.parse_leads leads, of_draft_spells takings complete made⟩

theorem codec_of_loose_spelling :
    decode "k" (completed 201 [97]).encode = .ok (completed 201 [97]) ∧
      ∃ value, Json.Value.parse? (toBytes
        "\x7b\"body\":\"\\u0059Q==\",\"statusCode\":201, \"status\":\"completed\",\"more\":[]\x7d") = some value ∧
          Spells value (completed 201 [97]) :=
  ⟨(record_codec "k").1 (completed 201 [97]), ((record_codec "k").2 _ (completed 201 [97]) rfl).2⟩

end ConfigRegistry.Dedup.Record
