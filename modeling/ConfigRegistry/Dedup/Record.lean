import ConfigRegistry.Failure
import ConfigRegistry.Json.Layout
import ConfigRegistry.Text.Base64

set_option autoImplicit false

/-!
The record of a request that carries an idempotency key, and its stored form.
-/
namespace ConfigRegistry.Dedup

open Json (Token Decoder Layout)
open Text (Base64.encode Base64.decode? Base64.standard)

inductive Record where
  | inProgress
  | completed (statusCode : UInt16) (body : Bytes)
deriving DecidableEq, Repr

inductive Status where
  | inProgress
  | completed
deriving DecidableEq, Repr

def Status.name : Status → String
  | .inProgress => "in_progress"
  | .completed => "completed"

def Status.ofName? (name : String) : Option Status :=
  if name = "in_progress" then some .inProgress
  else if name = "completed" then some .completed
  else none

def Record.status : Record → Status
  | .inProgress => .inProgress
  | .completed .. => .completed

namespace Record

def tokens : Record → List Token
  | inProgress => Json.object [("status", [.ofText Status.inProgress.name])]
  | completed statusCode body =>
      Json.object [("status", [.ofText Status.completed.name]), ("statusCode", [.ofNat statusCode]),
        ("body", [.ofText (Base64.encode Base64.standard body)])]

def encode (record : Record) : Bytes := Json.render record.tokens

-- A stored record as it is written, before its parts are held against each other. Each inner option tells whether
-- the field was read at all.
structure Draft where
  status : Option Status := none
  statusCode : Option (Option UInt16) := none
  body : Option (Option String) := none

def layout : Layout Draft where
  title := "struct WireRecord"
  fields :=
    [{ name := "status", required := true, filled := fun draft => draft.status.isSome,
       read := fun draft => (Json.variant "`in_progress` or `completed`" Status.ofName?).map fun status =>
         { draft with status := some status } },
     { name := "statusCode", required := false, filled := fun draft => draft.statusCode.isSome,
       read := fun draft => (Json.optional Json.word).map fun code =>
         { draft with statusCode := some code } },
     { name := "body", required := false, filled := fun draft => draft.body.isSome,
       read := fun draft => (Json.optional Json.text).map fun body => { draft with body := some body } }]

-- Only a completed record carries a response, and it carries all of it.
def ofDraft (draft : Draft) : Except String Record :=
  match draft.status, draft.statusCode.join, draft.body.join with
  | some .completed, some code, some text =>
      match Base64.decode? text with
      | some body => .ok (completed code body)
      | none => .error "body is not valid base64: malformed"
  | some .completed, _, _ => .error "completed record is missing statusCode or body"
  | _, none, none => .ok inProgress
  | _, _, _ => .error "in-progress record carries a response"

def decode (key : String) (bytes : Bytes) : Except StoreFailure Record :=
  match Decoder.whole (layout.read {}) bytes with
  | .error failure => .error (.corrupt key failure.message)
  | .ok draft => (ofDraft draft).mapError (.corrupt key)

end Record
end ConfigRegistry.Dedup
