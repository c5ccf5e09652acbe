import ConfigRegistry.Json.Decode

set_option autoImplicit false

/-!
Reading records field by field. Fields that a record does not have are passed over, whatever their values are.
-/
namespace ConfigRegistry.Json

variable {δ : Type}

-- A place in the text of a value that nobody reads; the stack tells for each open bracket whether it is that of an
-- object.
inductive Place where
  | value
  | first
  | key
  | colon
  | after
deriving DecidableEq, Repr

def skipRest : Place → List Bool → Decoder Unit
  | _, [], rest => .ok ((), rest)
  | .first, true :: stack, .closeObject :: rest => skipRest .after stack rest
  | .first, false :: stack, .closeArray :: rest => skipRest .after stack rest
  | .after, true :: stack, .closeObject :: rest => skipRest .after stack rest
  | .after, false :: stack, .closeArray :: rest => skipRest .after stack rest
  | .after, true :: stack, .comma :: rest => skipRest .key (true :: stack) rest
  | .after, false :: stack, .comma :: rest => skipRest .value (false :: stack) rest
  | .first, true :: stack, .text _ :: rest => skipRest .colon (true :: stack) rest
  | .key, true :: stack, .text _ :: rest => skipRest .colon (true :: stack) rest
  | .colon, true :: stack, .colon :: rest => skipRest .value (true :: stack) rest
  | .first, true :: _, _ => .error .malformed
  | .after, _, _ => .error .malformed
  | .key, _, _ => .error .malformed
  | .colon, _, _ => .error .malformed
  | _, stack, .openObject :: rest => skipRest .first (true :: stack) rest
  | _, stack, .openArray :: rest => skipRest .first (false :: stack) rest
  | _, stack, .null :: rest => skipRest .after stack rest
  | _, stack, .boolean _ :: rest => skipRest .after stack rest
  | _, stack, .number _ :: rest => skipRest .after stack rest
  | _, stack, .text _ :: rest => skipRest .after stack rest
  | _, _, _ => .error .malformed

def skip : Decoder Unit
  | .openObject :: rest => skipRest .first [true] rest
  | .openArray :: rest => skipRest .first [false] rest
  | .null :: rest => .ok ((), rest)
  | .boolean _ :: rest => .ok ((), rest)
  | .number _ :: rest => .ok ((), rest)
  | .text _ :: rest => .ok ((), rest)
  | _ => .error .malformed

structure Field (δ : Type) where
  name : String
  required : Bool
  filled : δ → Bool
  read : δ → Decoder δ

-- How a record is written: as an object of its fields, or as an array of them in order.
structure Layout (δ : Type) where
  title : String
  fields : List (Field δ)

def Layout.member (layout : Layout δ) (draft : δ) : Decoder δ
  | .text raw :: tokens =>
      match readText? raw with
      | none => .error .malformed
      | some name =>
          match layout.fields.find? fun field => field.name == name, tokens with
          | none, .colon :: tokens => skip.map (fun _ => draft) tokens
          | none, _ => .error .malformed
          | some field, tokens =>
              if field.filled draft then invalid (.duplicateField name)
              else match tokens with
                | .colon :: tokens => (field.read draft).under (.key name) tokens
                | _ => .error .malformed
  | _ => .error .malformed

def Layout.moreMembers (layout : Layout δ) : Nat → δ → Decoder δ
  | _, draft, .closeObject :: rest => .ok (draft, rest)
  | fuel + 1, draft, .comma :: tokens => do
      let (draft, rest) ← layout.member draft tokens
      layout.moreMembers fuel draft rest
  | _, _, _ => .error .malformed

def elements : List (Field δ) → Nat → δ → Decoder δ
  | _, _, draft, .closeArray :: rest => .ok (draft, rest)
  | field :: fields, 0, draft, tokens => do
      let (draft, rest) ← (field.read draft).under (.index 0) tokens
      elements fields 1 draft rest
  | field :: fields, position + 1, draft, .comma :: tokens => do
      let (draft, rest) ← (field.read draft).under (.index (position + 1)) tokens
      elements fields (position + 2) draft rest
  | _, _, _, _ => .error .malformed

def Layout.lacking (layout : Layout δ) (draft : δ) : Option Nat :=
  layout.fields.findIdx? fun field => field.required && !field.filled draft

def Layout.fieldName (layout : Layout δ) (position : Nat) : String :=
  match layout.fields[position]? with
  | some field => field.name
  | none => ""

def Layout.sizeText (layout : Layout δ) : String :=
  layout.title ++ " with " ++ toString layout.fields.length ++
    (if layout.fields.length = 1 then " element" else " elements")

def Layout.ofObject (layout : Layout δ) (read : δ × List Token) : Except Failure (δ × List Token) :=
  match layout.lacking read.1 with
  | none => .ok read
  | some position => invalid (.missingField (layout.fieldName position))

def Layout.ofArray (layout : Layout δ) (read : δ × List Token) : Except Failure (δ × List Token) :=
  match layout.lacking read.1 with
  | none => .ok read
  | some position => invalid (.wrongLength position layout.sizeText)

def Layout.read (layout : Layout δ) (blank : δ) : Decoder δ
  | .openObject :: .closeObject :: rest => layout.ofObject (blank, rest)
  | .openObject :: tokens => do
      let (draft, rest) ← layout.member blank tokens
      let filled ← layout.moreMembers rest.length draft rest
      layout.ofObject filled
  | .openArray :: tokens => do
      let filled ← elements layout.fields 0 blank tokens
      layout.ofArray filled
  | tokens => unexpected layout.title tokens

end ConfigRegistry.Json
