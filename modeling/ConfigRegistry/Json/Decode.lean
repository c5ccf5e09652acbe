import ConfigRegistry.Json.Failure
import ConfigRegistry.Json.Scan
import ConfigRegistry.Json.Numeral
import ConfigRegistry.Number.Shortest
import ConfigRegistry.KeyMap

set_option autoImplicit false

/-!
Reading typed values from tokens. The first problem in the order of the text is the one reported: a wrong type
before a later broken token is a wrong type.
-/
namespace ConfigRegistry.Json

abbrev Decoder (α : Type) := List Token → Except Failure (α × List Token)

variable {α β δ : Type}

def Decoder.under (segment : Segment) (decoder : Decoder α) : Decoder α := fun tokens =>
  (decoder tokens).mapError (Failure.under segment)

def Decoder.map (f : α → β) (decoder : Decoder α) : Decoder β := fun tokens => do
  let (value, rest) ← decoder tokens
  return (f value, rest)

def invalid (problem : Problem) : Except Failure α := .error (.invalid [] problem)

def Found.ofNumeral : Numeral → Found
  | .natural value => .integer value
  | .negative below => .integer (Int.negSucc below)
  | .real value => .real (Number.floatText value)

def Found.ofToken? : Token → Option Found
  | .null => some .null
  | .boolean value => some (.boolean value)
  | .number literal => literal.numeral?.map Found.ofNumeral
  | .text raw => (readText? raw).map .text
  | .openArray => some .sequence
  | .openObject => some .map
  | _ => none

def unexpected (expected : String) : List Token → Except Failure α
  | [] => .error .malformed
  | token :: _ =>
      match Found.ofToken? token with
      | some found => invalid (.wrongType found expected)
      | none => .error .malformed

def text : Decoder String
  | .text raw :: rest =>
      match readText? raw with
      | some value => .ok (value, rest)
      | none => .error .malformed
  | tokens => unexpected "a string" tokens

def natural (bound : Nat) (expected : String) : Decoder Nat
  | .number literal :: rest =>
      match literal.numeral? with
      | none => .error .malformed
      | some (.natural value) =>
          if value < bound then .ok (value, rest) else invalid (.wrongValue (.integer value) expected)
      | some (.negative below) => invalid (.wrongValue (.integer (Int.negSucc below)) expected)
      | some (.real value) => invalid (.wrongType (.real (Number.floatText value)) expected)
  | tokens => unexpected expected tokens

-- A number that a word of 16 bits has room for.
def word : Decoder UInt16 := (natural UInt16.size "u16").map UInt16.ofNat

def optional (decoder : Decoder α) : Decoder (Option α)
  | .null :: rest => .ok (none, rest)
  | tokens => decoder.map some tokens

def variant (expected : String) (find : String → Option α) : Decoder α
  | .text raw :: rest =>
      match readText? raw with
      | none => .error .malformed
      | some name => match find name with
        | some value => .ok (value, rest)
        | none => invalid (.unknownVariant name expected)
  | .openObject :: rest => do
      let (name, rest) ← match rest with
        | .text raw :: more => text (.text raw :: more)
        | tokens => unexpected "variant identifier" tokens
      match find name with
      | none => invalid (.unknownVariant name expected)
      | some value => match rest with
        | .colon :: .null :: .closeObject :: more => .ok (value, more)
        | .colon :: .null :: _ => .error .malformed
        | .colon :: tokens => unexpected "unit" tokens
        | _ => .error .malformed
  | _ => .error .malformed

def moreItems (item : Decoder α) : Nat → Nat → Decoder (List α)
  | _, _, .closeArray :: rest => .ok ([], rest)
  | fuel + 1, position, .comma :: tokens => do
      let (value, rest) ← item.under (.index position) tokens
      let (values, rest) ← moreItems item fuel (position + 1) rest
      return (value :: values, rest)
  | _, _, _ => .error .malformed

def list (item : Decoder α) : Decoder (List α)
  | .openArray :: .closeArray :: rest => .ok ([], rest)
  | .openArray :: tokens => do
      let (value, rest) ← item.under (.index 0) tokens
      let (values, rest) ← moreItems item rest.length 1 rest
      return (value :: values, rest)
  | tokens => unexpected "a sequence" tokens

-- Reads one member into the map; a repeated key keeps the last value.
def member (value : Decoder β) (map : KeyMap β) : Decoder (KeyMap β)
  | .text raw :: tokens =>
      match readText? raw, tokens with
      | some key, .colon :: tokens => do
          let (found, rest) ← value.under (.key key) tokens
          return (map.insert key found, rest)
      | _, _ => .error .malformed
  | _ => .error .malformed

def moreMembers (value : Decoder β) : Nat → KeyMap β → Decoder (KeyMap β)
  | _, map, .closeObject :: rest => .ok (map, rest)
  | fuel + 1, map, .comma :: tokens => do
      let (map, rest) ← member value map tokens
      moreMembers value fuel map rest
  | _, _, _ => .error .malformed

def keyMap (value : Decoder β) : Decoder (KeyMap β)
  | .openObject :: .closeObject :: rest => .ok (.empty, rest)
  | .openObject :: tokens => do
      let (map, rest) ← member value .empty tokens
      moreMembers value rest.length map rest
  | tokens => unexpected "a map" tokens

def Decoder.leading (decoder : Decoder α) (bytes : Bytes) : Except Failure α :=
  (decoder (scan bytes)).map Prod.fst

def Decoder.whole (decoder : Decoder α) (bytes : Bytes) : Except Failure α := do
  let (value, rest) ← decoder (scan bytes)
  if rest.isEmpty then return value else .error .malformed

end ConfigRegistry.Json
