import ConfigRegistry.Json.Decode

set_option autoImplicit false

/-!
JSON values of any shape, with their numbers and texts as they are written.
-/
namespace ConfigRegistry.Json

inductive Value where
  | null
  | boolean (value : Bool)
  | number (literal : Literal)
  | text (raw : Bytes)
  | list (items : List Value)
  | object (members : List (Bytes × Value))

namespace Value

mutual

def tokens : Value → List Token
  | null => [.null]
  | boolean value => [.boolean value]
  | number literal => [.number literal]
  | text raw => [.text raw]
  | list items => .openArray :: itemTokens items ++ [.closeArray]
  | object members => .openObject :: memberTokens members ++ [.closeObject]

def itemTokens : List Value → List Token
  | [] => []
  | [only] => only.tokens
  | first :: rest => first.tokens ++ .comma :: itemTokens rest

def memberTokens : List (Bytes × Value) → List Token
  | [] => []
  | [(name, only)] => .text name :: .colon :: only.tokens
  | (name, first) :: rest => .text name :: .colon :: first.tokens ++ .comma :: memberTokens rest

end

mutual

def read : Nat → Decoder Value
  | _, .null :: rest => .ok (null, rest)
  | _, .boolean value :: rest => .ok (boolean value, rest)
  | _, .number literal :: rest => .ok (number literal, rest)
  | _, .text raw :: rest => .ok (text raw, rest)
  | _, .openArray :: .closeArray :: rest => .ok (list [], rest)
  | _, .openObject :: .closeObject :: rest => .ok (object [], rest)
  | fuel + 1, .openArray :: rest => do
      let (items, rest) ← readItems fuel rest
      return (list items, rest)
  | fuel + 1, .openObject :: rest => do
      let (members, rest) ← readMembers fuel rest
      return (object members, rest)
  | _, _ => .error .malformed

def readItems : Nat → Decoder (List Value)
  | 0, _ => .error .malformed
  | fuel + 1, tokens => do
      let (item, rest) ← read fuel tokens
      match rest with
      | .closeArray :: rest => return ([item], rest)
      | .comma :: rest =>
          let (items, rest) ← readItems fuel rest
          return (item :: items, rest)
      | _ => .error .malformed

def readMembers : Nat → Decoder (List (Bytes × Value))
  | fuel + 1, .text name :: .colon :: tokens => do
      let (value, rest) ← read fuel tokens
      match rest with
      | .closeObject :: rest => return ([(name, value)], rest)
      | .comma :: rest =>
          let (members, rest) ← readMembers fuel rest
          return ((name, value) :: members, rest)
      | _ => .error .malformed
  | _, _ => .error .malformed

end

def parse? (bytes : Bytes) : Option Value :=
  match Decoder.whole (fun tokens => read tokens.length tokens) bytes with
  | .ok value => some value
  | .error _ => none

def render (value : Value) : Bytes := Json.render value.tokens

end Value
end ConfigRegistry.Json
