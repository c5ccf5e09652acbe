import ConfigRegistry.Text.Bytes

set_option autoImplicit false

/-!
Media types as far as telling JSON from anything else needs them.
-/
namespace ConfigRegistry.Http

def isTokenByte (byte : UInt8) : Bool :=
  (48 ≤ byte && byte ≤ 57) || (65 ≤ byte && byte ≤ 90) || (97 ≤ byte && byte ≤ 122) ||
    [33, 35, 36, 37, 38, 39, 42, 43, 45, 46, 94, 95, 96, 124, 126].contains byte

def lowerByte (byte : UInt8) : UInt8 := if 65 ≤ byte && byte ≤ 90 then byte + 32 else byte

def isQuotedByte (byte : UInt8) : Bool := 31 < byte && byte ≠ 127 && byte ≠ 34

def afterQuoted : Bytes → Option Bytes
  | [] => some []
  | 59 :: rest => some rest
  | 32 :: rest => afterQuoted rest
  | _ => none

def passValue : Bytes → Option Bytes
  | 34 :: rest =>
      match rest.takeWhile isQuotedByte, rest.dropWhile isQuotedByte with
      | _ :: _, 34 :: more => afterQuoted more
      | _, _ => none
  | bytes =>
      match bytes.takeWhile isTokenByte, bytes.dropWhile isTokenByte with
      | _, [] => some []
      | _ :: _, 59 :: more => some more
      | _, _ => none

def areParameters : Nat → Bytes → Bool
  | 0, bytes => bytes.isEmpty
  | fuel + 1, bytes =>
      match bytes with
      | [] => true
      | 32 :: rest => areParameters fuel rest
      | _ =>
          match bytes.takeWhile isTokenByte, bytes.dropWhile isTokenByte with
          | _ :: _, 61 :: rest =>
              match passValue rest with
              | some more => areParameters fuel more
              | none => false
          | _, _ => false

def splitSuffix (subtype : Bytes) : Bytes × Option Bytes :=
  let suffix := (subtype.reverse.takeWhile fun byte => byte ≠ 43).reverse
  let stem := subtype.take (subtype.length - suffix.length - 1)
  if suffix.length = subtype.length || stem.isEmpty then (subtype, none) else (stem, some suffix)

-- `application/json` or `application/` anything `+json`, in any case, with any parameters.
def isJsonType (value : Bytes) : Bool :=
  let lower := value.map lowerByte
  let top := lower.takeWhile isTokenByte
  match lower.dropWhile isTokenByte with
  | 47 :: rest =>
      let subtype := rest.takeWhile isTokenByte
      let sound := match rest.dropWhile isTokenByte with
        | [] => true
        | 59 :: parameters => areParameters parameters.length parameters
        | _ => false
      let (stem, suffix) := splitSuffix subtype
      let json := Text.toBytes "json"
      sound && top == Text.toBytes "application" && (stem == json || suffix == some json)
  | _ => false

end ConfigRegistry.Http
