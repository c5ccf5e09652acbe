import ConfigRegistry.Text.Bytes

set_option autoImplicit false

/-!
Percent-encoded bytes, and the name and value pairs of a form-encoded query.
-/
namespace ConfigRegistry.Text

def hexValue? (byte : UInt8) : Option Nat :=
  if 48 ≤ byte && byte ≤ 57 then some (byte.toNat - 48)
  else if 65 ≤ byte && byte ≤ 70 then some (byte.toNat - 55)
  else if 97 ≤ byte && byte ≤ 102 then some (byte.toNat - 87)
  else none

-- Each `%` and two hexadecimal digits stand for one byte; any other `%` stands for itself.
def percentDecode : Bytes → Bytes
  | 37 :: high :: low :: rest =>
      match hexValue? high, hexValue? low with
      | some h, some l => UInt8.ofNat (h * 16 + l) :: percentDecode rest
      | _, _ => 37 :: percentDecode (high :: low :: rest)
  | byte :: rest => byte :: percentDecode rest
  | [] => []

def splitAtByte (mark : UInt8) : Bytes → List Bytes
  | [] => [[]]
  | byte :: rest =>
      match splitAtByte mark rest with
      | [] => [[]]
      | piece :: pieces => if byte = mark then [] :: piece :: pieces else (byte :: piece) :: pieces

-- A name or value of a form: a plus sign is a space, and broken UTF-8 is replaced.
def formText (bytes : Bytes) : String :=
  ofBytesLossy (percentDecode (bytes.map fun byte => if byte = 43 then 32 else byte))

-- The pairs of a form, in order. Empty pieces between ampersands count for nothing.
def formPairs (query : Bytes) : List (String × String) :=
  ((splitAtByte 38 query).filter fun piece => !piece.isEmpty).map fun piece =>
    (formText (piece.takeWhile fun byte => byte != 61), formText ((piece.dropWhile fun byte => byte != 61).drop 1))

end ConfigRegistry.Text
