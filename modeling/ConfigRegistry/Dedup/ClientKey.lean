import ConfigRegistry.Text.Base64

set_option autoImplicit false

/-!
The key that a client gives to a request, from the value of its header.
-/
namespace ConfigRegistry.Dedup

def isHeaderBlank (byte : UInt8) : Bool := byte = 32 || (9 ≤ byte && byte ≤ 13 && byte ≠ 11)

def trimHeader (value : Bytes) : Bytes :=
  ((value.dropWhile isHeaderBlank).reverse.dropWhile isHeaderBlank).reverse

def isHeaderValue (value : Bytes) : Bool := value.all fun byte => byte = 9 || (32 ≤ byte && byte ≠ 127)

-- Marks a key that was no UTF-8 and is kept in Base64.
def binaryMark : String := "b64:"

-- The key is opaque: UTF-8 is kept as sent, any other bytes in Base64. A blank value is no key.
def clientKey? (value : Bytes) : Option String :=
  let raw := trimHeader value
  if raw.isEmpty then none
  else match Text.ofBytes? raw with
    | some key => some key
    | none => some (binaryMark ++ Text.Base64.encode Text.Base64.urlSafe raw)

def clientKeyOf (values : List Bytes) : Option String := values.head?.bind clientKey?

end ConfigRegistry.Dedup
