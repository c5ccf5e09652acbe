import ConfigRegistry.Text.Bytes

set_option autoImplicit false

/-!
Base64 in two alphabets: the standard one, padded, and the one for keys, unpadded.
Reading accepts only what writing produces: full groups, padding in the last one, no stray bits.
-/
namespace ConfigRegistry.Text.Base64

-- The last two symbols tell the alphabets apart.
structure Alphabet where
  symbol62 : Char
  symbol63 : Char
  padded : Bool
deriving DecidableEq, Repr

def standard : Alphabet := ⟨'+', '/', true⟩
def urlSafe : Alphabet := ⟨'-', '_', false⟩

def Alphabet.symbol (alphabet : Alphabet) (n : Nat) : Char :=
  if n < 26 then Char.ofNat (65 + n)
  else if n < 52 then Char.ofNat (97 + (n - 26))
  else if n < 62 then Char.ofNat (48 + (n - 52))
  else if n = 62 then alphabet.symbol62
  else alphabet.symbol63

def Alphabet.value? (alphabet : Alphabet) (c : Char) : Option Nat :=
  if 'A' ≤ c && c ≤ 'Z' then some (c.toNat - 65)
  else if 'a' ≤ c && c ≤ 'z' then some (c.toNat - 97 + 26)
  else if '0' ≤ c && c ≤ '9' then some (c.toNat - 48 + 52)
  else if c = alphabet.symbol62 then some 62
  else if c = alphabet.symbol63 then some 63
  else none

def Alphabet.padding (alphabet : Alphabet) (count : Nat) : List Char :=
  if alphabet.padded then List.replicate count '=' else []

-- Writes three bytes at a time onto `out`, which is reversed.
def writeGroups (alphabet : Alphabet) (out : List Char) : Bytes → List Char
  | a :: b :: c :: rest =>
      let n := a.toNat * 65536 + b.toNat * 256 + c.toNat
      writeGroups alphabet
        (alphabet.symbol (n % 64) :: alphabet.symbol (n / 64 % 64) :: alphabet.symbol (n / 4096 % 64) ::
          alphabet.symbol (n / 262144) :: out) rest
  | [a, b] =>
      let n := a.toNat * 256 + b.toNat
      alphabet.padding 1 ++ alphabet.symbol (n % 16 * 4) :: alphabet.symbol (n / 16 % 64) ::
        alphabet.symbol (n / 1024) :: out
  | [a] =>
      alphabet.padding 2 ++ alphabet.symbol (a.toNat % 4 * 16) :: alphabet.symbol (a.toNat / 4) :: out
  | [] => out

def encode (alphabet : Alphabet) (bytes : Bytes) : String :=
  String.ofList (writeGroups alphabet [] bytes).reverse

-- Reads padded groups of four symbols onto `out`, which is reversed.
def readGroups (alphabet : Alphabet) (out : Bytes) : List Char → Option Bytes
  | [] => some out.reverse
  | [w, x, '=', '='] => do
      let a ← alphabet.value? w
      let b ← alphabet.value? x
      if b % 16 = 0 then some (UInt8.ofNat (a * 4 + b / 16) :: out).reverse else none
  | [w, x, y, '='] => do
      let a ← alphabet.value? w
      let b ← alphabet.value? x
      let c ← alphabet.value? y
      if c % 4 = 0 then
        some (UInt8.ofNat (b % 16 * 16 + c / 4) :: UInt8.ofNat (a * 4 + b / 16) :: out).reverse
      else none
  | w :: x :: y :: z :: rest =>
      match alphabet.value? w, alphabet.value? x, alphabet.value? y, alphabet.value? z with
      | some a, some b, some c, some d =>
          readGroups alphabet
            (UInt8.ofNat (c % 4 * 64 + d) :: UInt8.ofNat (b % 16 * 16 + c / 4) ::
              UInt8.ofNat (a * 4 + b / 16) :: out) rest
      | _, _, _, _ => none
  | _ => none

def decode? (text : String) : Option Bytes := readGroups standard [] text.toList

end ConfigRegistry.Text.Base64
