import ConfigRegistry.Json.Token

set_option autoImplicit false

/-!
Cutting bytes into JSON tokens. Scanning stops at the first byte that cannot belong to one.
-/
namespace ConfigRegistry.Json

def isSpace (byte : UInt8) : Bool := byte = 32 || byte = 10 || byte = 13 || byte = 9

def isDigit (byte : UInt8) : Bool := 48 ≤ byte && byte ≤ 57

-- The bytes up to the closing quote, put onto `out` in reverse, and those after it. Escapes must be well formed,
-- and controls must be escaped.
def scanText (out : Bytes) : Bytes → Option (Bytes × Bytes)
  | [] => none
  | 34 :: rest => some (out.reverse, rest)
  | 92 :: 117 :: a :: b :: c :: d :: rest =>
      match hexUnit? a b c d with
      | some _ => scanText (d :: c :: b :: a :: 117 :: 92 :: out) rest
      | none => none
  | 92 :: mark :: rest =>
      match shortEscape? mark with
      | some _ => scanText (mark :: 92 :: out) rest
      | none => none
  | byte :: rest => if byte < 32 || byte = 92 then none else scanText (byte :: out) rest

def scanFraction : Bytes → Option (Option Bytes × Bytes)
  | 46 :: rest =>
      let digits := rest.takeWhile isDigit
      if digits.isEmpty then none else some (some digits, rest.dropWhile isDigit)
  | rest => some (none, rest)

def scanPowerDigits (mark : Bytes) (rest : Bytes) : Option (Option (Bytes × Bytes) × Bytes) :=
  let digits := rest.takeWhile isDigit
  if digits.isEmpty then none else some (some (mark, digits), rest.dropWhile isDigit)

def scanPower : Bytes → Option (Option (Bytes × Bytes) × Bytes)
  | mark :: rest =>
      if mark = 101 || mark = 69 then
        match rest with
        | sign :: more =>
            if sign = 43 || sign = 45 then scanPowerDigits [mark, sign] more else scanPowerDigits [mark] rest
        | [] => none
      else some (none, mark :: rest)
  | [] => some (none, [])

def scanUnsigned (negative : Bool) (bytes : Bytes) : Option (Literal × Bytes) := do
  let whole := bytes.takeWhile isDigit
  if whole.isEmpty || (whole.head? = some 48 && whole.length ≠ 1) then none
  let (fraction, rest) ← scanFraction (bytes.dropWhile isDigit)
  let (power, rest) ← scanPower rest
  return (⟨negative, whole, fraction, power⟩, rest)

def scanWord (letters : Bytes) (token : Token) (rest : Bytes) : Option (Token × Bytes) :=
  if rest.take letters.length = letters then some (token, rest.drop letters.length) else none

def scanToken (byte : UInt8) (rest : Bytes) : Option (Token × Bytes) :=
  if byte = 123 then some (.openObject, rest)
  else if byte = 125 then some (.closeObject, rest)
  else if byte = 91 then some (.openArray, rest)
  else if byte = 93 then some (.closeArray, rest)
  else if byte = 58 then some (.colon, rest)
  else if byte = 44 then some (.comma, rest)
  else if byte = 34 then (scanText [] rest).map fun found => (.text found.1, found.2)
  else if byte = 110 then scanWord [117, 108, 108] .null rest
  else if byte = 116 then scanWord [114, 117, 101] (.boolean true) rest
  else if byte = 102 then scanWord [97, 108, 115, 101] (.boolean false) rest
  else if byte = 45 then (scanUnsigned true rest).map fun found => (.number found.1, found.2)
  else if isDigit byte then (scanUnsigned false (byte :: rest)).map fun found => (.number found.1, found.2)
  else none

def scanUpTo : Nat → Bytes → List Token
  | 0, _ => []
  | fuel + 1, bytes =>
      match bytes.dropWhile isSpace with
      | [] => []
      | byte :: rest =>
          match scanToken byte rest with
          | some (token, rest) => token :: scanUpTo fuel rest
          | none => [.broken]

-- Every token takes at least one byte, so there are no more of them than bytes.
def scan (bytes : Bytes) : List Token := scanUpTo bytes.length bytes

end ConfigRegistry.Json
