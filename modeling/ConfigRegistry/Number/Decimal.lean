import ConfigRegistry.Number.Whole

set_option autoImplicit false

/-!
Decimal literals and the binary floating-point numbers nearest to them.
-/
namespace ConfigRegistry.Number

structure Decimal where
  negative : Bool
  digits : Nat
  exponent : Int
deriving DecidableEq, Repr

def infinity : Float := 1.0 / 0.0

-- Exponents that put the number out of range are cut off before any power of ten is computed.
def Decimal.toFloat (decimal : Decimal) : Float :=
  let magnitude :=
    if decimal.digits = 0 then 0.0
    else if 400 < decimal.exponent then infinity
    else if decimal.exponent < -(400 + (decimal.digits.log2 : Int)) then 0.0
    else if 0 ≤ decimal.exponent then Float.ofScientific decimal.digits false decimal.exponent.toNat
    else Float.ofScientific decimal.digits true (-decimal.exponent).toNat
  if decimal.negative then -magnitude else magnitude

def splitSign : List Char → Bool × List Char
  | '+' :: rest => (false, rest)
  | '-' :: rest => (true, rest)
  | chars => (false, chars)

def isDigit (c : Char) : Bool := (digit? c).isSome

def Decimal.parse? (text : String) : Option Decimal :=
  let (negative, chars) := splitSign text.toList
  let whole := chars.takeWhile isDigit
  let afterWhole := chars.dropWhile isDigit
  let (fraction, tail) := match afterWhole with
    | '.' :: rest => (rest.takeWhile isDigit, rest.dropWhile isDigit)
    | rest => ([], rest)
  match digits? (whole ++ fraction) with
  | none => none
  | some digits =>
      let shift : Int := -(fraction.length : Int)
      match tail with
      | [] => some ⟨negative, digits, shift⟩
      | c :: rest =>
          if c = 'e' || c = 'E' then
            let (down, power) := splitSign rest
            (digits? power).map fun n => ⟨negative, digits, shift + if down then -(n : Int) else n⟩
          else none

def float? (text : String) : Option Float :=
  let (negative, chars) := splitSign text.toList
  let name := chars.map Char.toLower
  if name = "inf".toList || name = "infinity".toList then some (if negative then -infinity else infinity)
  else if name = "nan".toList then some (0.0 / 0.0)
  else (Decimal.parse? text).map Decimal.toFloat

end ConfigRegistry.Number
