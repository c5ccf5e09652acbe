set_option autoImplicit false

/-!
The fewest decimal digits that read back as a given floating-point number, and the layout that shows them.
A finite number stands for all reals that round to it; the coarsest grid of powers of ten that has a point
among them gives the digits.
-/
namespace ConfigRegistry.Number

structure Neighbourhood where
  value : Nat
  low : Nat
  high : Nat
  scale : Nat
  closed : Bool

-- The reals that round to the number with significand field `fraction` and exponent field `exponent`.
def neighbourhood (exponent fraction : Nat) : Neighbourhood :=
  let significand := if exponent = 0 then fraction else fraction + Nat.pow 2 52
  let power : Int := (if exponent = 0 then 1 else (exponent : Int)) - 1077
  let up := Nat.pow 2 power.toNat
  -- Below a power of two the numbers lie twice as close.
  let lower := if fraction = 0 && 1 < exponent then 1 else 2
  { value := 4 * significand * up
    low := (4 * significand - lower) * up
    high := (4 * significand + 2) * up
    scale := Nat.pow 2 (-power).toNat
    closed := significand % 2 = 0 }

def Neighbourhood.holds (area : Neighbourhood) (num den : Nat) : Bool :=
  let point := num * area.scale
  if area.closed then area.low * den ≤ point && point ≤ area.high * den
  else area.low * den < point && point < area.high * den

def Neighbourhood.onGrid (area : Neighbourhood) (power : Int) : Option Nat :=
  let num := Nat.pow 10 power.toNat
  let den := Nat.pow 10 (-power).toNat
  let below := area.value * den / (area.scale * num)
  let above := below + 1
  let belowFits := 0 < below && area.holds (below * num) den
  let aboveFits := area.holds (above * num) den
  if belowFits && aboveFits then
    let twice := 2 * area.value * den
    let middle := (below + above) * num * area.scale
    if twice < middle || (twice = middle && below % 2 = 0) then some below else some above
  else if belowFits then some below
  else if aboveFits then some above
  else none

def Neighbourhood.coarsest (area : Neighbourhood) : Nat → Int → Nat × Int
  | 0, power => (area.value, power)
  | count + 1, power =>
      match area.onGrid power with
      | some digits => (digits, power)
      | none => area.coarsest count (power - 1)

def shortestDigits (exponent fraction : Nat) : Nat × Int :=
  (neighbourhood exponent fraction).coarsest 660 310

-- Positional from `0.0001` to below `10 ^ 16`, else with a signed exponent of at least two digits; a whole number
-- shows one zero after the point.
def layOut (digits : Nat) (power : Int) : String :=
  let shown := (toString digits).toList
  let count := shown.length
  let lead : Int := power + count - 1
  if 0 ≤ power && lead < 16 then
    String.ofList (shown ++ List.replicate power.toNat '0' ++ ['.', '0'])
  else if 0 ≤ lead && lead < 16 then
    let whole := (lead + 1).toNat
    String.ofList (shown.take whole ++ '.' :: shown.drop whole)
  else if -5 < lead && lead < 0 then
    String.ofList ('0' :: '.' :: List.replicate (-lead - 1).toNat '0' ++ shown)
  else
    let mantissa := match shown with
      | [only] => [only]
      | first :: rest => first :: '.' :: rest
      | [] => []
    let exponent := toString lead.natAbs
    let padded := if lead.natAbs < 10 then "0" ++ exponent else exponent
    String.ofList mantissa ++ (if lead < 0 then "e-" else "e+") ++ padded

def floatText (number : Float) : String :=
  let bits := number.toBits.toNat
  let negative := Nat.pow 2 63 ≤ bits
  let exponent := bits / Nat.pow 2 52 % 2048
  let fraction := bits % Nat.pow 2 52
  let magnitude :=
    if exponent = 2047 then (if fraction = 0 then "inf" else "NaN")
    else if exponent = 0 && fraction = 0 then "0.0"
    else
      let found := shortestDigits exponent fraction
      layOut found.1 found.2
  if negative then "-" ++ magnitude else magnitude

end ConfigRegistry.Number
