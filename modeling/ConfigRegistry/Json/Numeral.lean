import ConfigRegistry.Json.Token
import ConfigRegistry.Number.Decimal

set_option autoImplicit false

/-!
What the literal of a number stands for: a whole number of at most 64 bits, or else a floating-point number
of its first digits scaled by one power of ten.
-/
namespace ConfigRegistry.Json

open Number (infinity)

inductive Numeral where
  | natural (value : Nat)
  | negative (below : Nat)
  | real (value : Float)

def wordBound : Nat := Nat.pow 2 64

def digitValue (byte : UInt8) : Nat := byte.toNat - 48

def takeDigits (start : Nat) : Bytes → Nat × Nat
  | [] => (start, 0)
  | digit :: rest =>
      let next := start * 10 + digitValue digit
      if next < wordBound then takeDigits next rest else (start, rest.length + 1)

-- Multiplies or divides once by a power of ten, after as many divisions by `10 ^ 308` as a small exponent needs;
-- none when the result is out of range.
def scaleUp (significand : Float) (power : Nat) : Option Float :=
  if significand == 0.0 then some significand
  else if 308 < power then none
  else
    let scaled := significand * Float.ofScientific 1 false power
    if scaled == infinity then none else some scaled

-- Every significand below `2 ^ 64` has gone to zero after two divisions by `10 ^ 308`.
def scaleDown : Nat → Float → Nat → Float
  | 0, _, _ => 0.0
  | steps + 1, significand, power =>
      if significand == 0.0 then significand
      else if power ≤ 308 then significand / Float.ofScientific 1 false power
      else scaleDown steps (significand / Float.ofScientific 1 false 308) (power - 308)

def scaled? (negative : Bool) (significand : Nat) (power : Int) : Option Numeral :=
  let magnitude :=
    if 0 ≤ power then scaleUp (Float.ofNat significand) power.toNat
    else some (scaleDown 4 (Float.ofNat significand) (-power).toNat)
  magnitude.map fun value => .real (if negative then -value else value)

def powerBound : Nat := Nat.pow 2 31

-- The number of the digits of an exponent, cut off above every exponent that makes a difference.
def powerValue (digits : Bytes) : Nat :=
  digits.foldl (fun n digit => if powerBound ≤ n then n else n * 10 + digitValue digit) 0

-- None for a number out of range. Digits that do not fit into 64 bits are dropped.
def Literal.numeral? (literal : Literal) : Option Numeral :=
  let (whole, surplus) := takeDigits 0 literal.whole
  match literal.fraction, literal.power with
  | none, none =>
      if surplus = 0 then
        if literal.negative then
          if whole = 0 then some (.real (-0.0))
          else if whole ≤ Nat.pow 2 63 then some (.negative (whole - 1))
          else some (.real (-(Float.ofNat whole)))
        else some (.natural whole)
      else scaled? literal.negative whole surplus
  | fraction, power =>
      let digits := fraction.getD []
      let (significand, dropped) := takeDigits whole digits
      let places : Int := (surplus : Int) - (digits.length - dropped : Nat)
      let shift : Int := match power with
        | none => 0
        | some (mark, digits) =>
            if mark.contains 45 then -(powerValue digits : Int) else powerValue digits
      scaled? literal.negative significand (places + shift)

end ConfigRegistry.Json
