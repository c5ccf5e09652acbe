set_option autoImplicit false

/-!
Natural numbers written in decimal digits, below a bound.
-/
namespace ConfigRegistry.Number

def digit? (c : Char) : Option Nat := if '0' ≤ c && c ≤ '9' then some (c.toNat - 48) else none

def digitsFrom (start : Nat) : List Char → Option Nat
  | [] => some start
  | c :: rest => (digit? c).bind fun d => digitsFrom (start * 10 + d) rest

def digits? (chars : List Char) : Option Nat := if chars.isEmpty then none else digitsFrom 0 chars

-- A plus sign may stand before the digits; leading zeros count for nothing.
def wholeBelow? (bound : Nat) (text : String) : Option Nat :=
  let digits := match text.toList with
    | '+' :: rest => rest
    | chars => chars
  (digits? digits).filter fun n => n < bound

end ConfigRegistry.Number
