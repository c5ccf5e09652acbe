import ConfigRegistry.Throttle.Clock

set_option autoImplicit false

/-!
Amounts of tokens: the arithmetic that a bucket needs, in floating point and in exact fractions.
-/
namespace ConfigRegistry.Throttle

class Amount (α : Type) where
  ofNat : Nat → α
  gain : α → Span → α
  add : α → α → α
  sub : α → α → α
  least : α → α → α
  covers : α → α → Bool

def spanSeconds (span : Span) : Float :=
  Float.ofNat (span / second) + Float.ofNat (span % second) / Float.ofNat second

def leastFloat (a b : Float) : Float := if a.isNaN then b else if b.isNaN then a else if a ≤ b then a else b

instance : Amount Float where
  ofNat := Float.ofNat
  gain rate span := rate * spanSeconds span
  add a b := a + b
  sub a b := a - b
  least := leastFloat
  covers a b := a ≥ b

instance : Amount Rat where
  ofNat n := n
  gain rate span := rate * ((span : Rat) / (second : Rat))
  add a b := a + b
  sub a b := a - b
  least a b := if a ≤ b then a else b
  covers a b := b ≤ a

end ConfigRegistry.Throttle
