set_option autoImplicit false

/-!
The instants of the clock, in nanoseconds, and the ends of what it can show.
-/
namespace ConfigRegistry.Throttle

abbrev Instant := Int

abbrev Span := Nat

def second : Nat := 1000000000

namespace Instant

def since (now earlier : Instant) : Span := (now - earlier).toNat

-- The clock counts seconds in a signed word of 64 bits; this is the first instant that it cannot show.
def bound : Instant := Int.pow 2 63 * (second : Int)

def Shown (instant : Instant) : Prop := -bound ≤ instant ∧ instant < bound

instance (instant : Instant) : Decidable instant.Shown := inferInstanceAs (Decidable (_ ∧ _))

-- The instant a span before; none if the clock cannot show it.
def before? (instant : Instant) (span : Span) : Option Instant :=
  if -bound ≤ instant - span then some (instant - span) else none

end Instant
end ConfigRegistry.Throttle
