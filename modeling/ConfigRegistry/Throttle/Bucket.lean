import ConfigRegistry.Throttle.Amount

set_option autoImplicit false

/-!
A bucket of tokens that fills at a steady rate up to its capacity.
-/
namespace ConfigRegistry.Throttle

structure Bucket (α : Type) where
  capacity : α
  rate : α
  tokens : α
  -- The latest instant up to which tokens were added.
  filledAt : Instant
  -- The instant of the last attempt, which may lie before that of an earlier one.
  seenAt : Instant

namespace Bucket

variable {α : Type} [Amount α]

def full (capacity : Nat) (rate : α) (now : Instant) : Bucket α where
  capacity := Amount.ofNat capacity
  rate
  tokens := Amount.ofNat capacity
  filledAt := now
  seenAt := now

-- Adds what has come in since the last time; an earlier instant adds nothing and moves nothing back.
def fill (bucket : Bucket α) (now : Instant) : Bucket α :=
  { bucket with
    tokens := Amount.least
      (Amount.add bucket.tokens (Amount.gain bucket.rate (now.since bucket.filledAt))) bucket.capacity
    filledAt := max bucket.filledAt now }

def take (bucket : Bucket α) (count : Nat) (now : Instant) : Bool × Bucket α :=
  let filled := { bucket.fill now with seenAt := now }
  if Amount.covers filled.tokens (Amount.ofNat count) then
    (true, { filled with tokens := Amount.sub filled.tokens (Amount.ofNat count) })
  else (false, filled)

def isIdle (bucket : Bucket α) (cutoff : Instant) : Bool := bucket.seenAt < cutoff

-- The most tokens below `2 ^ 32` that an attempt at `now` would be granted; none if even an attempt to take nothing
-- would fail.
def available (bucket : Bucket α) (now : Instant) : Option Nat :=
  let tokens := (bucket.fill now).tokens
  if Amount.covers tokens (Amount.ofNat 0) then
    some <| (List.range 32).reverse.foldl (fun count bit =>
      if Amount.covers tokens (Amount.ofNat (count + Nat.pow 2 bit)) then count + Nat.pow 2 bit else count) 0
  else none

end Bucket
end ConfigRegistry.Throttle
