import ConfigRegistry.Throttle.Bucket
import ConfigRegistry.KeyMap

set_option autoImplicit false

/-!
The gate that admits requests, one bucket for each identity. A bucket is made full on first sight and dropped
when its identity has not been seen for a while.
-/
namespace ConfigRegistry.Throttle

structure Gate (α : Type) where
  rate : α
  burst : Nat
  buckets : KeyMap (Bucket α) := .empty

namespace Gate

variable {α : Type} [Amount α]

def bucketFor (gate : Gate α) (identity : String) (now : Instant) : Bucket α :=
  (gate.buckets.get? identity).getD (Bucket.full gate.burst gate.rate now)

def enter (gate : Gate α) (identity : String) (now : Instant) : Bool × Gate α :=
  let taken := (gate.bucketFor identity now).take 1 now
  (taken.1, { gate with buckets := gate.buckets.insert identity taken.2 })

def size (gate : Gate α) : Nat := gate.buckets.size

-- Drops the buckets that were last seen before a cutoff, and tells how many. Without a cutoff all of them stay.
def drop (gate : Gate α) : Option Instant → Nat × Gate α
  | none => (0, gate)
  | some cutoff =>
      let kept := gate.buckets.filter fun _ bucket => !bucket.isIdle cutoff
      (gate.buckets.size - kept.size, { gate with buckets := kept })

-- Drops the buckets that were last seen more than `ttl` ago. If the clock cannot show that instant, none was.
def evict (gate : Gate α) (now : Instant) (ttl : Span) : Nat × Gate α := gate.drop (now.before? ttl)

end Gate
end ConfigRegistry.Throttle
