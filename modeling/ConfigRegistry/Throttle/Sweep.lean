import ConfigRegistry.Throttle.Gate

set_option autoImplicit false

/-!
The sweep that evicts idle buckets in the background, once every time to live.
-/
namespace ConfigRegistry.Throttle

def millisecond : Nat := 1000000

-- Timers go off on whole milliseconds.
def Instant.rounded (instant : Instant) : Instant :=
  -(-instant / (millisecond : Int)) * (millisecond : Int)

-- How late a tick may be without moving the ones after it.
def tolerance : Span := 5 * millisecond

structure Sweep where
  ttl : Span
  deadline : Instant
deriving DecidableEq, Repr

namespace Sweep

-- The first tick is due one time to live from now. A sweep without a period, or whose first tick the clock cannot
-- show, does not start.
def start? (now : Instant) (ttl : Span) : Option Sweep :=
  if ttl = 0 || Instant.bound ≤ now + ttl then none else some ⟨ttl, now + ttl⟩

def dueAt (sweep : Sweep) : Instant := sweep.deadline.rounded

-- The sweep after the ticks that a timer serves at `now`. Ticks that are due within one millisecond are served
-- together, and a tick that is late beyond the tolerance starts a new period.
def ticked (sweep : Sweep) (now : Instant) : Sweep :=
  if sweep.deadline + tolerance < now then { sweep with deadline := now + sweep.ttl }
  else { sweep with deadline := sweep.deadline + ((now - sweep.deadline) / sweep.ttl + 1) * sweep.ttl }

variable {α : Type} [Amount α]

def serve (sweep : Sweep) (gate : Gate α) (now : Instant) : Sweep × Gate α :=
  if sweep.dueAt ≤ now then (sweep.ticked now, (gate.evict now sweep.ttl).2) else (sweep, gate)

-- Lets time pass up to `now` with each tick served when its timer goes off. As nobody is admitted on the way, the
-- last tick evicts whatever the ones before it would.
def elapse (sweep : Sweep) (gate : Gate α) (now : Instant) : Sweep × Gate α :=
  if sweep.dueAt ≤ now then
    let last : Sweep := { sweep with deadline := sweep.deadline + (now - sweep.deadline) / sweep.ttl * sweep.ttl }
    last.serve gate last.dueAt
  else (sweep, gate)

-- Serves the tick that is due, if one is. A late tick makes the next instant by a sum that fails where the clock cannot
-- show it; nobody is evicted then, and the sweep is over.
def attend (sweep : Sweep) (gate : Gate α) (now : Instant) : Option Sweep × Gate α :=
  if sweep.dueAt ≤ now ∧ sweep.deadline + tolerance < now ∧ Instant.bound ≤ now + sweep.ttl then (none, gate)
  else (some (sweep.serve gate now).1, (sweep.serve gate now).2)

end Sweep
end ConfigRegistry.Throttle
