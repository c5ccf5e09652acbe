import ConfigRegistry.Store.Memory
import ConfigRegistry.Throttle.Amount
import ConfigRegistry.Work.Job

set_option autoImplicit false

/-!
The health report of the service.
-/
namespace ConfigRegistry.Service

open Work (Job)
open Json (Token)

structure Clock where
  now : Throttle.Instant
  timestamp : Nat := 0
  uptime : Nat := 0
deriving DecidableEq, Repr

def serviceVersion : String := "0.1.0"

def healthTokens (clock : Clock) (ping : Except StoreFailure Unit) : List Token :=
  let healthy := ping.isOk
  let failure := match ping with
    | .ok () => .null
    | .error failure => .ofText failure.message
  let store := Json.object [("backend", [.ofText Store.Memory.backend]),
    ("status", [.ofText (if healthy then "healthy" else "unavailable")]),
    ("response_time_ms", [.ofNat 0]), ("error", [failure])]
  Json.object [("status", [.ofText (if healthy then "healthy" else "degraded")]),
    ("timestamp", [.ofNat clock.timestamp]), ("version", [.ofText serviceVersion]),
    ("uptime_seconds", [.ofNat clock.uptime]), ("dependencies", Json.object [("store", store)])]

def health (clock : Clock) : Job Http.Response :=
  .ask .ping fun ping => .done (.json 200 (Json.render (healthTokens clock ping)))

end ConfigRegistry.Service
