import ConfigRegistry.Settings.Options
import ConfigRegistry.Service.Pipeline
import ConfigRegistry.Store.Endpoint
import ConfigRegistry.Throttle.Sweep

set_option autoImplicit false

/-!
From the settings to a service that can take requests.
-/
namespace ConfigRegistry.Service

open Dedup (Desk)
open Throttle (Gate Instant Sweep)

inductive Backend where
  | memory
  | remote (endpoint : Store.Endpoint)
deriving DecidableEq, Repr

inductive StartFailure where
  | load (failure : Settings.LoadFailure)
  | service (failure : ServiceFailure)
deriving DecidableEq, Repr

structure Started where
  settings : Settings
  backend : Backend
  desk : Desk
  gate : Gate Float

def start (dial : Store.Endpoint → Option Store.SystemFault) (environment : String → Option String)
    (arguments : List String) : Except StartFailure Started := do
  let settings ← (Settings.load environment arguments).mapError .load
  settings.check.mapError .service
  let backend ←
    if settings.isRemote then
      match Store.connect dial (Text.trim settings.redisUrl) with
      | .ok endpoint => .ok (.remote endpoint)
      | .error failure => .error (.service (.ofStore failure))
    else .ok .memory
  return {
    settings, backend
    desk := Desk.ofScope settings.keyScope settings.bodyLimit
    gate := { rate := settings.ratePerSecond, burst := settings.burst } }

def Started.sweep? (started : Started) (now : Instant) : Option Sweep :=
  Sweep.start? now started.settings.idleSpan

end ConfigRegistry.Service
