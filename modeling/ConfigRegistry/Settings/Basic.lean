import ConfigRegistry.Failure
import ConfigRegistry.Number.Decimal
import ConfigRegistry.Text.Blank

set_option autoImplicit false

/-!
The settings that the service starts with, and what they must be like.
-/
namespace ConfigRegistry

open Text (trim isBlank isBlankText trimWhere)

structure Settings where
  bindAddress : Net.Address
  -- Empty keeps records in memory.
  redisUrl : String
  keyScope : String
  ratePerSecond : Float
  burst : Nat
  idleTtlSeconds : Nat
  bodyLimit : Nat
  logLevel : String

namespace Settings

def logLevels : List String := ["trace", "debug", "info", "warn", "error"]

def checkRedisUrl (url : String) : Except ServiceFailure Unit :=
  let url := trim url
  if url.isEmpty || url.startsWith "redis://" || url.startsWith "rediss://" then .ok ()
  else .error (.configurationError "Redis URL must start with 'redis://' or 'rediss://'")

def checkRate (ratePerSecond : Float) (burst : Nat) : Except ServiceFailure Unit :=
  if !ratePerSecond.isFinite || ratePerSecond ≤ 0.0 then
    .error (.configurationError "Rate limit per second must be a positive number")
  else if burst = 0 then .error (.configurationError "Rate limit burst must be greater than 0")
  else .ok ()

def checkTtl (seconds : Nat) : Except ServiceFailure Unit :=
  if seconds = 0 then .error (.configurationError "Idle TTL must be greater than 0 seconds") else .ok ()

def checkBodyLimit (bytes : Nat) : Except ServiceFailure Unit :=
  if bytes = 0 then .error (.configurationError "Maximum body size must be greater than 0") else .ok ()

-- Something other than slashes and white space, and no white space anywhere.
def checkKeyScope (scope : String) : Except ServiceFailure Unit :=
  if (trimWhere (fun c => c = '/') scope.toList).all isBlank then
    .error (.configurationError "Idempotency key prefix cannot be empty")
  else if scope.toList.any isBlank then
    .error (.configurationError "Idempotency key prefix cannot contain whitespace")
  else .ok ()

def checkLogLevel (level : String) : Except ServiceFailure Unit :=
  if logLevels.contains level.toLower then .ok ()
  else .error (.configurationError ("Invalid log level '" ++ level ++ "'. Must be one of: [" ++
    ", ".intercalate (logLevels.map Text.quoted) ++ "]"))

-- The first setting that is not acceptable is the one reported.
def check (settings : Settings) : Except ServiceFailure Unit := do
  checkRedisUrl settings.redisUrl
  checkRate settings.ratePerSecond settings.burst
  checkTtl settings.idleTtlSeconds
  checkBodyLimit settings.bodyLimit
  checkKeyScope settings.keyScope
  checkLogLevel settings.logLevel

def idleSpan (settings : Settings) : Nat := settings.idleTtlSeconds * 1000000000

def isRemote (settings : Settings) : Bool := !isBlankText settings.redisUrl

end Settings
end ConfigRegistry
