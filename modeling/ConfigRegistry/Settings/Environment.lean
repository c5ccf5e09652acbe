import ConfigRegistry.Settings.Basic
import ConfigRegistry.Number.Whole

set_option autoImplicit false

/-!
Settings from environment variables.
-/
namespace ConfigRegistry.Settings

open Number (wholeBelow? float?)

def readVariable {α : Type} (environment : String → Option String) (name default : String)
    (read : String → Option α) : Except String α :=
  match read ((environment name).getD default) with
  | some value => .ok value
  | none => .error name

def ofEnvironment (environment : String → Option String) : Except String Settings := do
  let bindAddress ← readVariable environment "BIND_ADDR" "127.0.0.1:8080" Net.Address.parse?
  let redisUrl ← readVariable environment "REDIS_URL" "" some
  let keyScope ← readVariable environment "IDEMPOTENCY_KEY_PREFIX" "idempotency" some
  let ratePerSecond ← readVariable environment "RATE_LIMIT_PER_SECOND" "10" float?
  let burst ← readVariable environment "RATE_LIMIT_BURST" "20" (wholeBelow? (Nat.pow 2 32))
  let idleTtlSeconds ← readVariable environment "RATE_LIMIT_IDLE_TTL_SECS" "300" (wholeBelow? (Nat.pow 2 64))
  let bodyLimit ← readVariable environment "MAX_BODY_BYTES" "1048576" (wholeBelow? (Nat.pow 2 64))
  let logLevel ← readVariable environment "LOG_LEVEL" "info" some
  return { bindAddress, redisUrl, keyScope, ratePerSecond, burst, idleTtlSeconds, bodyLimit, logLevel }

end ConfigRegistry.Settings
