import ConfigRegistry.Http.Message
import ConfigRegistry.Json.Failure
import ConfigRegistry.Json.Token

set_option autoImplicit false

/-!
What can go wrong, with the status, code and wording that a client sees.
-/
namespace ConfigRegistry

inductive StoreFailure where
  | unavailable (reason : String)
  | corrupt (key reason : String)
deriving DecidableEq, Repr

def StoreFailure.message : StoreFailure → String
  | .unavailable reason => "record store unavailable: " ++ reason
  | .corrupt key reason => "corrupt record at '" ++ key ++ "': " ++ reason

def StoreFailure.code : StoreFailure → String
  | .unavailable _ => "store_unavailable"
  | .corrupt .. => "store_corrupt"

inductive ServiceFailure where
  | conflict
  | storageUnavailable (reason : String)
  | rateLimitExceeded
  | notFound (what : String)
  | alreadyExists (what : String)
  | validationError (reason : String)
  | badRequest (reason : String)
  | payloadTooLarge (limit : Nat)
  | handlerFailure (reason : String)
  | configurationError (reason : String)
  | internalError (reason : String)
deriving DecidableEq, Repr

namespace ServiceFailure

def message : ServiceFailure → String
  | conflict => "a request with this idempotency key is already in progress"
  | storageUnavailable reason => "storage unavailable: " ++ reason
  | rateLimitExceeded => "rate limit exceeded"
  | notFound what => what ++ " not found"
  | alreadyExists what => what ++ " already exists"
  | validationError reason => "validation error: " ++ reason
  | badRequest reason => "invalid request: " ++ reason
  | payloadTooLarge limit => "request body exceeds " ++ toString limit ++ " bytes"
  | handlerFailure reason => "handler failed: " ++ reason
  | configurationError reason => "configuration error: " ++ reason
  | internalError reason => "internal error: " ++ reason

def status : ServiceFailure → UInt16
  | conflict => 409
  | storageUnavailable _ => 503
  | rateLimitExceeded => 429
  | notFound _ => 404
  | alreadyExists _ => 409
  | validationError _ => 422
  | badRequest _ => 400
  | payloadTooLarge _ => 413
  | handlerFailure _ => 500
  | configurationError _ => 500
  | internalError _ => 500

def code : ServiceFailure → String
  | conflict => "conflict"
  | storageUnavailable _ => "storage_unavailable"
  | rateLimitExceeded => "rate_limit_exceeded"
  | notFound _ => "not_found"
  | alreadyExists _ => "already_exists"
  | validationError _ => "validation_error"
  | badRequest _ => "bad_request"
  | payloadTooLarge _ => "payload_too_large"
  | handlerFailure _ => "handler_failure"
  | configurationError _ => "configuration_error"
  | internalError _ => "internal_error"

-- A store that cannot be reached is the storage's failure; a record that cannot be read is ours.
def ofStore : StoreFailure → ServiceFailure
  | .unavailable reason => storageUnavailable reason
  | .corrupt key reason => internalError (StoreFailure.message (.corrupt key reason))

def ofJson (failure : Json.Failure) : ServiceFailure := internalError ("serialization failed: " ++ failure.message)

def tokens (failure : ServiceFailure) : List Json.Token :=
  Json.object [("error", [.ofText failure.code]), ("message", [.ofText failure.message]),
    ("code", [.ofNat failure.status])]

def response (failure : ServiceFailure) : Http.Response :=
  { Http.Response.json failure.status (Json.render failure.tokens) with
    retryAfter := match failure with | rateLimitExceeded => some "1" | _ => none }

end ServiceFailure
end ConfigRegistry
