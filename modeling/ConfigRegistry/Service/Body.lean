import ConfigRegistry.Failure
import ConfigRegistry.Http.MediaType
import ConfigRegistry.Json.Layout

set_option autoImplicit false

/-!
Reading the JSON body of a request. What follows the first value of a body is not looked at.
-/
namespace ConfigRegistry.Service

open Json (Decoder Layout)

def bodyCap : Nat := 2097152

def readBody {α : Type} (decoder : Decoder α) (request : Http.Request) : Except ServiceFailure α :=
  if !(request.contentType.map Http.isJsonType).getD false then
    .error (.badRequest "Expected request with `Content-Type: application/json`")
  else if bodyCap < request.body.length then
    .error (.badRequest "Failed to buffer the request body: length limit exceeded")
  else
    match decoder.leading request.body with
    | .ok value => .ok value
    | .error .malformed => .error (.badRequest "Failed to parse the request body as JSON")
    | .error failure =>
        .error (.badRequest ("Failed to deserialize the JSON body into the target type: " ++ failure.located))

def removalLayout : Layout (Option String) where
  title := "struct RemoveConfigRequest"
  fields :=
    [{ name := "configId", required := true, filled := Option.isSome,
       read := fun _ => Json.text.map some }]

def removalDecoder : Decoder String := Decoder.map (fun id => id.getD "") (removalLayout.read none)

end ConfigRegistry.Service
