import ConfigRegistry.Dedup.ClientKey
import ConfigRegistry.Dedup.Desk
import ConfigRegistry.Service.Route
import ConfigRegistry.Throttle.Gate

set_option autoImplicit false

/-!
The way of a request through the service: the gate, then the desk, then its handler. Reading passes neither.
-/
namespace ConfigRegistry.Service

open Dedup (Desk Answer Served)
open Http (Request Response Target)
open Throttle (Gate Amount)
open Work (Job Process)

-- The identity of requests without connection information, which share one bucket.
def unknownIdentity : String := "unknown"

def identity (request : Request) : String :=
  match request.client with
  | some address => address.host.text
  | none => unknownIdentity

-- The stored answer as a response; a status code that HTTP does not have becomes 500.
def replay (answer : Answer) : Response :=
  { Response.json (if 100 ≤ answer.statusCode && answer.statusCode ≤ 999 then answer.statusCode else 500)
      answer.body with
    replayed := some "true" }

def answerOf (response : Response) : Answer := ⟨response.status, response.body⟩

-- The response of a handler, unless it is longer than what may be kept.
def buffered (limit : Nat) (handler : Job Response) : Job (Except ServiceFailure Response) :=
  handler.bind fun response =>
    .done (if limit < response.body.length then
      .error (.handlerFailure ("response body could not be buffered within " ++ toString limit ++
        " bytes: length limit exceeded"))
    else .ok response)

def writeServed : Except ServiceFailure (Served Response) → Response
  | .ok (.made response) => response
  | .ok (.kept answer) => replay answer
  | .error failure => failure.response

def deduplicate (desk : Desk) (request : Request) (handler : Job Response) : Process Response :=
  match Dedup.clientKeyOf request.keys with
  | none => handler.process
  | some key =>
      -- The body is read first, so a request that is too long claims nothing.
      if desk.bodyLimit < request.body.length then
        .done (ServiceFailure.payloadTooLarge desk.bodyLimit).response
      else
        (desk.serve (some key) answerOf (buffered desk.bodyLimit handler)).map writeServed

variable {α : Type} [Amount α]

def pass (desk : Desk) (gate : Gate α) (clock : Clock) (request : Request) (handler : Job Response) :
    Gate α × Process Response :=
  let (admitted, gate) := gate.enter (identity request) clock.now
  (gate, if admitted then deduplicate desk request handler else .done ServiceFailure.rateLimitExceeded.response)

def caught (process : Process Response) : Process Response :=
  process.rescue fun _ => .plain 500 "Service panicked"

def dispatch (desk : Desk) (gate : Gate α) (clock : Clock) (request : Request) (query : Option Bytes)
    (route : Route) : Gate α × Process Response :=
  let allow (response : Response) : Response := { response with allow := some route.allowed }
  if request.method = "OPTIONS" then (gate, .done (allow (.empty 200)))
  else if route.mutation? = some request.method then
    let (gate, process) := pass desk gate clock request (mutate request query route)
    (gate, caught process)
  else if route.isReadable then
    if request.method = "GET" then (gate, caught (inspect clock query route).process)
    else if request.method = "HEAD" then
      (gate, (caught (inspect clock query route).process).map fun response => { response with body := [] })
    else (gate, .done (allow (.empty 405)))
  else
    -- A path that only takes changes refuses other methods behind the gate and the desk.
    let (gate, process) := pass desk gate clock request (.done (.empty 405))
    (gate, (caught process).map allow)

def receive (desk : Desk) (gate : Gate α) (clock : Clock) (request : Request) : Gate α × Process Response :=
  let target := Target.parse request.target
  match Route.find? target.segments with
  | some route => dispatch desk gate clock request target.query route
  | none => (gate, .done (.empty (if request.method = "OPTIONS" then 200 else 404)))

end ConfigRegistry.Service
