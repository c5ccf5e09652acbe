import ConfigRegistry.Proofs.Attending
import ConfigRegistry.Proofs.Hosts
import ConfigRegistry.Proofs.Throttling

set_option autoImplicit false

/-!
The clients of the service. Main statement: what a client meets at the gate hangs on its own requests and on the
sweeps alone, and a client is told by its host, not by its port.
-/
namespace ConfigRegistry.Service

open Dedup (Desk)
open Http (Request Response Target)
open Library (AtGate)
open Net (Host)
open Throttle (Amount Deed Gate Instant Span)
open Work (Process)

-- Whether a request is asked of the gate at all.
def asksGate (request : Request) : Bool :=
  match Route.find? (Target.parse request.target).segments with
  | some route =>
      decide (route.mutation? = some request.method) || (decide (request.method ≠ "OPTIONS") && !route.isReadable)
  | none => false

-- Whom a request comes from, as far as it is known.
def clientOf (request : Request) : Option Host := request.client.map Net.Address.host

-- The identity of whoever comes from this host.
def nameOf (client : Option Host) : String := (client.map Host.text).getD unknownIdentity

-- What reaches the service that has to do with its gate.
inductive Arrival where
  | call (clock : Clock) (request : Request)
  | sweep (now : Instant) (ttl : Span)
deriving DecidableEq

def sentFrom (address : Option Net.Address) (request : Request) : Request := { request with client := address }

def portless (request : Request) : Request :=
  sentFrom (request.client.map fun address => { host := address.host, port := 0 }) request

namespace Arrival

-- A sweep concerns every client.
def concerns (client : Option Host) : Arrival → Bool
  | call _ request => clientOf request == client
  | sweep .. => true

-- The same from no particular port.
def portless : Arrival → Arrival
  | call clock request => call clock (Service.portless request)
  | sweep now ttl => sweep now ttl

end Arrival

-- What a client is told by the gate, where it is asked, and what the service then does for it.
structure Reception where
  client : Option Host
  admitted : Option Bool
  process : Process Response

section Names

variable {one other : Option Host}

theorem identity_name (request : Request) : identity request = nameOf (clientOf request) := by
  rw [identity, nameOf, clientOf]
  cases request.client <;> rfl

theorem name_injective (same : nameOf one = nameOf other) : one = other := by
  cases one with
  | none =>
      cases other with
      | none => rfl
      | some host => exact absurd same.symm (Net.text_not_unknown host)
  | some host =>
      cases other with
      | none => exact absurd same (Net.text_not_unknown host)
      | some second => exact congrArg some (Net.text_injective same)

end Names

section Gates

variable {α : Type} [Amount α]

def admission (gate : Gate α) (clock : Clock) (request : Request) : Option Bool :=
  if asksGate request then some (gate.enter (identity request) clock.now).1 else none

def receptions (desk : Desk) : Gate α → List Arrival → List Reception
  | _, [] => []
  | gate, .call clock request :: rest =>
      let received := receive desk gate clock request
      ⟨clientOf request, admission gate clock request, received.2⟩ :: receptions desk received.1 rest
  | gate, .sweep now ttl :: rest => receptions desk (gate.evict now ttl).2 rest

variable {desk : Desk} {gate left right : Gate α} {clock : Clock} {request : Request} {client : Option Host}

-- Of the address of a caller only the identity counts, and that only at the gate.
theorem receive_asks (asks : asksGate request = true) (desk : Desk) (clock : Clock) :
    ∃ served refusal, refusal.status = 429 ∧ ∀ (gate : Gate α) (address : Option Net.Address),
      let entered := gate.enter (identity (sentFrom address request)) clock.now
      receive desk gate clock (sentFrom address request) =
        (entered.2, if entered.1 = true then served else .done refusal) := by
  rw [asksGate] at asks
  split at asks
  · rename_i route found
    have sought (address : Option Net.Address) :
        Route.find? (Target.parse (sentFrom address request).target).segments = some route := found
    by_cases mutation : route.mutation? = some request.method
    · refine ⟨caught (deduplicate desk request (mutate request (Target.parse request.target).query route)),
        ServiceFailure.rateLimitExceeded.response, rfl, fun gate address => ?_⟩
      have changes : route.mutation? = some (sentFrom address request).method := mutation
      rw [receive, sought]
      simp only
      rw [Concurrent.mutation_dispatch desk gate clock _ changes, Concurrent.pass_process, apply_ite caught]
      rfl
    · obtain ⟨other, unreadable⟩ : request.method ≠ "OPTIONS" ∧ route.isReadable = false := by
        simpa [mutation] using asks
      let allow (response : Response) : Response := { response with allow := some route.allowed }
      refine ⟨(caught (deduplicate desk request (.done (.empty 405)))).map allow,
        allow ServiceFailure.rateLimitExceeded.response, rfl, fun gate address => ?_⟩
      have unasked : (sentFrom address request).method ≠ "OPTIONS" := other
      have unchanging : route.mutation? ≠ some (sentFrom address request).method := mutation
      rw [receive, sought]
      simp only
      rw [dispatch, if_neg unasked, if_neg unchanging, if_neg (by simp [unreadable])]
      simp only
      rw [Concurrent.pass_process, apply_ite caught, apply_ite (Process.map allow)]
      rfl
  · cases asks

theorem receive_calm (calm : asksGate request = false) (desk : Desk) (clock : Clock) :
    ∃ process, ∀ (gate : Gate α) (address : Option Net.Address),
      receive desk gate clock (sentFrom address request) = (gate, process) := by
  rw [asksGate] at calm
  split at calm
  · rename_i route found
    have sought (address : Option Net.Address) :
        Route.find? (Target.parse (sentFrom address request).target).segments = some route := found
    simp only [Bool.or_eq_false_iff, decide_eq_false_iff_not] at calm
    obtain ⟨other, held⟩ := calm
    by_cases options : request.method = "OPTIONS"
    · refine ⟨.done { Response.empty 200 with allow := some route.allowed }, fun gate address => ?_⟩
      have asked : (sentFrom address request).method = "OPTIONS" := options
      rw [receive, sought]
      simp only
      rw [dispatch, if_pos asked]
    · have readable : route.isReadable = true := by simpa [options] using held
      exact ⟨Concurrent.reading clock (Target.parse request.target).query route request.method,
        fun gate address => Concurrent.receive_reading desk gate clock (sought address) readable other⟩
  · rename_i missing
    have unknown (address : Option Net.Address) :
        Route.find? (Target.parse (sentFrom address request).target).segments = none := missing
    refine ⟨.done (.empty (if request.method = "OPTIONS" then 200 else 404)), fun gate address => ?_⟩
    rw [receive, unknown]
    rfl

theorem receive_gate (desk : Desk) (gate : Gate α) (clock : Clock) (request : Request) :
    (receive desk gate clock request).1 =
      if asksGate request then gate.act (.enter (identity request) clock.now) else gate := by
  cases asks : asksGate request with
  | true =>
      obtain ⟨served, refusal, -, received⟩ := receive_asks (α := α) asks desk clock
      exact congrArg Prod.fst (received gate request.client)
  | false =>
      obtain ⟨process, received⟩ := receive_calm (α := α) asks desk clock
      exact congrArg Prod.fst (received gate request.client)

theorem receive_refused (desk : Desk) (refused : admission gate clock request = some false) :
    ∃ response, response.status = 429 ∧ (receive desk gate clock request).2 = .done response := by
  cases asks : asksGate request with
  | true =>
      obtain ⟨served, refusal, throttled, received⟩ := receive_asks (α := α) asks desk clock
      have answered : (gate.enter (identity request) clock.now).1 = false := by simpa [admission, asks] using refused
      refine ⟨refusal, throttled, (congrArg Prod.snd (received gate request.client)).trans (if_neg ?_)⟩
      exact ne_true_of_eq_false answered
  | false => simp [admission, asks] at refused

-- Two gates that admit a request alike receive it alike, wherever it is sent from.
theorem receive_same {address : Option Net.Address}
    (same : admission left clock request = admission right clock (sentFrom address request)) (desk : Desk) :
    (receive desk left clock request).2 = (receive desk right clock (sentFrom address request)).2 := by
  have asksAlike : asksGate (sentFrom address request) = asksGate request := rfl
  cases asks : asksGate request with
  | true =>
      obtain ⟨served, refusal, -, received⟩ := receive_asks (α := α) asks desk clock
      rw [admission, admission, asksAlike, asks, if_pos rfl, if_pos rfl, Option.some.injEq] at same
      have first : receive desk left clock request = _ := received left request.client
      rw [first, received right address]
      exact congrArg (fun admitted : Bool => if admitted = true then served else .done refusal) same
  | false =>
      obtain ⟨process, received⟩ := receive_calm (α := α) asks desk clock
      have first : receive desk left clock request = _ := received left request.client
      rw [first, received right address]

theorem admission_alike (alike : Gate.Alike (identity request) left right) (clock : Clock) :
    admission left clock request = admission right clock request := by
  rw [admission, admission, Gate.enter, Gate.enter, Gate.bucket_for_alike alike]

theorem receive_alike {name : String} (alike : Gate.Alike name left right) (own : identity request = name)
    (desk : Desk) (clock : Clock) :
    Gate.Alike name (receive desk left clock request).1 (receive desk right clock request).1 := by
  subst own
  rw [receive_gate, receive_gate]
  split
  · exact (Gate.act_alike alike (by simp [Deed.concerns])).1
  · exact alike

theorem receive_elsewhere {name : String} (alike : Gate.Alike name left right) (other : identity request ≠ name)
    (desk : Desk) (clock : Clock) : Gate.Alike name (receive desk left clock request).1 right := by
  rw [receive_gate]
  split
  · exact (Gate.act_elsewhere alike (by simpa [Deed.concerns] using other)).1
  · exact alike

theorem receptions_alike {arrivals : List Arrival} (alike : Gate.Alike (nameOf client) left right) :
    (receptions desk left arrivals).filter (fun reception => reception.client == client) =
      receptions desk right (arrivals.filter (Arrival.concerns client)) := by
  induction arrivals generalizing left right with
  | nil => rfl
  | cons arrival rest ih =>
      cases arrival with
      | call clock request =>
          by_cases own : clientOf request = client
          · have named : identity request = nameOf client := by rw [identity_name, own]
            have admitted := admission_alike (named ▸ alike) clock
            have received : (receive desk left clock request).2 = (receive desk right clock request).2 :=
              receive_same admitted desk
            rw [receptions, List.filter_cons_of_pos (by simpa using own),
              List.filter_cons_of_pos (by simpa [Arrival.concerns] using own), receptions, admitted,
              received, ih (receive_alike alike named desk clock)]
          · have other : identity request ≠ nameOf client := by
              rw [identity_name]
              exact fun same => own (name_injective same)
            rw [receptions, List.filter_cons_of_neg (by simpa using own),
              List.filter_cons_of_neg (by simpa [Arrival.concerns] using own)]
            exact ih (receive_elsewhere alike other desk clock)
      | sweep now ttl =>
          rw [receptions, List.filter_cons_of_pos (by simp [Arrival.concerns]), receptions]
          have swept : (Deed.evict now ttl).concerns (nameOf client) = true := rfl
          exact ih (Gate.act_alike alike swept).1

theorem portless_client (request : Request) : clientOf (portless request) = clientOf request := by
  rw [clientOf, clientOf, portless, sentFrom, Option.map_map]
  rfl

theorem portless_identity (request : Request) : identity (portless request) = identity request := by
  rw [identity_name, identity_name, portless_client]

theorem receptions_portless (desk : Desk) (gate : Gate α) (arrivals : List Arrival) :
    receptions desk gate (arrivals.map Arrival.portless) = receptions desk gate arrivals := by
  induction arrivals generalizing gate with
  | nil => rfl
  | cons arrival rest ih =>
      cases arrival with
      | call clock request =>
          have admitted : admission gate clock request = admission gate clock (portless request) := by
            rw [admission, admission, portless_identity]
            rfl
          have next : (receive desk gate clock (portless request)).1 = (receive desk gate clock request).1 := by
            rw [receive_gate, receive_gate, portless_identity]
            rfl
          rw [List.map_cons, Arrival.portless, receptions, receptions, next, ih, portless_client, admitted,
            receive_same admitted]
          rfl
      | sweep now ttl =>
          rw [List.map_cons, Arrival.portless, receptions, receptions, ih]

theorem clients_apart (desk : Desk) (gate : Gate α) :
    -- After each step: a step ends a first part of the run.
    (∀ (identity : String) (deeds : List Deed),
      let own := deeds.filter (Deed.concerns identity)
      Gate.told identity (gate.answers deeds) = Gate.told identity (gate.answers own) ∧
        ∀ first, first <+: deeds →
          (gate.run first).tracks identity = (gate.run (first.filter (Deed.concerns identity))).tracks identity) ∧
    (∀ (arrivals : List Arrival) (client : Option Host),
      (receptions desk gate arrivals).filter (fun reception => reception.client == client) =
        receptions desk gate (arrivals.filter (Arrival.concerns client))) ∧
    (∀ arrivals, receptions desk gate (arrivals.map Arrival.portless) = receptions desk gate arrivals) ∧
    (∀ one other : Request, identity one = identity other ↔ clientOf one = clientOf other) ∧
    ∀ (clock : Clock) (request : Request),
      (receive desk gate clock request).1 =
        (if asksGate request then gate.act (.enter (identity request) clock.now) else gate) ∧
      (admission gate clock request = some false →
        ∃ response, response.status = 429 ∧ (receive desk gate clock request).2 = .done response) := by
  refine ⟨?_, ?_, receptions_portless desk gate, ?_, ?_⟩
  · intro identity deeds own
    have alike := Gate.alike_refl identity gate
    exact ⟨(Gate.run_alike alike deeds).2, fun first _ => Gate.tracks_alike (Gate.run_alike alike first).1⟩
  · exact fun arrivals client => receptions_alike (Gate.alike_refl _ gate)
  · intro one other
    rw [identity_name, identity_name]
    exact ⟨name_injective, congrArg nameOf⟩
  · exact fun clock request => ⟨receive_gate desk gate clock request, receive_refused desk⟩

end Gates

-- Three clients that each have one token, and the first of them once more from another port.
theorem clients_apart_of_three :
    let desk : Desk := { scope := "idempotency" }
    let gate : Gate Rat := { rate := 1, burst := 1 }
    let call (client : Option Net.Address) : Arrival :=
      .call ⟨0, 0, 0⟩ { method := "DELETE", target := Text.toBytes "/configs/app/versions/1", client }
    let first : Host := .v4 10 0 0 1
    let second : Host := .v6 #v[0, 0, 0, 0, 0, 65535, 2560, 1]
    let arrivals :=
      [call (some ⟨first, 4000, 0⟩), call (some ⟨second, 4000, 0⟩), call none, call (some ⟨first, 4001, 0⟩)]
    (receptions desk gate arrivals).filter (fun reception => reception.client == some first) =
        receptions desk gate (arrivals.filter (Arrival.concerns (some first))) ∧
      (receptions desk gate arrivals).map Reception.admitted = [some true, some true, some true, some false] := by
  intro desk gate call first second arrivals
  refine ⟨(clients_apart desk gate).2.1 arrivals (some first), ?_⟩
  decide +kernel

end ConfigRegistry.Service
