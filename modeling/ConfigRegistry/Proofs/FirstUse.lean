import ConfigRegistry.Proofs.Beside
import ConfigRegistry.Proofs.Namespaces
import ConfigRegistry.Proofs.Success

set_option autoImplicit false

/-!
A request under a key that nobody has used. Main statement: it is answered as the same request without a key, alone and
among others, and all that it leaves besides is the record of a success.
-/
namespace ConfigRegistry.Concurrent

open Store (Call Memory)
open Work (Job Process)
open Session (Product Machine)
open Http (Request Response Target)
open Throttle (Gate Amount)
open Dedup
open Service
open Solitary (Scene Idle playJob play serve sceneOf)

-- The store with what is kept of a response.
def keeping (storeKey : String) (response : Response) (memory : Memory) : Memory :=
  if 200 ≤ response.status ∧ response.status ≤ 399 then
    memory.insert storeKey (Record.completed response.status response.body).encode
  else memory

-- What a client hears of the end of a handler.
def surfacing : Except String Response → Response
  | .ok response => response
  | .error _ => crashAnswer

section Stores

variable {storeKey : String} {held bare : Memory} {response : Response}

theorem aside_keeping (aside : Aside storeKey (recordOf storeKey response) held bare) :
    held = keeping storeKey response bare := by
  by_cases kept : isKept response.status = true
  · have value : recordOf storeKey response = some (Record.completed response.status response.body).encode :=
      if_pos kept
    rw [value] at aside
    rw [keeping, if_pos ((kept_iff _).mp kept)]
    exact aside_some aside
  · have value : recordOf storeKey response = none := if_neg kept
    rw [value] at aside
    rw [keeping, if_neg fun within => kept ((kept_iff _).mpr within)]
    exact aside_none aside

end Stores

section Plays

variable {desk : Desk} {storeKey : String} {report : Response → Product} {handler : Job Response}
  {scene after : Scene} {ending : Except String Response}

theorem play_unkeyed (plays : playJob handler scene = some (ending, after)) :
    play (unkeyed report handler) scene = some (.ok (report (surfacing ending)), after) := by
  rw [unkeyed, Solitary.play_map, Solitary.play_host, plays]
  cases ending <;> rfl

theorem play_concluded {response : Response} (fits : response.body.length ≤ desk.bodyLimit) (scene : Scene) :
    play (concluded desk.bodyLimit storeKey response) scene =
      some (.ok response, scene.settled (Ownership.settlement storeKey (answerOf response))) := by
  rw [concluded, if_neg (Nat.not_lt.mpr fits)]
  rfl

theorem play_owning (report : Response → Product) {bare : Memory} {value : Option Bytes}
    (plays : playJob handler scene = some (ending, after))
    (aside : Aside storeKey value after.memory bare)
    (fits : ∀ response, ending = .ok response → response.body.length ≤ desk.bodyLimit) :
    ∃ last, play (owning desk storeKey report handler) scene = some (.ok (report (surfacing ending)), last) ∧
      last.ids = after.ids ∧ last.handed ≤ after.handed + 1 ∧
      Aside storeKey (recordOf storeKey (surfacing ending)) last.memory bare := by
  rw [owning, Solitary.play_map, Solitary.play_host, plays]
  cases ending with
  | error message => exact ⟨_, rfl, rfl, Nat.le_succ _, aside_erase aside⟩
  | ok response =>
      simp only [Option.bind_some]
      rw [play_concluded (fits response rfl)]
      exact ⟨_, rfl, rfl, Nat.le_refl _, aside_settled aside response⟩

-- The two calls of a claim that wins.
theorem play_claimed (absent : scene.memory.get? storeKey = none) :
    play ((claimed desk handler (.ask none (.get storeKey) (lookedUp storeKey))).map report) scene =
      play (owning desk storeKey report handler) { scene with memory := scene.memory.insert storeKey placeholder } := by
  have looks : play ((claimed desk handler (.ask none (.get storeKey) (lookedUp storeKey))).map report) scene =
      play ((claimed desk handler (lookedUp storeKey (.ok (scene.memory.get? storeKey)))).map report) scene := rfl
  have creates : play ((claimed desk handler (.ask none (.create storeKey placeholder) (created storeKey))).map report)
      scene = play ((claimed desk handler (created storeKey
        (.ok (scene.memory.perform (.create storeKey placeholder)).1))).map report)
          (scene.called (.create storeKey placeholder)) := rfl
  have won : scene.memory.perform (.create storeKey placeholder) = (true, scene.memory.insert storeKey placeholder) :=
    if_neg (by simp [KeyMap.contains, absent])
  rw [looks, absent, owning, ← under_key_host]
  rw [lookedUp, creates, Scene.called, won]
  rfl

theorem play_new_key (shuns : Shuns storeKey handler) (absent : scene.memory.get? storeKey = none)
    (plays : playJob handler scene = some (ending, after))
    (fits : ∀ response, ending = .ok response → response.body.length ≤ desk.bodyLimit) :
    ∃ last, play ((claimed desk handler (.ask none (.get storeKey) (lookedUp storeKey))).map report) scene =
        some (.ok (report (surfacing ending)), last) ∧ last.ids = after.ids ∧ last.handed ≤ after.handed + 1 ∧
      Aside storeKey (recordOf storeKey (surfacing ending)) last.memory after.memory := by
  obtain ⟨memory, goes, aside⟩ := play_job_aside shuns (aside_insert (aside_refl absent) placeholder) plays
  rw [play_claimed absent]
  obtain ⟨last, runs, ids, handed, record⟩ := play_owning report goes aside fits
  exact ⟨last, runs, ids, handed, record⟩

end Plays

-- A request that is neither a preflight nor one that reads: it changes items or is refused.
def Changing (request : Request) (route : Route) : Prop :=
  request.method ≠ "OPTIONS" ∧ (route.isReadable = true → request.method ≠ "GET" ∧ request.method ≠ "HEAD")

-- What comes of the two requests where each is alone.
structure FirstUse (storeKey : String) (response : Response) (keyed bare : Option (Except String Product) × Machine) :
    Prop where
  answers : keyed.1 = some (.ok (responded response)) ∧ bare.1 = some (.ok (responded response))
  idle : Idle keyed.2 ∧ Idle bare.2
  ids : keyed.2.idCount = bare.2.idCount
  unused : bare.2.memory.get? storeKey = none
  stores : keyed.2.memory = keeping storeKey response bare.2.memory

-- Requests under other keys, or under none.
inductive Company (storeKey : String) : Process Product → Prop where
  | receive {α : Type} [Amount α] (desk : Desk) (gate : Gate α) (clock : Clock) (request : Request)
      (other : ∀ key, clientKeyOf request.keys = some key → desk.storeKey key ≠ storeKey) :
      Company storeKey ((receive desk gate clock request).2.map responded)

-- How the two requests stand, each among the same others.
structure InCompany (fits : Response → Prop) (storeKey : String) (number : Nat) (held bare : World) : Prop where
  stores : ∀ key, key ≠ storeKey → held.memory.get? key = bare.memory.get? key
  unused : bare.memory.get? storeKey = none
  others : ∀ other, other ≠ number → bare.tasks other = held.tasks other ∨
    bare.tasks other = none ∧ ∃ stage, held.tasks other = some ⟨.settlement number, stage⟩
  answered : ∀ task outcome, held.tasks number = some task → task.stage.outcome? = some outcome →
    ∃ response, bare.tasks number = some ⟨.request, .active (.done (responded response))⟩ ∧
      (fits response → outcome = .ok (responded response) ∧ held.memory = keeping storeKey response bare.memory)

-- How a response may be dressed up: its status and its body stay.
def Dresses (write : Response → Response) : Prop :=
  ∀ response, (write response).status = response.status ∧ (write response).body = response.body

section Fronts

variable {α : Type} [Amount α] {request : Request} {handler : Job Response} {write : Response → Response}

theorem record_dressed (dresses : Dresses write) (storeKey : String) (response : Response) :
    recordOf storeKey (write response) = recordOf storeKey response := by
  obtain ⟨status, body⟩ := dresses response
  have same : answerOf (write response) = answerOf response := by rw [answerOf, answerOf, status, body]
  rw [recordOf, recordOf, same]

theorem bare_pass (desk : Desk) (gate : Gate α) (clock : Clock) (report : Response → Product) :
    (caught (pass desk gate clock { request with keys := [] } handler).2).map report =
      if (gate.enter (identity request) clock.now).1 = true then unkeyed report handler
      else .done (report ServiceFailure.rateLimitExceeded.response) := by
  rw [pass_process]
  split
  · rename_i admitted
    rw [if_pos (by exact admitted), unkeyed, ← caught_host]
    rfl
  · rename_i refused
    rw [if_neg (by exact refused)]
    rfl

theorem keyed_pass {key : String} (desk : Desk) (gate : Gate α) (clock : Clock) (report : Response → Product)
    (keyed : clientKeyOf request.keys = some key) (fits : request.body.length ≤ desk.bodyLimit) :
    (caught (pass desk gate clock request handler).2).map report =
      if (gate.enter (identity request) clock.now).1 = true then
        (claimed desk handler (.ask none (.get (desk.storeKey key)) (lookedUp (desk.storeKey key)))).map report
      else .done (report ServiceFailure.rateLimitExceeded.response) := by
  rw [pass_process]
  split
  · rw [deduplicate_keyed keyed fits]
  · rfl

-- What a changing request comes to: a handler behind the gate and the desk, or a refusal in front of them.
theorem changing_receive (desk : Desk) (gate : Gate α) (clock : Clock) {route : Route}
    (found : Route.find? (Target.parse request.target).segments = some route) (changing : Changing request route) :
    (∃ handler write, Operates ItemCall Answers handler ∧ Dresses write ∧ ∀ keys,
        (receive desk gate clock { request with keys }).1 = (gate.enter (identity request) clock.now).2 ∧
        (receive desk gate clock { request with keys }).2.map responded =
          (caught (pass desk gate clock { request with keys } handler).2).map fun response =>
            responded (write response)) ∨
      ∃ response : Response, isKept response.status = false ∧ ∀ keys,
        receive desk gate clock { request with keys } = (gate, .done response) := by
  have received (keys : List Bytes) : receive desk gate clock { request with keys } =
      dispatch desk gate clock { request with keys } (Target.parse request.target).query route := by
    simp only [receive, found]
  obtain ⟨options, reads⟩ := changing
  by_cases mutation : route.mutation? = some request.method
  · refine .inl ⟨mutate request (Target.parse request.target).query route, id, mutate_operates _ _ _,
      fun _ => ⟨rfl, rfl⟩, fun keys => ?_⟩
    have handler : mutate { request with keys } (Target.parse request.target).query route =
        mutate request (Target.parse request.target).query route := by cases route <;> rfl
    rw [received, mutation_dispatch desk gate clock _ (by exact mutation), handler]
    exact ⟨rfl, rfl⟩
  · by_cases readable : route.isReadable = true
    · obtain ⟨get, head⟩ := reads readable
      refine .inr ⟨{ Response.empty 405 with allow := some route.allowed }, rfl, fun keys => ?_⟩
      rw [received, reading_dispatch desk gate clock _ readable (by exact mutation), reading]
      simp only [if_neg options, if_neg get, if_neg head]
    · refine .inl ⟨.done (.empty 405), fun response => { response with allow := some route.allowed }, ?_,
        fun _ => ⟨rfl, rfl⟩, fun keys => ?_⟩
      · exact other_status_answers (by decide)
      · rw [received, dispatch]
        simp only [if_neg options, if_neg mutation, if_neg readable]
        exact ⟨rfl, bind_assoc _ _ _⟩

end Fronts

section Alone

variable {machine : Machine} {storeKey : String} {after : Scene}

theorem first_use_serves {keyed bare : Process Product} {response : Response} {last : Scene} (idle : Idle machine)
    (runs : play keyed (sceneOf machine) = some (.ok (responded response), last))
    (plays : play bare (sceneOf machine) = some (.ok (responded response), after))
    (few : last.handed ≤ 63) (fewer : after.handed ≤ 63) (ids : last.ids = after.ids)
    (aside : Aside storeKey (recordOf storeKey response) last.memory after.memory) :
    FirstUse storeKey response (serve machine keyed) (serve machine bare) := by
  obtain ⟨answered, quiet, scene⟩ := Solitary.serve_play idle runs few
  obtain ⟨answered', quiet', scene'⟩ := Solitary.serve_play idle plays fewer
  have memory : (serve machine keyed).2.memory = last.memory := congrArg Scene.memory scene
  have memory' : (serve machine bare).2.memory = after.memory := congrArg Scene.memory scene'
  have count : (serve machine keyed).2.idCount = last.ids := congrArg Scene.ids scene
  have count' : (serve machine bare).2.idCount = after.ids := congrArg Scene.ids scene'
  exact
    { answers := ⟨answered, answered'⟩
      idle := ⟨quiet, quiet'⟩
      ids := by rw [count, count', ids]
      unused := by rw [memory', aside.free]
      stores := by rw [memory, memory', aside_keeping aside] }

-- Nothing is done and nothing is kept.
theorem refusal_first_use {response : Response} (idle : Idle machine) (absent : machine.memory.get? storeKey = none)
    (unkept : isKept response.status = false) :
    FirstUse storeKey response (serve machine (.done (responded response)))
      (serve machine (.done (responded response))) := by
  have record : recordOf storeKey response = none := if_neg (by simpa [answerOf] using unkept)
  have aside : Aside storeKey (recordOf storeKey response) (sceneOf machine).memory (sceneOf machine).memory :=
    record ▸ aside_refl absent
  exact first_use_serves idle rfl rfl (Nat.zero_le _) (Nat.zero_le _) rfl aside

variable {α : Type} [Amount α] {desk : Desk} {request : Request} {handler : Job Response} {key : String}
  {write : Response → Response} {ending : Except String Response}

theorem pass_first_use (gate : Gate α) (clock : Clock) (keyed : clientKeyOf request.keys = some key)
    (fits : request.body.length ≤ desk.bodyLimit) (idle : Idle machine)
    (absent : machine.memory.get? (desk.storeKey key) = none) (shuns : Shuns (desk.storeKey key) handler)
    (plays : playJob handler (sceneOf machine) = some (ending, after))
    (small : (gate.enter (identity request) clock.now).1 = true →
      ∀ response, ending = .ok response → response.body.length ≤ desk.bodyLimit) (dresses : Dresses write) :
    FirstUse (desk.storeKey key)
      (write (if (gate.enter (identity request) clock.now).1 = true then surfacing ending
        else ServiceFailure.rateLimitExceeded.response))
      (serve machine ((caught (pass desk gate clock request handler).2).map fun response => responded (write response)))
      (serve machine ((caught (pass desk gate clock { request with keys := [] } handler).2).map fun response =>
        responded (write response))) := by
  rw [keyed_pass desk gate clock _ keyed fits, bare_pass]
  by_cases admitted : (gate.enter (identity request) clock.now).1 = true
  · rw [if_pos admitted, if_pos admitted, if_pos admitted]
    have count : after.handed = 0 := play_job_handed plays
    obtain ⟨last, runs, ids, handed, aside⟩ := play_new_key shuns absent plays (small admitted)
    rw [← record_dressed dresses] at aside
    exact first_use_serves idle runs (play_unkeyed plays) (by omega) (by omega) ids aside
  · rw [if_neg admitted, if_neg admitted, if_neg admitted]
    exact refusal_first_use idle absent (by rw [(dresses _).1]; rfl)

end Alone

section Together

variable {desk : Desk} {storeKey : String} {report : Response → Product} {number : Nat} {held bare : World}

theorem beside_start {keyed process : Process Product} (memory : Memory)
    (abreast : Abreast desk storeKey report (.active keyed) none process none) (absent : memory.get? storeKey = none) :
    Beside desk storeKey report number ((World.idle memory).put number ⟨.request, .active keyed⟩)
      ((World.idle memory).put number ⟨.request, .active process⟩) := by
  refine ⟨.active keyed, none, process, none, ?_⟩
  exact
    { abreast := abreast
      keyed := World.put_tasks_self _ _ _
      plain := World.put_tasks_self _ _ _
      aside := aside_refl absent
      extra := fun _ _ same => nomatch same
      others := fun other different _ => by
        rw [World.put_tasks_other _ _ _ _ different, World.put_tasks_other _ _ _ _ different]
      waits := by
        intro other role awaited next present
        by_cases same : other = number
        · subst same
          rw [World.put_tasks_self] at present
          exact nomatch present
        · rw [World.put_tasks_other _ _ _ _ same] at present
          exact nomatch present }

theorem owning_unended (job : Job Response) : (Stage.active (owning desk storeKey report job)).outcome? = none := by
  cases job with
  | done response =>
      have ends : owning desk storeKey report (.done response) =
          (concluded desk.bodyLimit storeKey response).map report :=
        rfl
      rw [ends, concluded]
      split <;> rfl
  | crash message => rfl
  | ask call next =>
      rw [owning, Job.host]
      rfl
  | fresh next => rfl
  | started next => rfl
  | wait next => rfl

theorem abreast_answered {stage : Stage} {child : Option (Nat × Process Product)} {process : Process Product}
    {value : Option Bytes} {outcome : Except String Product}
    (abreast : Abreast desk storeKey report stage child process value) (ended : stage.outcome? = some outcome) :
    ∃ response, process = .done (report response) ∧
      (outcome = .ok (report response) ∧ value = recordOf storeKey response ∨
        desk.bodyLimit < response.body.length) := by
  cases abreast with
  | looking shuns => exact nomatch ended
  | creating shuns => exact nomatch ended
  | running shuns => exact nomatch (owning_unended _).symm.trans ended
  | storing resumes => exact nomatch ended
  | stored resumes => exact nomatch ended
  | told =>
      cases ended
      exact ⟨_, rfl, .inl ⟨rfl, rfl⟩⟩
  | refused why =>
      cases ended
      refine ⟨_, rfl, why.imp (fun both => ?_) id⟩
      obtain ⟨rfl, unkept⟩ := both
      exact ⟨rfl, (if_neg (by simpa [answerOf] using unkept)).symm⟩

theorem beside_in_company {write : Response → Response} (dresses : Dresses write)
    (beside : Beside desk storeKey (fun response => responded (write response)) number held bare) :
    InCompany (fun response => response.body.length ≤ desk.bodyLimit) storeKey number held bare := by
  obtain ⟨stage, child, process, value, alongside⟩ := beside
  refine ⟨alongside.aside.same, alongside.aside.free, fun other different => ?_, fun task outcome present ended => ?_⟩
  · cases child with
    | none => exact .inl (alongside.others other different fun _ same => nomatch same).symm
    | some mine =>
        obtain ⟨last, own⟩ := mine
        by_cases same : other = last
        · subst same
          obtain ⟨-, there, absent⟩ := alongside.extra other own rfl
          exact .inr ⟨absent, _, there⟩
        · refine .inl (alongside.others other different fun _ equal => ?_).symm
          exact same (congrArg Prod.fst (Option.some.inj equal)).symm
  · cases alongside.keyed.symm.trans present
    obtain ⟨response, rfl, either⟩ := abreast_answered alongside.abreast ended
    refine ⟨write response, alongside.plain, fun small => ?_⟩
    rw [(dresses response).2] at small
    rcases either with ⟨rfl, rfl⟩ | long
    · have aside := alongside.aside
      rw [← record_dressed dresses] at aside
      exact ⟨rfl, aside_keeping aside⟩
    · exact absurd small (Nat.not_le.mpr long)

theorem in_company_widen {fits wide : Response → Prop} (widens : ∀ response, fits response → wide response)
    (stands : InCompany wide storeKey number held bare) : InCompany fits storeKey number held bare where
  stores := stands.stores
  unused := stands.unused
  others := stands.others
  answered := by
    intro task outcome present ended
    obtain ⟨response, there, same⟩ := stands.answered task outcome present ended
    exact ⟨response, there, fun small => same (widens response small)⟩

end Together

section Company

variable {storeKey : String} {program : Process Product → Prop} {start world after : World} {event : Event}
  {events : List Event} {number : Nat}

theorem record_elsewhere {desk : Desk} {key : String} (other : desk.storeKey key ≠ storeKey) (call : Call)
    (record : RecordCall (desk.storeKey key) call) : Elsewhere storeKey call := by
  cases record with
  | get => exact .inr other
  | create => exact .inr other
  | put kept => exact .inr other
  | delete => exact .inr other

theorem company_abides (apart : ∀ kind name version, storeKey ≠ Catalog.Kind.key kind name version)
    (process : Process Product) (company : Company storeKey process) :
    Abides (Elsewhere storeKey) (fun _ => True) process := by
  cases company with
  | receive desk gate clock request other =>
      exact abides_map (receive_abides (fun key keyed => record_elsewhere (other key keyed)) (item_elsewhere apart) gate
        clock)

-- A task that has ended stays as it is, and a key that nobody calls stays unused.
theorem ended_step {product : Product}
    (programs : ∀ process, program process → Abides (Elsewhere storeKey) (fun _ => True) process)
    (abides : world.Abides (Elsewhere storeKey)) (absent : world.memory.get? storeKey = none)
    (ended : world.tasks number = some ⟨.request, .active (.done product)⟩)
    (step : Step Faultless program world event after) :
    after.Abides (Elsewhere storeKey) ∧ after.memory.get? storeKey = none ∧
      after.tasks number = some ⟨.request, .active (.done product)⟩ := by
  obtain ⟨abides', allowed⟩ := step_abides programs abides step
  refine ⟨abides', ?_, ?_⟩
  · cases step with
    | call present may =>
        cases may with
        | answered =>
            have perform := (aside_perform (aside_refl absent) (allowed _ _ _ _ rfl)).2
            exact perform.free
    | begin | wait | fresh | start | settle | abandon | lose | resume | cancel => exact absent
  · by_cases actor : number = event.actor
    · have uncancelled : event ≠ .cancelled number := by
        rintro rfl
        cases step with
        | cancel present left =>
            cases ended.symm.trans present
            exact nomatch left
      exact (step_moves ended step actor.symm uncancelled).elim
    · exact step_other step actor ended

theorem ended_in_company {response : Response} {fits : Response → Prop}
    (programs : ∀ process, program process → Abides (Elsewhere storeKey) (fun _ => True) process)
    (abides : start.Abides (Elsewhere storeKey)) (absent : start.memory.get? storeKey = none)
    (ended : start.tasks number = some ⟨.request, .active (.done (responded response))⟩)
    (unkept : isKept response.status = false) (run : Run Faultless program start events world) :
    InCompany fits storeKey number world world := by
  have stays : world.Abides (Elsewhere storeKey) ∧ world.memory.get? storeKey = none ∧
      world.tasks number = some ⟨.request, .active (.done (responded response))⟩ := by
    induction run with
    | start => exact ⟨abides, absent, ended⟩
    | step _ last ih =>
        obtain ⟨abides, absent, ended⟩ := ih
        exact ended_step programs abides absent ended last
  obtain ⟨-, unused, still⟩ := stays
  refine ⟨fun _ _ => rfl, unused, fun _ _ => .inl rfl, fun task outcome present closed => ?_⟩
  cases still.symm.trans present
  cases closed
  refine ⟨response, still, fun _ => ⟨rfl, ?_⟩⟩
  rw [keeping, if_neg fun within => Bool.false_ne_true (unkept.symm.trans ((kept_iff _).mpr within))]

end Company

section Routes

variable {α : Type} [Amount α] {desk : Desk} {gate : Gate α} {clock : Clock} {request : Request} {key : String}
  {route : Route}

theorem route_first_use {machine : Machine} (keyed : clientKeyOf request.keys = some key)
    (fits : request.body.length ≤ desk.bodyLimit)
    (found : Route.find? (Target.parse request.target).segments = some route) (changing : Changing request route)
    (apart : ∀ kind name version, desk.storeKey key ≠ Catalog.Kind.key kind name version) (idle : Idle machine)
    (absent : machine.memory.get? (desk.storeKey key) = none)
    (small : (gate.enter (identity request) clock.now).1 = true → ∀ response,
      (serve machine ((receive desk gate clock { request with keys := [] }).2.map responded)).1 =
        some (.ok (responded response)) → response.body.length ≤ desk.bodyLimit) :
    ∃ response, FirstUse (desk.storeKey key) response
      (serve machine ((receive desk gate clock request).2.map responded))
      (serve machine ((receive desk gate clock { request with keys := [] }).2.map responded)) := by
  rcases changing_receive desk gate clock found changing with
    ⟨handler, write, operates, dresses, received⟩ | ⟨response, unkept, received⟩
  · have keyed' : (receive desk gate clock request).2.map responded = _ := (received request.keys).2
    have bare := (received []).2
    rw [bare] at small
    rw [keyed', bare]
    obtain ⟨response, after, plays, -⟩ := operates_plays operates (sceneOf machine)
    have shuns := operates_shuns operates (item_elsewhere apart)
    refine ⟨_, pass_first_use gate clock keyed fits idle absent shuns plays (fun admitted _ same => ?_) dresses⟩
    cases same
    rw [bare_pass, if_pos admitted] at small
    have few : after.handed ≤ 63 := by
      rw [play_job_handed plays]
      exact Nat.zero_le _
    have answered := small admitted _ (Solitary.serve_play idle (play_unkeyed plays) few).1
    rwa [(dresses _).2] at answered
  · have keyed' : receive desk gate clock request = _ := received request.keys
    rw [keyed', received []]
    exact ⟨response, refusal_first_use idle absent unkept⟩

theorem route_in_company {memory : Memory} {number : Nat} {events : List Event} {world : World}
    (keyed : clientKeyOf request.keys = some key) (fits : request.body.length ≤ desk.bodyLimit)
    (found : Route.find? (Target.parse request.target).segments = some route) (changing : Changing request route)
    (apart : ∀ kind name version, desk.storeKey key ≠ Catalog.Kind.key kind name version)
    (absent : memory.get? (desk.storeKey key) = none) (uncancelled : .cancelled number ∉ events)
    (run : Run Faultless (Company (desk.storeKey key)) ((World.idle memory).put number
      ⟨.request, .active ((receive desk gate clock request).2.map responded)⟩) events world) :
    ∃ fewer other, Run Faultless (Company (desk.storeKey key)) ((World.idle memory).put number
        ⟨.request, .active ((receive desk gate clock { request with keys := [] }).2.map responded)⟩) fewer other ∧
      fewer.Sublist events ∧
      InCompany (fun response => (gate.enter (identity request) clock.now).1 = true →
        response.body.length ≤ desk.bodyLimit) (desk.storeKey key) number world other := by
  have company := company_abides apart
  have abides : World.Abides (Elsewhere (desk.storeKey key)) ((World.idle memory).put number
      ⟨.request, .active ((receive desk gate clock { request with keys := [] }).2.map responded)⟩) := by
    have bare : Company (desk.storeKey key) ((receive desk gate clock { request with keys := [] }).2.map responded) :=
      .receive desk gate clock { request with keys := [] } fun _ sent => nomatch sent
    have idle : (World.idle memory).Abides (Elsewhere (desk.storeKey key)) := fun _ _ present => nomatch present
    exact put_abides idle (company _ bare)
  rcases changing_receive desk gate clock found changing with
    ⟨handler, write, operates, dresses, received⟩ | ⟨response, unkept, received⟩
  · have keyed' : (receive desk gate clock request).2.map responded = _ := (received request.keys).2
    rw [keyed', keyed_pass desk gate clock _ keyed fits] at run
    rw [(received []).2, bare_pass] at abides ⊢
    by_cases admitted : (gate.enter (identity request) clock.now).1 = true
    · rw [if_pos admitted] at run abides ⊢
      have shuns := operates_shuns operates (item_elsewhere apart)
      obtain ⟨fewer, other, bare, among, -, beside⟩ :=
        run_beside company (beside_start memory (.looking shuns) absent) abides run uncancelled
      exact ⟨fewer, other, bare, among, in_company_widen (fun _ small => small admitted)
        (beside_in_company dresses beside)⟩
    · rw [if_neg admitted] at run abides ⊢
      have unkept : isKept (write ServiceFailure.rateLimitExceeded.response).status = false := by
        rw [(dresses _).1]
        rfl
      exact ⟨events, world, run, List.Sublist.refl _,
        ended_in_company company abides absent (World.put_tasks_self _ _ _)
        unkept run⟩
  · have keyed' : receive desk gate clock request = _ := received request.keys
    rw [keyed'] at run
    rw [received []] at abides ⊢
    exact ⟨events, world, run, List.Sublist.refl _, ended_in_company company abides absent (World.put_tasks_self _ _ _)
      unkept run⟩

theorem transparent_first_use (desk : Desk) (gate : Gate α) (clock : Clock)
    (keyed : clientKeyOf request.keys = some key)
    (fits : request.body.length ≤ desk.bodyLimit) :
    let bare : Request := { request with keys := [] }
    let storeKey := desk.storeKey key
    let admitted := (gate.enter (identity request) clock.now).1
    -- Any handler that comes to an end, be it in a panic, and leaves the key alone.
    (∀ machine handler ending after, Idle machine → machine.memory.get? storeKey = none → Shuns storeKey handler →
      playJob handler (sceneOf machine) = some (ending, after) →
      (admitted = true → ∀ response, ending = .ok response → response.body.length ≤ desk.bodyLimit) →
      FirstUse storeKey (if admitted = true then surfacing ending else ServiceFailure.rateLimitExceeded.response)
        (serve machine ((caught (pass desk gate clock request handler).2).map responded))
        (serve machine ((caught (pass desk gate clock bare handler).2).map responded))) ∧
    -- Every route with its own handler, where the key is that of no item.
    ∀ route, Route.find? (Target.parse request.target).segments = some route → Changing request route →
      (∀ kind name version, storeKey ≠ Catalog.Kind.key kind name version) →
      (receive desk gate clock request).1 = (receive desk gate clock bare).1 ∧
      (∀ machine, Idle machine → machine.memory.get? storeKey = none →
        (admitted = true → ∀ response, (serve machine ((receive desk gate clock bare).2.map responded)).1 =
          some (.ok (responded response)) → response.body.length ≤ desk.bodyLimit) →
        ∃ response, FirstUse storeKey response (serve machine ((receive desk gate clock request).2.map responded))
          (serve machine ((receive desk gate clock bare).2.map responded))) ∧
      ∀ memory number events world, memory.get? storeKey = none → .cancelled number ∉ events →
        Run Faultless (Company storeKey) ((World.idle memory).put number
          ⟨.request, .active ((receive desk gate clock request).2.map responded)⟩) events world →
        ∃ fewer other, Run Faultless (Company storeKey) ((World.idle memory).put number
            ⟨.request, .active ((receive desk gate clock bare).2.map responded)⟩) fewer other ∧
          fewer.Sublist events ∧
          InCompany (fun response => admitted = true → response.body.length ≤ desk.bodyLimit) storeKey number
            world other := by
  intro bare storeKey admitted
  refine ⟨fun machine handler ending after idle absent shuns plays small => ?_, fun route found changing apart => ?_⟩
  · have dresses : Dresses id := fun _ => ⟨rfl, rfl⟩
    exact pass_first_use gate clock keyed fits idle absent shuns plays small dresses
  · refine ⟨?_, fun machine idle absent small => ?_, fun memory number events world absent uncancelled run => ?_⟩
    · rcases changing_receive desk gate clock found changing with ⟨_, _, _, _, received⟩ | ⟨_, _, received⟩
      · exact (received request.keys).1.trans (received []).1.symm
      · exact congrArg Prod.fst ((received request.keys).trans (received []).symm)
    · exact route_first_use keyed fits found changing apart idle absent small
    · exact route_in_company keyed fits found changing apart absent uncancelled run

end Routes

-- A configuration is deleted under a new key and the answer is kept; among others, its key is looked up.
theorem transparent_first_use_deletion :
    let desk : Desk := { scope := "idempotency" }
    let gate : Gate Rat := { rate := 1, burst := 1 }
    let request : Request :=
      { method := "DELETE", target := Text.toBytes "/configs/app/versions/1", keys := [Text.toBytes "k"] }
    let machine : Machine := { memory := KeyMap.empty.insert "configs/app/1" [] }
    let keyed := serve machine ((receive desk gate ⟨0, 0, 0⟩ request).2.map responded)
    let bare := serve machine ((receive desk gate ⟨0, 0, 0⟩ { request with keys := [] }).2.map responded)
    clientKeyOf request.keys = some "k" ∧ request.body.length ≤ desk.bodyLimit ∧
      FirstUse "idempotency/k" (.empty 204) keyed bare ∧
      keyed.2.memory.get? "idempotency/k" = some (Record.completed 204 []).encode ∧
      ∃ world other, Run Faultless (Company "idempotency/k")
          ((World.idle machine.memory).put 0
            ⟨.request, .active ((receive desk gate ⟨0, 0, 0⟩ request).2.map responded)⟩)
          [.called 0 .request (.get "idempotency/k") (.ok none)] world ∧
        InCompany (fun response => (gate.enter (identity request) 0).1 = true → response.body.length ≤ desk.bodyLimit)
          "idempotency/k" 0 world other := by
  intro desk gate request machine keyed bare
  have found : Route.find? (Target.parse request.target).segments =
      some (.configuration (Text.toBytes "app") (Text.toBytes "1")) := by decide
  have admitted : (gate.enter (identity request) 0).1 = true := by decide +kernel
  have given : clientKeyOf request.keys = some "k" := by decide
  have fits : request.body.length ≤ desk.bodyLimit := Nat.zero_le _
  let handler : Job Response := mutate request none (.configuration (Text.toBytes "app") (Text.toBytes "1"))
  have deletes : handler = answered writeNothing (Catalog.Kind.configuration.delete "app" "1") := by
    have name : Text.ofBytes? (Text.percentDecode (Text.toBytes "app")) = some "app" := by decide
    have version : Text.ofBytes? (Text.percentDecode (Text.toBytes "1")) = some "1" := by decide
    have path : Catalog.checkPath "app" "1" = .ok () := by decide
    simp only [handler, mutate, withNames, name, version, deleteConfiguration, path, checked]
  have plays : ∃ after, playJob handler (sceneOf machine) = some (.ok (.empty 204), after) := by
    rw [deletes]
    exact ⟨_, rfl⟩
  have foreign : Foreign desk.scope := by
    intro kind
    cases kind <;> decide
  have apart := foreign_item foreign ⟨"k", rfl⟩
  have shuns : Shuns "idempotency/k" handler := operates_shuns (mutate_operates request none _) (item_elsewhere apart)
  obtain ⟨after, plays⟩ := plays
  have received (keys : List Bytes) : (receive desk gate ⟨0, 0, 0⟩ { request with keys }).2 =
      caught (pass desk gate ⟨0, 0, 0⟩ { request with keys } handler).2 := by
    simp only [receive, found]
    exact congrArg Prod.snd (mutation_dispatch desk gate ⟨0, 0, 0⟩ _ rfl)
  obtain ⟨anyone, routes⟩ := transparent_first_use desk gate ⟨0, 0, 0⟩ given fits
  have used := anyone machine handler _ after ⟨rfl, rfl, rfl⟩ rfl shuns plays
    fun _ response same => Except.ok.inj same ▸ Nat.zero_le _
  rw [if_pos admitted, ← received, ← received] at used
  refine ⟨given, fits, used, ?_, ?_⟩
  · have kept : keyed.2.memory = keeping "idempotency/k" (.empty 204) bare.2.memory := used.stores
    rw [kept, keeping, if_pos (by decide), KeyMap.get_insert, if_pos rfl]
    rfl
  · have changing : Changing request (.configuration (Text.toBytes "app") (Text.toBytes "1")) := ⟨by decide, by decide⟩
    have claims := (congrArg (Process.map responded) (received request.keys)).trans
      (keyed_pass desk gate ⟨0, 0, 0⟩ responded given fits)
    rw [if_pos admitted] at claims
    obtain ⟨next, asks⟩ : ∃ next, (receive desk gate ⟨0, 0, 0⟩ request).2.map responded =
      .ask none (.get "idempotency/k") next := ⟨_, claims⟩
    obtain ⟨world, looks⟩ : ∃ world, Run Faultless (Company "idempotency/k") ((World.idle machine.memory).put 0
        ⟨.request, .active ((receive desk gate ⟨0, 0, 0⟩ request).2.map responded)⟩)
        [.called 0 .request (.get "idempotency/k") (.ok none)] world := by
      rw [asks]
      exact ⟨_, .step .start (.call (World.put_tasks_self _ _ _) .answered)⟩
    obtain ⟨fewer, other, -, -, stands⟩ := (routes _ found changing apart).2.2 machine.memory 0 _ _ rfl (by simp) looks
    exact ⟨world, other, looks, stands⟩

end ConfigRegistry.Concurrent
