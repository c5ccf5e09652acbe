import ConfigRegistry.Proofs.Filing

set_option autoImplicit false

/-!
Jobs and processes that mind what they write: only what may lie under its key, and over an item only where they have
just found one. Main statement: the handlers of the service mind this, as long as what they find may lie there.
-/
namespace ConfigRegistry.Concurrent

open Store (Call Outcome)
open Work (Job Process Settlement)
open Http (Request Response)
open Catalog
open Dedup
open Service

def OnShelf (key : String) : Prop := ∃ kind : Kind, Under kind.shelf key

def Sound (key : String) (bytes : Bytes) : Prop :=
  ∀ kind name version, key = Kind.key kind name version → Shelved kind name version bytes

-- What may be written by a task that has found something last under the given key.
def Careful (found : Option String) : Call → Prop
  | .create key value => Sound key value
  | .put key value => Sound key value ∧ (OnShelf key → found = some key)
  | _ => True

def foundAfter (found : Option String) : (call : Call) → Outcome call.Answer → Option String
  | .get key, .ok (some _) => some key
  | _, _ => found

def Truthful : (call : Call) → Outcome call.Answer → Prop
  | .get key, .ok (some bytes) => Sound key bytes
  | _, _ => True

-- What may happen on the way: the outcomes of calls that may occur, and the ids that may be given.
structure Setting where
  occurs : (call : Call) → Outcome call.Answer → Prop
  gives : String → Prop

section Minding

variable {α ρ : Type} (setting : Setting)

def JobMinds (post : Option String → α → Prop) : Option String → Job α → Prop
  | found, .done value => post found value
  | _, .crash _ => False
  | found, .ask call next => Careful found call ∧ ∀ answer, setting.occurs call (outcomeOf answer) →
      JobMinds post (foundAfter found call (outcomeOf answer)) (next answer)
  | found, .fresh next => ∀ id, setting.gives id → JobMinds post found (next id)
  | _, .started _ => False
  | _, .wait _ => False

def Minds (post : Option String → Except String ρ → Prop) : Option String → Process ρ → Prop
  | found, .done result => post found (.ok result)
  | found, .crash message => post found (.error message)
  | found, .ask _ call next => Careful found call ∧ ∀ outcome, setting.occurs call outcome →
      Minds post (foundAfter found call outcome) (next outcome)
  | found, .wait _ next => Minds post found next
  | found, .fresh next => ∀ id, setting.gives id → Minds post found (next id)
  | found, .started next => Minds post found next
  | found, .settle settlement next =>
      (∀ value, settlement.value = some value → ¬ OnShelf settlement.key) ∧ ∀ verdict, Minds post found (next verdict)
  | found, .abandon _ next => Minds post found next

end Minding

section Keys

variable {key : String}

theorem item_on_shelf (kind : Kind) (name version : String) : OnShelf (kind.key name version) :=
  ⟨kind, name ++ "/" ++ version, by simp [Kind.key, String.append_assoc]⟩

theorem off_shelf_sound (off : ¬ OnShelf key) (bytes : Bytes) : Sound key bytes := by
  rintro kind name version rfl
  exact absurd (item_on_shelf kind name version) off

theorem shelved_sound {kind : Kind} {name version : String} {bytes : Bytes} (path : checkPath name version = .ok ())
    (shelved : Shelved kind name version bytes) : Sound (kind.key name version) bytes := by
  intro other name' version' same
  obtain ⟨rfl, rfl, rfl⟩ := item_key_injective path same
  exact shelved

end Keys

section Jobs

variable {α β ρ : Type} {setting : Setting} {found : Option String}

theorem job_minds_bind {first : Option String → α → Prop} {second : Option String → β → Prop} {job : Job α}
    {next : α → Job β} (minds : JobMinds setting first found job)
    (rest : ∀ found value, first found value → JobMinds setting second found (next value)) :
    JobMinds setting second found (job.bind next) := by
  induction job generalizing found with
  | done value => exact rest found value minds
  | crash message => exact minds.elim
  | ask call following ih => exact ⟨minds.1, fun answer occurs => ih answer (minds.2 answer occurs)⟩
  | fresh following ih => exact fun id named => ih id (minds id named)
  | started following _ => exact minds.elim
  | wait following _ => exact minds.elim

theorem job_minds_widen {first second : Option String → α → Prop} {job : Job α}
    (minds : JobMinds setting first found job)
    (values : ∀ found value, first found value → second found value) : JobMinds setting second found job := by
  induction job generalizing found with
  | done value => exact values found value minds
  | crash message => exact minds.elim
  | ask call following ih => exact ⟨minds.1, fun answer occurs => ih answer (minds.2 answer occurs)⟩
  | fresh following ih => exact fun id named => ih id (minds id named)
  | started following _ => exact minds.elim
  | wait following _ => exact minds.elim

theorem minds_host {first : Option String → α → Prop} {post : Option String → Except String ρ → Prop} {job : Job α}
    {guard : Option String} {crashed : String → Process ρ} {ended : α → Process ρ}
    (minds : JobMinds setting first found job)
    (afterCrash : ∀ found message, (∃ call, setting.occurs call (.panicked message)) →
      Minds setting post found (crashed message))
    (afterEnd : ∀ found value, first found value → Minds setting post found (ended value)) :
    Minds setting post found (job.host guard crashed ended) := by
  induction job generalizing found with
  | done value => exact afterEnd found value minds
  | crash message => exact minds.elim
  | ask call next ih =>
      rw [Job.host]
      refine ⟨minds.1, fun outcome occurs => ?_⟩
      cases outcome with
      | ok answer => exact ih (.ok answer) (minds.2 (.ok answer) occurs)
      | failed failure => exact ih (.error failure) (minds.2 (.error failure) occurs)
      | panicked message => exact afterCrash _ message ⟨call, occurs⟩
  | fresh next ih => exact fun id named => ih id (minds id named)
  | started next _ => exact minds.elim
  | wait next _ => exact minds.elim

end Jobs

section Processes

variable {ρ σ : Type} {setting : Setting} {found : Option String}

theorem minds_bind {first : Option String → Except String ρ → Prop} {second : Option String → Except String σ → Prop}
    {process : Process ρ} {next : ρ → Process σ} (minds : Minds setting first found process)
    (rest : ∀ found result, first found (.ok result) → Minds setting second found (next result))
    (crashes : ∀ found message, first found (.error message) → second found (.error message)) :
    Minds setting second found (process.bind next) := by
  induction process generalizing found with
  | done result => exact rest found result minds
  | crash message => exact crashes found message minds
  | ask guard call following ih => exact ⟨minds.1, fun outcome occurs => ih outcome (minds.2 outcome occurs)⟩
  | wait guard following ih => exact ih minds
  | fresh following ih => exact fun id named => ih id (minds id named)
  | started following ih => exact ih minds
  | settle settlement following ih => exact ⟨minds.1, fun verdict => ih verdict (minds.2 verdict)⟩
  | abandon key following ih => exact ih minds

theorem minds_widen {first second : Option String → Except String ρ → Prop} {process : Process ρ}
    (minds : Minds setting first found process) (endings : ∀ found ending, first found ending → second found ending) :
    Minds setting second found process := by
  induction process generalizing found with
  | done result => exact endings found _ minds
  | crash message => exact endings found _ minds
  | ask guard call following ih => exact ⟨minds.1, fun outcome occurs => ih outcome (minds.2 outcome occurs)⟩
  | wait guard following ih => exact ih minds
  | fresh following ih => exact fun id named => ih id (minds id named)
  | started following ih => exact ih minds
  | settle settlement following ih => exact ⟨minds.1, fun verdict => ih verdict (minds.2 verdict)⟩
  | abandon key following ih => exact ih minds

theorem minds_then {process : Process ρ} {next : ρ → Process σ} (minds : Minds setting (fun _ _ => True) found process)
    (rest : ∀ found result, Minds setting (fun _ _ => True) found (next result)) :
    Minds setting (fun _ _ => True) found (process.bind next) :=
  minds_bind minds (fun found result _ => rest found result) fun _ _ _ => trivial

def mended (f : String → ρ) : Except String ρ → ρ
  | .ok result => result
  | .error message => f message

theorem minds_rescue {post : Option String → Except String ρ → Prop} {process : Process ρ} {f : String → ρ}
    (minds : Minds setting (fun found ending => post found (.ok (mended f ending))) found process) :
    Minds setting post found (process.rescue f) := by
  induction process generalizing found with
  | done result => exact minds
  | crash message => exact minds
  | ask guard call following ih => exact ⟨minds.1, fun outcome occurs => ih outcome (minds.2 outcome occurs)⟩
  | wait guard following ih => exact ih minds
  | fresh following ih => exact fun id named => ih id (minds id named)
  | started following ih => exact ih minds
  | settle settlement following ih => exact ⟨minds.1, fun verdict => ih verdict (minds.2 verdict)⟩
  | abandon key following ih => exact ih minds

-- Calls that write on no shelf need no minding.
def Harmless : Call → Prop
  | .create key _ | .put key _ => ¬ OnShelf key
  | _ => True

theorem harmless_careful {call : Call} (harmless : Harmless call) : Careful found call := by
  cases call with
  | create key value => exact off_shelf_sound harmless value
  | put key value => exact ⟨off_shelf_sound harmless value, fun on => absurd on harmless⟩
  | _ => trivial

theorem abides_minds {post : ρ → Prop} {process : Process ρ} (abides : Abides Harmless post process) :
    Minds setting (fun _ ending => ∀ result, ending = .ok result → post result) found process := by
  induction process generalizing found with
  | done result =>
      rintro other same
      cases same
      exact abides
  | crash message => exact fun _ same => nomatch same
  | ask guard call next ih => exact ⟨harmless_careful abides.2.1, fun outcome _ => ih outcome (abides.2.2 outcome)⟩
  | wait guard next ih => exact ih abides.2
  | fresh next ih => exact fun id _ => ih id (abides id)
  | started next ih => exact ih abides
  | settle settlement next ih =>
      refine ⟨fun value stored => ?_, fun verdict => ih verdict (abides.2 verdict)⟩
      exact abides.1 (.put settlement.key value) (by simp [settlementCalls, stored])
  | abandon key next ih => exact ih abides.2

theorem harmless_minds {process : Process ρ} (abides : Abides Harmless (fun _ => True) process) :
    Minds setting (fun _ _ => True) found process :=
  minds_widen (abides_minds abides) fun _ _ _ => trivial

end Processes

section Desks

variable {setting : Setting} {found : Option String} {desk : Desk} {handler : Job Response}

theorem record_harmless {storeKey : String} (off : ¬ OnShelf storeKey) {call : Call}
    (record : RecordCall storeKey call) :
    Harmless call := by
  cases record with
  | get => trivial
  | create => exact off
  | put _ => exact off
  | delete => trivial

theorem process_minds {α : Type} {job : Job α} (minds : JobMinds setting (fun _ _ => True) found job) :
    Minds setting (fun _ _ => True) found job.process :=
  minds_host minds (fun _ _ _ => trivial) fun _ _ _ => trivial

theorem handle_minds {storeKey : String} (off : ¬ OnShelf storeKey) {limit : Nat}
    (minds : JobMinds setting (fun _ _ => True) found handler) :
    Minds setting (fun _ _ => True) found (Ownership.handle storeKey answerOf (buffered limit handler)) := by
  have free : Abides Harmless (fun _ => True) (Ownership.free storeKey) := free_abides trivial
  have buffers : JobMinds setting (fun _ _ => True) found (buffered limit handler) :=
    job_minds_bind minds fun _ _ _ => trivial
  refine minds_host buffers ?_ ?_
  · exact fun found message _ => harmless_minds (abides_bind free fun _ _ => trivial)
  · intro found result _
    cases result with
    | error failure => exact harmless_minds (abides_bind free fun _ _ => trivial)
    | ok response =>
        refine ⟨fun _ _ => off, fun verdict => ?_⟩
        cases verdict <;> trivial

theorem deduplicate_minds {request : Request}
    (apart : ∀ key, clientKeyOf request.keys = some key → ¬ OnShelf (desk.storeKey key))
    (minds : ∀ found, JobMinds setting (fun _ _ => True) found handler) :
    Minds setting (fun _ _ => True) found (deduplicate desk request handler) := by
  rw [deduplicate]
  cases keyed : clientKeyOf request.keys with
  | none => exact process_minds (minds found)
  | some key =>
      dsimp only
      split
      · trivial
      have off := apart key keyed
      have claims := claim_abides desk (client_key_nonempty keyed) fun call record => record_harmless off record
      refine minds_then (minds_bind (abides_minds claims) ?_ fun _ _ _ => trivial) fun _ _ => trivial
      intro found claim owned
      cases claim with
      | error failure => trivial
      | ok claim =>
          cases claim with
          | unkeyed =>
              have buffers : JobMinds setting (fun _ _ => True) found (buffered desk.bodyLimit handler) :=
                job_minds_bind (minds found) fun _ _ _ => trivial
              exact minds_then (process_minds buffers) fun _ _ => trivial
          | answered answer => trivial
          | busy => trivial
          | owned storeKey =>
              obtain rfl := owned _ rfl storeKey rfl
              exact minds_then (handle_minds off (minds found)) fun _ _ => trivial

end Desks

section Handlers

variable {α β : Type} {setting : Setting} {found : Option String}

-- A failure that says nothing of the store's own trouble.
def Calm (setting : Setting) (result : Except ServiceFailure α) : Prop :=
  ∀ failure, result = .error failure → (∀ call other, ¬ setting.occurs call (.failed other)) → failure.status ≠ 500

theorem checked_minds {post : Option String → Except ServiceFailure β → Prop} {check : Except ServiceFailure α}
    {next : α → Job (Except ServiceFailure β)} (fails : ∀ failure, check = .error failure → post found (.error failure))
    (rest : ∀ value, check = .ok value → JobMinds setting post found (next value)) :
    JobMinds setting post found (checked check next) := by
  cases given : check with
  | ok value => exact rest value given
  | error failure => exact fails failure given

theorem and_then_minds {first : Option String → Except ServiceFailure α → Prop}
    {second : Option String → Except ServiceFailure β → Prop} {job : Job (Except ServiceFailure α)}
    {next : α → Job (Except ServiceFailure β)} (minds : JobMinds setting first found job)
    (rest : ∀ found value, first found (.ok value) → JobMinds setting second found (next value))
    (fails : ∀ found failure, first found (.error failure) → second found (.error failure)) :
    JobMinds setting second found (job.andThen next) := by
  refine job_minds_bind minds fun found result reached => ?_
  cases result with
  | ok value => exact rest found value reached
  | error failure => exact fails found failure reached

theorem stored_minds {call : Call} (careful : Careful found call) :
    JobMinds setting (fun _ _ => True) found (Job.stored call) :=
  ⟨careful, fun _ _ => trivial⟩

theorem create_minds (kind : Kind) (name version : String) {value : Bytes}
    (sound : Sound (kind.key name version) value) :
    JobMinds setting (fun _ _ => True) found (kind.create name version value) :=
  ⟨sound, fun answer _ => by cases answer <;> trivial⟩

theorem delete_minds (kind : Kind) (name version : String) :
    JobMinds setting (fun _ _ => True) found (kind.delete name version) :=
  ⟨trivial, fun answer _ => by cases answer <;> trivial⟩

-- What a look at an item comes to.
structure Fetched (setting : Setting) (kind : Kind) (decoder : Json.Decoder α) (name version : String)
    (found : Option String) (result : Except ServiceFailure α) : Prop where
  calm : Calm setting result
  item : ∀ item, result = .ok item → found = some (kind.key name version) ∧
    ∃ bytes, Shelved kind name version bytes ∧ decoder.whole bytes = .ok item

theorem fetch_minds (truthful : ∀ call outcome, setting.occurs call outcome → Truthful call outcome) {kind : Kind}
    {decoder : Json.Decoder α} {name version : String}
    (readable : ∀ bytes, Shelved kind name version bytes → ∃ item, decoder.whole bytes = .ok item) :
    JobMinds setting (Fetched setting kind decoder name version) found (kind.fetch decoder name version) := by
  refine ⟨trivial, fun answer occurs => ?_⟩
  rcases answer with failure | (_ | bytes)
  · refine ⟨fun other same calm => absurd occurs (calm _ _), fun item same => by cases same⟩
  · refine ⟨fun other same _ => ?_, fun item same => by cases same⟩
    cases same
    simp [ServiceFailure.status]
  · have shelved : Shelved kind name version bytes := truthful _ _ occurs kind name version rfl
    obtain ⟨item, read⟩ := readable bytes shelved
    change Fetched setting kind decoder name version (some (kind.key name version))
      ((decoder.whole bytes).mapError ServiceFailure.ofJson)
    rw [read]
    refine ⟨fun other same => (by cases same), fun other same => ?_⟩
    cases same
    exact ⟨rfl, bytes, shelved, read⟩

theorem configuration_fetch_minds (truthful : ∀ call outcome, setting.occurs call outcome → Truthful call outcome)
    (name version : String) :
    JobMinds setting (fun _ result => Calm setting result) found (Configuration.fetch name version) :=
  job_minds_widen (fetch_minds truthful fun _ ⟨item, read, _⟩ => ⟨item, read⟩) fun _ _ fetched => fetched.calm

structure GroupFetched (setting : Setting) (name version : String) (found : Option String)
    (result : Except ServiceFailure Group) : Prop where
  calm : Calm setting result
  item : ∀ group, result = .ok group →
    found = some (Kind.group.key name version) ∧ group.name = name ∧ group.version = version ∧ group.Sound

theorem group_fetch_minds (truthful : ∀ call outcome, setting.occurs call outcome → Truthful call outcome)
    (name version : String) :
    JobMinds setting (GroupFetched setting name version) found (Group.fetch name version) := by
  refine job_minds_widen (fetch_minds truthful fun _ ⟨item, read, _⟩ => ⟨item, read⟩) fun found result fetched => ?_
  refine ⟨fetched.calm, fun group same => ?_⟩
  obtain ⟨last, bytes, ⟨other, read, named, versioned, sound⟩, again⟩ := fetched.item group same
  cases read.symm.trans again
  exact ⟨last, named, versioned, sound⟩

theorem group_path {group : Group} (sound : group.Sound) : checkPath group.name group.version = .ok () :=
  header_path ((group_check_iff group).mp sound.checked).1

theorem update_minds {group : Group} (sound : group.Sound)
    (last : found = some (Kind.group.key group.name group.version)) :
    JobMinds setting (fun _ _ => True) found group.update :=
  stored_minds ⟨shelved_sound (group_path sound) (group_shelved sound), fun _ => last⟩

section Names

variable (named : ∀ id, setting.gives id → id ≠ "")
include named

theorem named_id_minds (id : String) :
    JobMinds setting (fun after id => after = found ∧ id ≠ "") found (namedId id) := by
  rw [namedId]
  split
  · exact fun id given => ⟨rfl, named id given⟩
  · rename_i given
    exact ⟨rfl, given⟩

theorem renamed_minds {configuration : Configuration} (checked : configuration.check = .ok ()) :
    JobMinds setting (fun after renamed => after = found ∧ renamed.Sound) found configuration.renamed :=
  fun id given => ⟨rfl, checked, named id given⟩

theorem named_entry_minds (entry : Entry) :
    JobMinds setting (fun after renamed => after = found ∧ renamed.pair = entry.pair ∧ renamed.check = entry.check ∧
      renamed.id ≠ "" ∧ renamed.configuration.id ≠ "") found entry.named := by
  refine job_minds_bind (named_id_minds named entry.id) fun _ id given => ?_
  obtain ⟨rfl, outer⟩ := given
  refine job_minds_bind (named_id_minds named entry.configuration.id) fun _ inner given => ?_
  obtain ⟨rfl, inside⟩ := given
  exact ⟨rfl, rfl, rfl, outer, inside⟩

theorem named_entries_mind (entries : List Entry) :
    JobMinds setting (fun after renamed => after = found ∧ renamed.map Entry.pair = entries.map Entry.pair ∧
      (∀ entry ∈ renamed, entry.id ≠ "" ∧ entry.configuration.id ≠ "") ∧
      ((∀ entry ∈ entries, entry.check = .ok ()) → ∀ entry ∈ renamed, entry.check = .ok ()))
      found (namedEntries entries) := by
  induction entries with
  | nil => exact ⟨rfl, rfl, by simp, by simp⟩
  | cons entry entries ih =>
      refine job_minds_bind (named_entry_minds named entry) fun _ first given => ?_
      obtain ⟨rfl, pair, check, outer, inner⟩ := given
      refine job_minds_bind ih fun _ rest given => ?_
      obtain ⟨rfl, pairs, ids, checks⟩ := given
      refine ⟨rfl, by simp [pair, pairs], List.forall_mem_cons.mpr ⟨⟨outer, inner⟩, ids⟩, fun before => ?_⟩
      obtain ⟨sound, others⟩ := List.forall_mem_cons.mp before
      exact List.forall_mem_cons.mpr ⟨check.trans sound, checks others⟩

theorem named_group_minds {group : Group} (checked : group.check = .ok ()) :
    JobMinds setting (fun after renamed => after = found ∧ renamed.Sound) found group.named := by
  obtain ⟨header, checks, apart⟩ := (group_check_iff group).mp checked
  refine job_minds_bind (named_id_minds named group.id) fun _ id given => ?_
  obtain ⟨rfl, outer⟩ := given
  refine job_minds_bind (named_entries_mind named group.entries) fun _ entries given => ?_
  obtain ⟨rfl, pairs, ids, sound⟩ := given
  exact ⟨rfl, (group_check_iff _).mpr ⟨header, sound checks, by rwa [pairs]⟩, outer, ids⟩

theorem add_minds {group : Group} {entry : Entry} (sound : group.Sound) (checked : entry.check = .ok ()) :
    JobMinds setting (fun after added => after = found ∧ ∀ grown, added = some grown →
      grown.name = group.name ∧ grown.version = group.version ∧ grown.Sound) found (group.add entry) := by
  rw [Group.add]
  split
  · exact ⟨rfl, fun _ same => by cases same⟩
  · rename_i absent
    refine job_minds_bind (named_entry_minds named entry) fun _ renamed given => ?_
    obtain ⟨rfl, pair, check, outer, inner⟩ := given
    refine ⟨rfl, fun grown same => ?_⟩
    cases same
    have fits : renamed.Sound := ⟨check.trans checked, outer, inner⟩
    obtain ⟨names, versions⟩ := Prod.mk.inj pair
    refine ⟨rfl, rfl, Group.append_sound sound fits ?_⟩
    rw [names, versions]
    exact absent

end Names

section Operations

variable (truthful : ∀ call outcome, setting.occurs call outcome → Truthful call outcome)
  (named : ∀ id, setting.gives id → id ≠ "") {name version : String}

include named in
theorem create_configuration_minds (configuration : Configuration) :
    JobMinds setting (fun _ _ => True) found (createConfiguration configuration) := by
  refine checked_minds (fun _ _ => trivial) fun _ checked => ?_
  refine job_minds_bind (renamed_minds named checked) fun _ renamed given => ?_
  obtain ⟨rfl, sound⟩ := given
  have path : checkPath renamed.name renamed.version = .ok () := header_path (unit_bind_ok.mp sound.checked).1
  have fits := shelved_sound path (configuration_shelved sound)
  exact and_then_minds (create_minds .configuration _ _ fits) (fun _ _ _ => trivial) fun _ _ _ => trivial

include named in
theorem create_group_minds (group : Group) : JobMinds setting (fun _ _ => True) found (createGroup group) := by
  refine checked_minds (fun _ _ => trivial) fun _ checked => ?_
  refine job_minds_bind (named_group_minds named checked) fun _ renamed given => ?_
  obtain ⟨rfl, sound⟩ := given
  have fits := shelved_sound (group_path sound) (group_shelved sound)
  exact and_then_minds (create_minds .group _ _ fits) (fun _ _ _ => trivial) fun _ _ _ => trivial

theorem delete_item_minds (kind : Kind) :
    JobMinds setting (fun _ _ => True) found (checked (checkPath name version) fun _ => kind.delete name version) :=
  checked_minds (fun _ _ => trivial) fun _ _ => delete_minds kind name version

include truthful named in
theorem add_entry_minds (entry : Except ServiceFailure Entry) :
    JobMinds setting (fun _ _ => True) found (addEntry name version entry) := by
  refine checked_minds (fun _ _ => trivial) fun _ _ => checked_minds (fun _ _ => trivial) fun entry _ => ?_
  refine checked_minds (fun _ _ => trivial) fun _ checked => ?_
  refine and_then_minds (group_fetch_minds truthful name version) (fun found group fetched => ?_) fun _ _ _ => trivial
  obtain ⟨last, rfl, rfl, sound⟩ := fetched.item group rfl
  refine job_minds_bind (add_minds named sound checked) fun _ added given => ?_
  obtain ⟨rfl, grown⟩ := given
  cases added with
  | none => trivial
  | some group =>
      obtain ⟨names, versions, fits⟩ := grown group rfl
      rw [← names, ← versions] at last
      exact and_then_minds (update_minds fits last) (fun _ _ _ => trivial) fun _ _ _ => trivial

include truthful in
theorem remove_entry_minds (entryId : Except ServiceFailure String) :
    JobMinds setting (fun _ _ => True) found (removeEntry name version entryId) := by
  refine checked_minds (fun _ _ => trivial) fun _ _ => checked_minds (fun _ _ => trivial) fun entryId _ => ?_
  refine and_then_minds (group_fetch_minds truthful name version) (fun found group fetched => ?_) fun _ _ _ => trivial
  obtain ⟨last, rfl, rfl, sound⟩ := fetched.item group rfl
  split
  · exact and_then_minds (update_minds (Group.filter_sound sound _) last) (fun _ _ _ => trivial) fun _ _ _ => trivial
  · trivial

include truthful in
theorem delete_entries_minds (labels : Option String) :
    JobMinds setting (fun _ _ => True) found (deleteEntries name version labels) := by
  refine checked_minds (fun _ _ => trivial) fun _ _ => checked_minds (fun _ _ => trivial) fun filter _ => ?_
  split
  · trivial
  · refine and_then_minds (group_fetch_minds truthful name version) (fun found group fetched => ?_) fun _ _ _ => trivial
    obtain ⟨last, rfl, rfl, sound⟩ := fetched.item group rfl
    exact and_then_minds (update_minds (Group.filter_sound sound _) last) (fun _ _ _ => trivial) fun _ _ _ => trivial

end Operations

section Routes

variable (truthful : ∀ call outcome, setting.occurs call outcome → Truthful call outcome)
  (named : ∀ id, setting.gives id → id ≠ "")

theorem answered_minds {first : Option String → Except ServiceFailure α → Prop} {post : Option String → Response → Prop}
    {write : α → Response} {job : Job (Except ServiceFailure α)} (minds : JobMinds setting first found job)
    (writes : ∀ found value, first found (.ok value) → post found (write value))
    (fails : ∀ found failure, first found (.error failure) → post found failure.response) :
    JobMinds setting post found (answered write job) := by
  refine job_minds_bind minds fun found result reached => ?_
  cases result with
  | ok value => exact writes found value reached
  | error failure => exact fails found failure reached

theorem settled_minds {write : α → Response} {job : Job (Except ServiceFailure α)}
    (minds : JobMinds setting (fun _ _ => True) found job) :
    JobMinds setting (fun _ _ => True) found (answered write job) :=
  answered_minds minds (fun _ _ _ => trivial) fun _ _ _ => trivial

theorem names_mind {post : Option String → Response → Prop} {name version : Bytes}
    {next : String → String → Job Response} (refused : ∀ text, post found (.plain 400 text))
    (rest : ∀ name version, JobMinds setting post found (next name version)) :
    JobMinds setting post found (withNames name version next) := by
  rw [withNames]
  split
  · exact refused _
  · exact refused _
  · exact rest _ _

theorem labels_mind {post : Option String → Response → Prop} {query : Option Bytes}
    {next : Option String → Job Response} (refused : ∀ text, post found (.plain 400 text))
    (rest : ∀ labels, JobMinds setting post found (next labels)) :
    JobMinds setting post found (withLabels query next) := by
  rw [withLabels]
  split
  · exact rest _
  · exact rest _
  · exact refused _

include truthful named in
theorem mutate_minds (request : Request) (query : Option Bytes) (route : Route) :
    JobMinds setting (fun _ _ => True) found (mutate request query route) := by
  cases route with
  | configurations =>
      refine settled_minds (checked_minds (fun _ _ => trivial) fun configuration _ => ?_)
      exact create_configuration_minds named configuration
  | configuration name version =>
      exact names_mind (fun _ => trivial) fun _ _ => settled_minds (delete_item_minds .configuration)
  | groups =>
      refine settled_minds (checked_minds (fun _ _ => trivial) fun group _ => ?_)
      exact create_group_minds named group
  | group name version => exact names_mind (fun _ => trivial) fun _ _ => settled_minds (delete_item_minds .group)
  | addEntry name version =>
      exact names_mind (fun _ => trivial) fun _ _ => settled_minds (add_entry_minds truthful named _)
  | removeEntry name version =>
      exact names_mind (fun _ => trivial) fun _ _ => settled_minds (remove_entry_minds truthful _)
  | entries name version =>
      refine names_mind (fun _ => trivial) fun _ _ => labels_mind (fun _ => trivial) fun labels => ?_
      exact settled_minds (delete_entries_minds truthful labels)
  | health => trivial

end Routes

section Reading

theorem calm_bind {first : Except ServiceFailure α} {next : α → Except ServiceFailure β} (calm : Calm setting first)
    (rest : ∀ value, Calm setting (next value)) : Calm setting (first >>= next) := by
  cases first with
  | ok value => exact rest value
  | error failure =>
      intro other same
      cases same
      exact calm failure rfl

theorem calm_error {failure : ServiceFailure} (status : failure.status ≠ 500) :
    Calm setting (.error failure : Except ServiceFailure α) := by
  intro other same _
  cases same
  exact status

theorem path_calm (name version : String) : Calm setting (checkPath name version) := by
  have identifier (field value : String) : Calm setting (checkIdentifier field value) := by
    rw [checkIdentifier]
    split
    · exact fun _ same => by cases same
    · exact calm_error (by simp [ServiceFailure.status])
  exact calm_bind (identifier _ _) fun _ => identifier _ _

theorem pairs_calm (filter : LabelFilter) (pairs : List (List Char)) : Calm setting (readPairs filter pairs) := by
  induction pairs generalizing filter with
  | nil => exact fun _ same => by cases same
  | cons pair rest ih =>
      refine calm_bind ?_ fun _ => ih _
      rw [readPair]
      split
      · dsimp only
        split
        · exact calm_error (by simp [ServiceFailure.status])
        · exact fun _ same => by cases same
      · exact calm_error (by simp [ServiceFailure.status])

theorem labels_calm (labels : Option String) : Calm setting (LabelFilter.parse labels) := by
  cases labels with
  | none => exact fun _ same => nomatch same
  | some text => exact pairs_calm _ _

theorem checked_calm {check : Except ServiceFailure α} {next : α → Job (Except ServiceFailure β)}
    (calm : Calm setting check)
    (rest : ∀ value, JobMinds setting (fun _ result => Calm setting result) found (next value)) :
    JobMinds setting (fun _ result => Calm setting result) found (checked check next) := by
  refine checked_minds (fun failure same => ?_) fun value _ => rest value
  intro other equal quiet
  cases equal
  exact calm failure same quiet

def CalmResponse (setting : Setting) (response : Response) : Prop :=
  (∀ call other, ¬ setting.occurs call (.failed other)) → response.status ≠ 500

theorem other_status_calm {response : Response} (other : response.status ≠ 500) : CalmResponse setting response :=
  fun _ => other

theorem calm_minds {write : α → Response} {job : Job (Except ServiceFailure α)}
    (writes : ∀ value, (write value).status = 200)
    (minds : JobMinds setting (fun _ result => Calm setting result) found job) :
    JobMinds setting (fun _ response => CalmResponse setting response) found (answered write job) := by
  refine answered_minds minds (fun _ value _ => other_status_calm ?_) fun _ failure calm => calm failure rfl
  rw [writes value]
  decide

variable (truthful : ∀ call outcome, setting.occurs call outcome → Truthful call outcome)
include truthful

theorem get_configuration_minds (name version : String) :
    JobMinds setting (fun _ result => Calm setting result) found (getConfiguration name version) :=
  checked_calm (path_calm name version) fun _ => configuration_fetch_minds truthful name version

theorem get_group_minds (name version : String) :
    JobMinds setting (fun _ result => Calm setting result) found (getGroup name version) :=
  checked_calm (path_calm name version) fun _ =>
    job_minds_widen (group_fetch_minds truthful name version) fun _ _ fetched => fetched.calm

theorem list_entries_minds (name version : String) (labels : Option String) :
    JobMinds setting (fun _ result => Calm setting result) found (listEntries name version labels) := by
  refine checked_calm (path_calm name version) fun _ => checked_calm (labels_calm labels) fun filter => ?_
  refine and_then_minds (group_fetch_minds truthful name version) (fun _ _ _ _ same => nomatch same) ?_
  intro _ failure fetched other equal quiet
  cases equal
  exact fetched.calm failure rfl quiet

theorem inspect_minds (clock : Clock) (query : Option Bytes) (route : Route) :
    JobMinds setting (fun _ response => CalmResponse setting response) found (inspect clock query route) := by
  have refused (text : String) : CalmResponse setting (.plain 400 text) := other_status_calm (by simp [Response.plain])
  cases route with
  | configuration name version =>
      exact names_mind refused fun name version => calm_minds (fun _ => rfl)
        (get_configuration_minds truthful name version)
  | group name version =>
      exact names_mind refused fun name version => calm_minds (fun _ => rfl) (get_group_minds truthful name version)
  | entries name version =>
      refine names_mind refused fun name version => labels_mind refused fun labels => ?_
      exact calm_minds (fun _ => rfl) (list_entries_minds truthful name version labels)
  | health => exact ⟨trivial, fun _ _ => other_status_calm (by simp [Response.json])⟩
  | _ => exact other_status_calm (by decide)

end Reading
end Handlers

section Courses

variable {ρ : Type} {setting : Setting} {found : Option String} {course : List Happening}

theorem takes_minds {post : Option String → Except String ρ → Prop} {process : Process ρ} {ending : Except String ρ}
    (takes : Takes process course ending) (minds : Minds setting post found process)
    (occurs : ∀ call outcome, .asked call outcome ∈ course → setting.occurs call outcome)
    (gives : ∀ id, .named id ∈ course → setting.gives id) : ∃ last, post last ending := by
  induction takes generalizing found with
  | done _ => exact ⟨found, minds⟩
  | crash _ => exact ⟨found, minds⟩
  | ask outcome _ ih =>
      exact ih (minds.2 outcome (occurs _ _ List.mem_cons_self))
        (fun call answer among => occurs call answer (List.mem_cons_of_mem _ among))
        fun id among => gives id (List.mem_cons_of_mem _ among)
  | fresh id _ ih =>
      exact ih (minds id (gives id List.mem_cons_self))
        (fun call answer among => occurs call answer (List.mem_cons_of_mem _ among))
        fun id among => gives id (List.mem_cons_of_mem _ among)
  | wait _ ih =>
      exact ih minds (fun call answer among => occurs call answer (List.mem_cons_of_mem _ among))
        fun id among => gives id (List.mem_cons_of_mem _ among)
  | started _ ih =>
      exact ih minds (fun call answer among => occurs call answer (List.mem_cons_of_mem _ among))
        fun id among => gives id (List.mem_cons_of_mem _ among)
  | settle verdict _ ih =>
      exact ih (minds.2 verdict) (fun call answer among => occurs call answer (List.mem_cons_of_mem _ among))
        fun id among => gives id (List.mem_cons_of_mem _ among)
  | abandon _ ih =>
      exact ih minds (fun call answer among => occurs call answer (List.mem_cons_of_mem _ among))
        fun id among => gives id (List.mem_cons_of_mem _ among)

-- Where every call is answered, a request that reads ends in a response, and not in one of the service's own trouble.
def Unbroken (ending : Except String Response) : Prop := ∃ response, ending = .ok response ∧ response.status ≠ 500

theorem reading_minds (truthful : ∀ call outcome, setting.occurs call outcome → Truthful call outcome)
    (answers : ∀ call outcome, setting.occurs call outcome → ∃ answer, outcome = .ok answer)
    (clock : Clock) (query : Option Bytes) (route : Route) (method : String) :
    Minds setting (fun _ ending => Unbroken ending) found (reading clock query route method) := by
  have quiet (call : Call) (other : StoreFailure) : ¬ setting.occurs call (.failed other) := by
    intro occurs
    obtain ⟨answer, same⟩ := answers call _ occurs
    cases same
  have inspects :
      Minds setting (fun _ ending => Unbroken ending) found (caught (inspect clock query route).process) := by
    refine minds_rescue (minds_host (inspect_minds truthful clock query route) ?_ ?_)
    · rintro found message ⟨call, occurs⟩
      obtain ⟨answer, same⟩ := answers call _ occurs
      cases same
    · exact fun found response calm => ⟨response, rfl, calm quiet⟩
  rw [reading]
  split
  · exact ⟨_, rfl, by simp [Response.empty]⟩
  · split
    · exact inspects
    · split
      · refine minds_bind inspects (fun found response ends => ?_) fun found message ends => ?_
        · obtain ⟨other, same, status⟩ := ends
          cases same
          exact ⟨_, rfl, status⟩
        · obtain ⟨other, same, -⟩ := ends
          cases same
      · exact ⟨_, rfl, by simp [Response.empty]⟩

end Courses
end ConfigRegistry.Concurrent
