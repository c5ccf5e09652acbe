import ConfigRegistry.Proofs.Calls

set_option autoImplicit false

/-!
The handlers of the service: the calls they make and the failures they report. Main statements: a handler asks the
store for nothing but items, one that inspects writes nothing, and none of them answers as the desk does when it
refuses a request.
-/
namespace ConfigRegistry.Concurrent

open Store (Call Outcome)
open Work (Job)
open Http (Request Response)
open Catalog
open Service

-- A call for the item of some kind, name and version, or the ping of the health report.
def ItemCall (call : Call) : Prop := call = .ping ∨ ∃ kind name version, call.key = Kind.key kind name version

def Reading (call : Call) : Prop := call = .ping ∨ ∃ kind name version, call = .get (Kind.key kind name version)

-- The failures that a handler may report. The others belong to the layers around it.
def Ordinary : ServiceFailure → Prop
  | .storageUnavailable _ | .notFound _ | .alreadyExists _ | .validationError _ | .badRequest _
  | .internalError _ => True
  | _ => False

def Reports {α : Type} : Except ServiceFailure α → Prop
  | .ok _ => True
  | .error failure => Ordinary failure

section Checks

variable {α β : Type}

theorem reports_bind {check : Except ServiceFailure α} {next : α → Except ServiceFailure β} (first : Reports check)
    (rest : ∀ value, Reports (next value)) : Reports (check >>= next) := by
  cases check with
  | ok value => exact rest value
  | error failure => exact first

theorem of_store_ordinary (failure : StoreFailure) : Ordinary (.ofStore failure) := by
  cases failure <;> trivial

theorem identifier_reports (field value : String) : Reports (checkIdentifier field value) := by
  rw [checkIdentifier]
  split <;> trivial

theorem path_reports (name version : String) : Reports (checkPath name version) :=
  reports_bind (identifier_reports _ _) fun _ => identifier_reports _ _

theorem lengths_report (name version : String) : Reports (checkLengths name version) := by
  rw [checkLengths]
  split <;> trivial

theorem header_reports (name version : String) : Reports (checkHeader name version) :=
  reports_bind (lengths_report _ _) fun _ => path_reports _ _

theorem configuration_reports (configuration : Configuration) : Reports configuration.check := by
  refine reports_bind (header_reports _ _) fun _ => ?_
  split <;> trivial

theorem entry_reports (entry : Entry) : Reports entry.check := by
  refine reports_bind (configuration_reports _) fun _ => ?_
  split <;> trivial

theorem entries_report (seen : List (String × String)) (entries : List Entry) :
    Reports (checkEntries seen entries) := by
  induction entries generalizing seen with
  | nil => trivial
  | cons entry rest ih =>
      refine reports_bind (entry_reports entry) fun _ => ?_
      dsimp only
      split
      · trivial
      · exact ih _

theorem group_reports (group : Group) : Reports group.check :=
  reports_bind (header_reports _ _) fun _ => entries_report _ _

theorem pair_reports (pair : List Char) : Reports (readPair pair) := by
  rw [readPair]
  split
  · dsimp only
    split <;> trivial
  · trivial

theorem pairs_report (filter : LabelFilter) (pairs : List (List Char)) : Reports (readPairs filter pairs) := by
  induction pairs generalizing filter with
  | nil => trivial
  | cons pair rest ih => exact reports_bind (pair_reports pair) fun _ => ih _

theorem labels_report (labels : Option String) : Reports (LabelFilter.parse labels) := by
  cases labels with
  | none => trivial
  | some text => exact pairs_report _ _

theorem body_reports (decoder : Json.Decoder α) (request : Request) : Reports (readBody decoder request) := by
  rw [readBody]
  split
  · trivial
  · split
    · trivial
    · split <;> trivial

end Checks

section Shelves

variable {α β : Type} {allowed : Call → Prop}

theorem checked_operates {check : Except ServiceFailure α} {next : α → Job (Except ServiceFailure β)}
    (reports : Reports check) (rest : ∀ value, Operates allowed Reports (next value)) :
    Operates allowed Reports (checked check next) := by
  cases check with
  | ok value => exact rest value
  | error failure => exact reports

theorem and_then_operates {job : Job (Except ServiceFailure α)} {next : α → Job (Except ServiceFailure β)}
    (operates : Operates allowed Reports job) (rest : ∀ value, Operates allowed Reports (next value)) :
    Operates allowed Reports (job.andThen next) :=
  operates_and_then operates (fun value _ => rest value) fun _ ordinary => ordinary

theorem stored_operates {call : Call} (may : allowed call) : Operates allowed Reports (Job.stored call) := by
  refine ⟨may, fun answer => ?_⟩
  cases answer with
  | ok _ => trivial
  | error failure => exact of_store_ordinary failure

theorem create_operates (kind : Kind) (name version : String) (value : Bytes) :
    Operates ItemCall Reports (kind.create name version value) := by
  refine and_then_operates (stored_operates (.inr ⟨kind, name, version, rfl⟩)) fun written => ?_
  cases written <;> trivial

theorem fetch_operates (kind : Kind) (decoder : Json.Decoder α) (name version : String) :
    Operates Reading Reports (kind.fetch decoder name version) := by
  refine and_then_operates (stored_operates (.inr ⟨kind, name, version, rfl⟩)) fun found => ?_
  cases found with
  | none => trivial
  | some bytes =>
      change Reports ((decoder.whole bytes).mapError ServiceFailure.ofJson)
      cases decoder.whole bytes <;> trivial

theorem update_operates (kind : Kind) (name version : String) (value : Bytes) :
    Operates ItemCall Reports (kind.update name version value) :=
  stored_operates (.inr ⟨kind, name, version, rfl⟩)

theorem delete_operates (kind : Kind) (name version : String) :
    Operates ItemCall Reports (kind.delete name version) := by
  refine and_then_operates (stored_operates (.inr ⟨kind, name, version, rfl⟩)) fun existed => ?_
  cases existed <;> trivial

theorem reading_item (call : Call) (reading : Reading call) : ItemCall call := by
  rcases reading with ping | ⟨kind, name, version, rfl⟩
  · exact .inl ping
  · exact .inr ⟨kind, name, version, rfl⟩

theorem fetch_item (kind : Kind) (decoder : Json.Decoder α) (name version : String) :
    Operates ItemCall Reports (kind.fetch decoder name version) :=
  operates_widen (fetch_operates kind decoder name version) reading_item fun _ reports => reports

theorem renamed_operates (configuration : Configuration) : Operates allowed (fun _ => True) configuration.renamed :=
  fun _ => trivial

theorem named_id_operates (id : String) : Operates allowed (fun _ => True) (namedId id) := by
  rw [namedId]
  split
  · exact fun _ => trivial
  · trivial

theorem named_entry_operates (entry : Entry) : Operates allowed (fun _ => True) entry.named :=
  operates_bind (named_id_operates _) fun _ _ => operates_bind (named_id_operates _) fun _ _ => trivial

theorem named_entries_operate (entries : List Entry) : Operates allowed (fun _ => True) (namedEntries entries) := by
  induction entries with
  | nil => trivial
  | cons entry rest ih =>
      exact operates_bind (named_entry_operates entry) fun _ _ => operates_bind ih fun _ _ => trivial

theorem named_group_operates (group : Group) : Operates allowed (fun _ => True) group.named :=
  operates_bind (named_id_operates _) fun _ _ => operates_bind (named_entries_operate _) fun _ _ => trivial

theorem add_operates (group : Group) (entry : Entry) : Operates allowed (fun _ => True) (group.add entry) := by
  rw [Group.add]
  split
  · trivial
  · exact operates_bind (named_entry_operates entry) fun _ _ => trivial

end Shelves

section Operations

variable {name version : String}

theorem create_configuration_operates (configuration : Configuration) :
    Operates ItemCall Reports (createConfiguration configuration) := by
  refine checked_operates (configuration_reports _) fun _ => ?_
  refine operates_bind (renamed_operates configuration) fun configuration _ => ?_
  exact and_then_operates (create_operates _ _ _ _) fun _ => trivial

theorem get_configuration_operates : Operates Reading Reports (getConfiguration name version) :=
  checked_operates (path_reports _ _) fun _ => fetch_operates _ _ _ _

theorem delete_configuration_operates : Operates ItemCall Reports (deleteConfiguration name version) :=
  checked_operates (path_reports _ _) fun _ => delete_operates _ _ _

theorem create_group_operates (group : Group) : Operates ItemCall Reports (createGroup group) := by
  refine checked_operates (group_reports _) fun _ => ?_
  refine operates_bind (named_group_operates group) fun group _ => ?_
  exact and_then_operates (create_operates _ _ _ _) fun _ => trivial

theorem get_group_operates : Operates Reading Reports (getGroup name version) :=
  checked_operates (path_reports _ _) fun _ => fetch_operates _ _ _ _

theorem delete_group_operates : Operates ItemCall Reports (deleteGroup name version) :=
  checked_operates (path_reports _ _) fun _ => delete_operates _ _ _

theorem add_entry_operates {entry : Except ServiceFailure Entry} (reports : Reports entry) :
    Operates ItemCall Reports (addEntry name version entry) := by
  refine checked_operates (path_reports _ _) fun _ => checked_operates reports fun entry => ?_
  refine checked_operates (entry_reports entry) fun _ => and_then_operates (fetch_item _ _ _ _) fun group => ?_
  refine operates_bind (add_operates group entry) fun added _ => ?_
  cases added with
  | none => trivial
  | some group => exact and_then_operates (update_operates _ _ _ _) fun _ => trivial

theorem remove_entry_operates {entryId : Except ServiceFailure String} (reports : Reports entryId) :
    Operates ItemCall Reports (removeEntry name version entryId) := by
  refine checked_operates (path_reports _ _) fun _ => checked_operates reports fun entryId => ?_
  refine and_then_operates (fetch_item _ _ _ _) fun group => ?_
  split
  · exact and_then_operates (update_operates _ _ _ _) fun _ => trivial
  · trivial

theorem list_entries_operates (labels : Option String) : Operates Reading Reports (listEntries name version labels) :=
  checked_operates (path_reports _ _) fun _ => checked_operates (labels_report labels) fun _ =>
    and_then_operates (fetch_operates _ _ _ _) fun _ => trivial

theorem delete_entries_operates (labels : Option String) :
    Operates ItemCall Reports (deleteEntries name version labels) := by
  refine checked_operates (path_reports _ _) fun _ => checked_operates (labels_report labels) fun filter => ?_
  split
  · trivial
  · refine and_then_operates (fetch_item _ _ _ _) fun group => ?_
    exact and_then_operates (update_operates _ _ _ _) fun _ => trivial

end Operations

section Routes

theorem refusal_differs {failure : ServiceFailure} (ordinary : Ordinary failure) :
    failure.response ≠ ServiceFailure.conflict.response := by
  intro same
  have status : failure.status = 409 := congrArg Response.status same
  cases failure with
  | alreadyExists what =>
      -- Both have the status 409. The bodies part where the name of the failure begins.
      have letters : some (97 : UInt8) = some 99 := congrArg (fun response : Response => response.body[10]?) same
      exact absurd letters (by decide)
  | _ => first | exact ordinary | simp [ServiceFailure.status] at status

-- What a handler answers is not the desk's own refusal.
def Answers (response : Response) : Prop := response ≠ ServiceFailure.conflict.response

theorem other_status_answers {response : Response} (other : response.status ≠ 409) : Answers response := by
  rintro rfl
  exact other rfl

variable {α : Type} {allowed : Call → Prop}

theorem answered_operates (status : UInt16) (other : status ≠ 409) {write : α → Response}
    (writes : ∀ value, (write value).status = status) {job : Job (Except ServiceFailure α)}
    (operates : Operates allowed Reports job) : Operates allowed Answers (answered write job) := by
  refine operates_bind operates fun result reports => ?_
  cases result with
  | ok value => exact other_status_answers (writes value ▸ other)
  | error failure => exact refusal_differs reports

theorem names_operate {name version : Bytes} {next : String → String → Job Response}
    (rest : ∀ name version, Operates allowed Answers (next name version)) :
    Operates allowed Answers (withNames name version next) := by
  rw [withNames]
  split
  · exact other_status_answers (by decide)
  · exact other_status_answers (by decide)
  · exact rest _ _

theorem labels_operate {query : Option Bytes} {next : Option String → Job Response}
    (rest : ∀ labels, Operates allowed Answers (next labels)) : Operates allowed Answers (withLabels query next) := by
  rw [withLabels]
  split
  · exact rest _
  · exact rest _
  · exact other_status_answers (by decide)

theorem mutate_operates (request : Request) (query : Option Bytes) (route : Route) :
    Operates ItemCall Answers (mutate request query route) := by
  cases route with
  | configurations =>
      refine answered_operates 201 (by decide) (fun _ => rfl) ?_
      exact checked_operates (body_reports _ _) create_configuration_operates
  | configuration name version =>
      exact names_operate fun _ _ => answered_operates 204 (by decide) (fun _ => rfl) delete_configuration_operates
  | groups =>
      refine answered_operates 201 (by decide) (fun _ => rfl) ?_
      exact checked_operates (body_reports _ _) create_group_operates
  | group name version =>
      exact names_operate fun _ _ => answered_operates 204 (by decide) (fun _ => rfl) delete_group_operates
  | addEntry name version =>
      refine names_operate fun _ _ => answered_operates 200 (by decide) (fun _ => rfl) ?_
      exact add_entry_operates (body_reports _ _)
  | removeEntry name version =>
      refine names_operate fun _ _ => answered_operates 200 (by decide) (fun _ => rfl) ?_
      exact remove_entry_operates (body_reports _ _)
  | entries name version =>
      refine names_operate fun _ _ => labels_operate fun labels => ?_
      exact answered_operates 200 (by decide) (fun _ => rfl) (delete_entries_operates labels)
  | health => exact other_status_answers (by decide)

theorem inspect_operates (clock : Clock) (query : Option Bytes) (route : Route) :
    Operates Reading Answers (inspect clock query route) := by
  cases route with
  | configuration name version =>
      exact names_operate fun _ _ => answered_operates 200 (by decide) (fun _ => rfl) get_configuration_operates
  | group name version =>
      exact names_operate fun _ _ => answered_operates 200 (by decide) (fun _ => rfl) get_group_operates
  | entries name version =>
      refine names_operate fun _ _ => labels_operate fun labels => ?_
      exact answered_operates 200 (by decide) (fun _ => rfl) (list_entries_operates labels)
  | health => exact ⟨.inl rfl, fun _ => other_status_answers (by simp [Response.json])⟩
  | _ => exact other_status_answers (by decide)

end Routes
end ConfigRegistry.Concurrent
