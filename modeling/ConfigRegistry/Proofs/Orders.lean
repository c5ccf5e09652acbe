import ConfigRegistry.Proofs.Filing
import ConfigRegistry.Proofs.Library

set_option autoImplicit false

/-!
Requests and what they order. Main statement: the handler of a request does what is done for its order, and every
order that gets so far names a path that is in order.
-/
namespace ConfigRegistry

open Catalog
open Http (Request Response)
open Service
open Work (Job)

namespace Library

def naming : {kind : Kind} → Item kind → Job (Item kind)
  | .configuration, configuration => Configuration.renamed configuration
  | .group, group => Group.named group

def creating {kind : Kind} (item : Item kind) : Job (Except ServiceFailure (Item kind)) :=
  (naming item).bind fun given =>
    (kind.create given.name given.version given.encode).andThen fun _ => .done (.ok given)

end Library

namespace Order

-- What is done for an order, all of whose parts were found in order.
def job : Order → Job Response
  | .create kind item => answered (fun item : Item kind => .json 201 item.encode) (Library.creating item)
  | .fetch place =>
      answered (fun item : Item place.kind => .json 200 item.encode)
        (place.kind.fetch (Item.decoder place.kind) place.name place.version)
  | .delete place => answered writeNothing (place.kind.delete place.name place.version)
  | .add name version entry =>
      answered (writeGroup 200) ((Group.fetch name version).andThen fun group =>
        (group.add entry).bind fun
          | none => .done (.error (.alreadyExists
              (inGroup (entry.configuration.name ++ "/" ++ entry.configuration.version) name version)))
          | some group => group.update.andThen fun _ => .done (.ok group))
  | .remove name version entryId =>
      answered (writeGroup 200) ((Group.fetch name version).andThen fun group =>
        if group.hasEntry entryId then
          (group.remove entryId).update.andThen fun _ => .done (.ok (group.remove entryId))
        else .done (.error (.notFound (inGroup entryId name version))))
  | .list name version filter =>
      answered writeEntries ((Group.fetch name version).andThen fun group => .done (.ok (group.select filter)))
  | .discard name version filter =>
      answered writeDeleted ((Group.fetch name version).andThen fun group =>
        (group.discard filter).update.andThen fun _ => .done (.ok (group.select filter).length))

def handler : Except Response Order → Job Response
  | .ok order => order.job
  | .error response => .done response

def reads : Order → Bool
  | .fetch _ | .list .. => true
  | _ => false

def Sound (order : Order) : Prop := checkPath order.place.name order.place.version = .ok ()

-- A handler that does what is demanded, and demands nothing off the path.
structure Means (written : Job Response) (demand : Except Response Order) : Prop where
  does : written = handler demand
  sound : ∀ order, demand = .ok order → order.Sound

section Parts

variable {α β : Type} {kind : Kind} {name version : Bytes} {query : Option Bytes}

theorem means_refusal (response : Response) : Means (.done response) (.error response) :=
  ⟨rfl, fun _ same => by cases same⟩

theorem means_checked {check : Except ServiceFailure α} {next : α → Job (Except ServiceFailure β)}
    {write : β → Response} {demand : α → Except Response Order}
    (ordered : ∀ value, check = .ok value → Means (answered write (next value)) (demand value)) :
    Means (answered write (checked check next)) (refused check >>= demand) := by
  cases check with
  | ok value => exact ordered value rfl
  | error failure => exact means_refusal failure.response

theorem means_names {next : String → String → Job Response} {demand : String × String → Except Response Order}
    (ordered : ∀ name version, Means (next name version) (demand (name, version))) :
    Means (withNames name version next) (namesOf name version >>= demand) := by
  rw [withNames, namesOf]
  cases Text.ofBytes? (Text.percentDecode name) with
  | none => exact means_refusal _
  | some name => cases Text.ofBytes? (Text.percentDecode version) with
    | none => exact means_refusal _
    | some version => exact ordered name version

theorem means_labels {next : Option String → Job Response} {demand : Option String → Except Response Order}
    (ordered : ∀ labels, Means (next labels) (demand labels)) :
    Means (withLabels query next) (labelsOf query >>= demand) := by
  rw [withLabels, labelsOf]
  cases (Text.formPairs (query.getD [])).filter fun pair => pair.1 == "labels" with
  | nil => exact ordered none
  | cons pair others => cases others with
    | nil => exact ordered (some pair.2)
    | cons => exact means_refusal _

theorem means_place {next : String → String → Job Response} {demand : Place → Except Response Order}
    (ordered : ∀ name version,
      Means (next name version) (refused (checkPath name version) >>= fun _ => demand ⟨kind, name, version⟩)) :
    Means (withNames name version next) (placeOf kind name version >>= demand) := by
  rw [placeOf, bind_assoc]
  apply means_names
  intro name version
  rw [bind_assoc]
  exact ordered name version

theorem means_labelled {next : String → String → Option String → Job Response}
    {demand : Place × LabelFilter → Except Response Order}
    (ordered : ∀ name version labels, Means (next name version labels) (do
      refused (checkPath name version)
      let filter ← refused (LabelFilter.parse labels)
      demand (⟨.group, name, version⟩, filter))) :
    Means (withNames name version fun name version => withLabels query (next name version))
      (labelled name version query >>= demand) := by
  rw [labelled, bind_assoc]
  apply means_names
  intro name version
  rw [bind_assoc]
  apply means_labels
  intro labels
  simp only [bind_assoc]
  exact ordered name version labels

end Parts

section Orders

theorem means_job (order : Order) (path : order.Sound) : Means order.job (.ok order) :=
  ⟨rfl, fun _ same => by cases same; exact path⟩

theorem checked_path {kind : Kind} {item : Item kind} (valid : item.check = .ok ()) :
    checkPath item.name item.version = .ok () := by
  cases kind with
  | configuration => exact header_path (unit_bind_ok.mp valid).1
  | group => exact header_path ((group_check_iff item).mp valid).1

theorem creation_means (kind : Kind) (request : Request) :
    Means (answered (fun item : Item kind => .json 201 item.encode)
      (checked (readBody (Item.decoder kind) request) fun item => checked item.check fun _ => Library.creating item))
      (creation kind request) :=
  means_checked fun item _ => means_checked fun _ valid => means_job (.create kind item) (checked_path valid)

theorem mutate_means (request : Request) (query : Option Bytes) (route : Route) :
    Means (mutate request query route) (ofChange request query route) := by
  cases route with
  | configurations => exact creation_means .configuration request
  | configuration name version =>
      refine means_place fun name version => means_checked fun _ path => ?_
      exact means_job (.delete ⟨.configuration, name, version⟩) path
  | groups => exact creation_means .group request
  | group name version =>
      refine means_place fun name version => means_checked fun _ path => ?_
      exact means_job (.delete ⟨.group, name, version⟩) path
  | addEntry name version =>
      refine means_place fun name version => means_checked fun _ path => means_checked fun entry _ => ?_
      exact means_checked fun _ _ => means_job (.add name version entry) path
  | removeEntry name version =>
      refine means_place fun name version => means_checked fun _ path => means_checked fun entryId _ => ?_
      exact means_job (.remove name version entryId) path
  | entries name version =>
      refine means_labelled fun name version labels => means_checked fun _ path => means_checked fun filter _ => ?_
      dsimp only
      by_cases blank : filter.isEmpty = true
      · rw [if_pos blank, if_pos blank]
        exact means_refusal _
      · rw [if_neg blank, if_neg blank]
        exact means_job (.discard name version filter) path
  | health => exact means_refusal _

theorem inspect_means (clock : Clock) (query : Option Bytes) {route : Route} (items : route ≠ .health) :
    Means (inspect clock query route) (ofLook query route) := by
  cases route with
  | configuration name version =>
      refine means_place fun name version => means_checked fun _ path => ?_
      exact means_job (.fetch ⟨.configuration, name, version⟩) path
  | group name version =>
      refine means_place fun name version => means_checked fun _ path => ?_
      exact means_job (.fetch ⟨.group, name, version⟩) path
  | entries name version =>
      refine means_labelled fun name version labels => means_checked fun _ path => means_checked fun filter _ => ?_
      exact means_job (.list name version filter) path
  | health => exact absurd rfl items
  | _ => exact means_refusal _

theorem look_reads {query : Option Bytes} {route : Route} {order : Order} (asked : ofLook query route = .ok order) :
    order.reads = true := by
  cases route with
  | configuration name version =>
      rw [ofLook] at asked
      cases found : placeOf .configuration name version <;> rw [found] at asked <;> cases asked
      rfl
  | group name version =>
      rw [ofLook] at asked
      cases found : placeOf .group name version <;> rw [found] at asked <;> cases asked
      rfl
  | entries name version =>
      rw [ofLook] at asked
      cases found : labelled name version query <;> rw [found] at asked <;> cases asked
      rfl
  | _ => cases asked

theorem route_sound {request : Request} {query : Option Bytes} {route : Route} {order : Order}
    (asked : ofRoute request query route = .ok order) : order.Sound := by
  rw [ofRoute] at asked
  split at asked
  · cases asked
  · split at asked
    · exact (mutate_means request query route).sound order asked
    · split at asked
      · by_cases health : route = .health
        · rw [health] at asked
          cases asked
        · exact (inspect_means ⟨0, 0, 0⟩ query health).sound order asked
      · cases asked

theorem request_sound {request : Request} {order : Order} (asked : ofRequest request = .ok order) : order.Sound := by
  rw [ofRequest] at asked
  split at asked
  · exact route_sound asked
  · cases asked

end Orders

end Order
end ConfigRegistry
