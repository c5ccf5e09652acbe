import ConfigRegistry.Http.Target
import ConfigRegistry.Service.Body
import ConfigRegistry.Service.Health
import ConfigRegistry.Service.Operations

set_option autoImplicit false

/-!
The paths of the service and what each of them does.
-/
namespace ConfigRegistry.Service

open Catalog
open Http (Request Response Target)
open Work (Job)

inductive Route where
  | configurations
  | configuration (name version : Bytes)
  | groups
  | group (name version : Bytes)
  | addEntry (name version : Bytes)
  | removeEntry (name version : Bytes)
  | entries (name version : Bytes)
  | health
deriving DecidableEq, Repr

namespace Route

def find? (segments : List Bytes) : Option Route :=
  let is (segment : Bytes) (word : String) : Bool := segment == Text.toBytes word
  match segments with
  | [only] =>
      if is only "configs" then some configurations
      else if is only "groups" then some groups
      else if is only "health" then some health
      else none
  | [shelf, name, versions, version] =>
      if name.isEmpty || version.isEmpty || !is versions "versions" then none
      else if is shelf "configs" then some (configuration name version)
      else if is shelf "groups" then some (group name version)
      else none
  | [shelf, name, versions, version, action] =>
      if name.isEmpty || version.isEmpty || !is versions "versions" || !is shelf "groups" then none
      else if is action "add-config" then some (addEntry name version)
      else if is action "remove-config" then some (removeEntry name version)
      else if is action "configs" then some (entries name version)
      else none
  | _ => none

def mutation? : Route → Option String
  | configurations | groups | addEntry .. | removeEntry .. => some "POST"
  | configuration .. | group .. | entries .. => some "DELETE"
  | health => none

def isReadable : Route → Bool
  | configuration .. | group .. | entries .. | health => true
  | _ => false

def allowed (route : Route) : String :=
  ",".intercalate (route.mutation?.toList ++ if route.isReadable then ["GET", "HEAD"] else [])

end Route

def answered {α : Type} (write : α → Response) (job : Job (Except ServiceFailure α)) : Job Response :=
  job.bind fun
    | .ok value => .done (write value)
    | .error failure => .done failure.response

def writeConfiguration (status : UInt16) (configuration : Configuration) : Response := .json status configuration.encode

def writeGroup (status : UInt16) (group : Group) : Response := .json status group.encode

def writeEntries (entries : List Entry) : Response := .json 200 (Json.render (entriesTokens entries))

def writeDeleted (count : Nat) : Response := .json 200 (Json.render (Json.object [("deleted", [.ofNat count])]))

def writeNothing (_ : Unit) : Response := .empty 204

def withNames (name version : Bytes) (next : String → String → Job Response) : Job Response :=
  let refuse (part : String) : Job Response := .done (.plain 400 ("Invalid URL: Invalid UTF-8 in `" ++ part ++ "`"))
  match Text.ofBytes? (Text.percentDecode name), Text.ofBytes? (Text.percentDecode version) with
  | none, _ => refuse "name"
  | _, none => refuse "version"
  | some name, some version => next name version

def withLabels (query : Option Bytes) (next : Option String → Job Response) : Job Response :=
  match (Text.formPairs (query.getD [])).filter fun pair => pair.1 == "labels" with
  | [] => next none
  | [pair] => next (some pair.2)
  | _ => .done (.plain 400 "Failed to deserialize query string: duplicate field `labels`")

def mutate (request : Request) (query : Option Bytes) : Route → Job Response
  | .configurations =>
      answered (writeConfiguration 201) (checked (readBody Configuration.decoder request) createConfiguration)
  | .configuration name version => withNames name version fun name version =>
      answered writeNothing (deleteConfiguration name version)
  | .groups => answered (writeGroup 201) (checked (readBody Group.decoder request) createGroup)
  | .group name version => withNames name version fun name version =>
      answered writeNothing (deleteGroup name version)
  | .addEntry name version => withNames name version fun name version =>
      answered (writeGroup 200) (addEntry name version (readBody Entry.decoder request))
  | .removeEntry name version => withNames name version fun name version =>
      answered (writeGroup 200) (removeEntry name version (readBody removalDecoder request))
  | .entries name version => withNames name version fun name version => withLabels query fun labels =>
      answered writeDeleted (deleteEntries name version labels)
  | .health => .done (.empty 405)

def inspect (clock : Clock) (query : Option Bytes) : Route → Job Response
  | .configuration name version => withNames name version fun name version =>
      answered (writeConfiguration 200) (getConfiguration name version)
  | .group name version => withNames name version fun name version =>
      answered (writeGroup 200) (getGroup name version)
  | .entries name version => withNames name version fun name version => withLabels query fun labels =>
      answered writeEntries (listEntries name version labels)
  | .health => health clock
  | _ => .done (.empty 405)

end ConfigRegistry.Service
