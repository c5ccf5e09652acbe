import Mathlib.Data.Finmap
import ConfigRegistry.Service.Pipeline
import ConfigRegistry.Session.Machine

set_option autoImplicit false

/-!
The catalog as a finite map from kinds, names and versions to items, and what each request does to it. Main statement:
an order changes what lies at its own place and nothing else, and what it answers hangs on that place alone.
-/
namespace ConfigRegistry

open Catalog
open Http (Request Response Target)
open Service (Route)

abbrev Item : Kind → Type
  | .configuration => Configuration
  | .group => Group

structure Place where
  kind : Kind
  name : String
  version : String
deriving DecidableEq, Repr

structure Library where
  items : Finmap fun place : Place => Item place.kind
  -- How many ids were given.
  ids : Nat

def numberId (id : String) : StateM Nat String := do
  if id = "" then
    modify Nat.succ
    return Session.idText (← get)
  else return id

def numberEntry (entry : Entry) : StateM Nat Entry := do
  let id ← numberId entry.id
  let inner ← numberId entry.configuration.id
  return { entry with id, configuration := { entry.configuration with id := inner } }

namespace Item

def name : {kind : Kind} → Item kind → String
  | .configuration, configuration => Configuration.name configuration
  | .group, group => Group.name group

def version : {kind : Kind} → Item kind → String
  | .configuration, configuration => Configuration.version configuration
  | .group, group => Group.version group

def encode : {kind : Kind} → Item kind → Bytes
  | .configuration, configuration => Configuration.encode configuration
  | .group, group => Group.encode group

def decoder : (kind : Kind) → Json.Decoder (Item kind)
  | .configuration => Configuration.decoder
  | .group => Group.decoder

def check : {kind : Kind} → Item kind → Except ServiceFailure Unit
  | .configuration, configuration => Configuration.check configuration
  | .group, group => Group.check group

-- A configuration always gets an id of its own; a group and its entries get those that they lack.
def numbered : {kind : Kind} → Item kind → StateM Nat (Item kind)
  | .configuration, configuration => do
      let id ← numberId ""
      return { (configuration : Configuration) with id }
  | .group, group => do
      let id ← numberId (Group.id group)
      let entries ← (Group.entries group).mapM numberEntry
      return { (group : Group) with id, entries }

end Item

namespace Place

variable (place : Place)

def key : String := place.kind.key place.name place.version

def describe : String := place.kind.describe place.name place.version

def missing : Response := (ServiceFailure.notFound place.describe).response

def taken : Response := (ServiceFailure.alreadyExists place.describe).response

end Place

-- What a request asks for that was understood and found in order.
inductive Order where
  | create (kind : Kind) (item : Item kind)
  | fetch (place : Place)
  | delete (place : Place)
  | add (name version : String) (entry : Entry)
  | remove (name version entryId : String)
  | list (name version : String) (filter : LabelFilter)
  | discard (name version : String) (filter : LabelFilter)

def Order.place : Order → Place
  | create kind item => ⟨kind, item.name, item.version⟩
  | fetch place | delete place => place
  | add name version _ | remove name version _ | list name version _ | discard name version _ => ⟨.group, name, version⟩

namespace Library

def empty : Library := ⟨∅, 0⟩

def put (library : Library) (place : Place) (item : Item place.kind) : Library :=
  { library with items := library.items.insert place item }

def inGroup (library : Library) (name version : String) (act : Group → Response × Library) : Response × Library :=
  match library.items.lookup ⟨.group, name, version⟩ with
  | none => (Place.missing ⟨.group, name, version⟩, library)
  | some group => act group

def carryOut (library : Library) : Order → Response × Library
  | .create kind item =>
      let place : Place := ⟨kind, item.name, item.version⟩
      let given := item.numbered.run library.ids
      match library.items.lookup place with
      | some _ => (place.taken, { library with ids := given.2 })
      | none => (.json 201 given.1.encode, { library.put place given.1 with ids := given.2 })
  | .fetch place => match library.items.lookup place with
      | none => (place.missing, library)
      | some item => (.json 200 item.encode, library)
  | .delete place => match library.items.lookup place with
      | none => (place.missing, library)
      | some _ => (.empty 204, { library with items := library.items.erase place })
  | .add name version entry => library.inGroup name version fun group =>
      let inner := entry.configuration
      if group.entries.any fun other => other.isOf inner.name inner.version then
        let what := Service.inGroup (inner.name ++ "/" ++ inner.version) name version
        ((ServiceFailure.alreadyExists what).response, library)
      else
        let given := (numberEntry entry).run library.ids
        let longer : Group := { group with entries := group.entries ++ [given.1] }
        (.json 200 longer.encode, { library.put ⟨.group, name, version⟩ longer with ids := given.2 })
  | .remove name version entryId => library.inGroup name version fun group =>
      if group.entries.any fun entry => entry.id == entryId then
        let shorter : Group := { group with entries := group.entries.filter fun entry => entry.id != entryId }
        (.json 200 shorter.encode, library.put ⟨.group, name, version⟩ shorter)
      else ((ServiceFailure.notFound (Service.inGroup entryId name version)).response, library)
  | .list name version filter => library.inGroup name version fun group =>
      let found := group.entries.filter fun entry => entry.carries filter
      (.json 200 (Json.render (entriesTokens found)), library)
  | .discard name version filter => library.inGroup name version fun group =>
      let found := group.entries.filter fun entry => entry.carries filter
      let shorter : Group := { group with entries := group.entries.filter fun entry => !entry.carries filter }
      (.json 200 (Json.render (Json.object [("deleted", [.ofNat found.length])])),
        library.put ⟨.group, name, version⟩ shorter)

end Library

namespace Order

def refused {α : Type} (check : Except ServiceFailure α) : Except Response α := check.mapError ServiceFailure.response

def namesOf (name version : Bytes) : Except Response (String × String) :=
  let refuse (part : String) := Except.error (Response.plain 400 ("Invalid URL: Invalid UTF-8 in `" ++ part ++ "`"))
  match Text.ofBytes? (Text.percentDecode name), Text.ofBytes? (Text.percentDecode version) with
  | none, _ => refuse "name"
  | _, none => refuse "version"
  | some name, some version => .ok (name, version)

def labelsOf (query : Option Bytes) : Except Response (Option String) :=
  match (Text.formPairs (query.getD [])).filter fun pair => pair.1 == "labels" with
  | [] => .ok none
  | [pair] => .ok (some pair.2)
  | _ => .error (.plain 400 "Failed to deserialize query string: duplicate field `labels`")

def placeOf (kind : Kind) (name version : Bytes) : Except Response Place := do
  let (name, version) ← namesOf name version
  refused (checkPath name version)
  return ⟨kind, name, version⟩

def creation (kind : Kind) (request : Request) : Except Response Order := do
  let item ← refused (Service.readBody (Item.decoder kind) request)
  refused item.check
  return create kind item

def labelled (name version : Bytes) (query : Option Bytes) : Except Response (Place × LabelFilter) := do
  let (name, version) ← namesOf name version
  let labels ← labelsOf query
  refused (checkPath name version)
  let filter ← refused (LabelFilter.parse labels)
  return (⟨.group, name, version⟩, filter)

def ofChange (request : Request) (query : Option Bytes) : Route → Except Response Order
  | .configurations => creation .configuration request
  | .configuration name version => return delete (← placeOf .configuration name version)
  | .groups => creation .group request
  | .group name version => return delete (← placeOf .group name version)
  | .addEntry name version => do
      let place ← placeOf .group name version
      let entry ← refused (Service.readBody Entry.decoder request)
      refused entry.check
      return add place.name place.version entry
  | .removeEntry name version => do
      let place ← placeOf .group name version
      let entryId ← refused (Service.readBody Service.removalDecoder request)
      return remove place.name place.version entryId
  | .entries name version => do
      let (place, filter) ← labelled name version query
      if filter.isEmpty then throw (ServiceFailure.badRequest "labels query param is required").response
      return discard place.name place.version filter
  | .health => throw (.empty 405)

def ofLook (query : Option Bytes) : Route → Except Response Order
  | .configuration name version => return fetch (← placeOf .configuration name version)
  | .group name version => return fetch (← placeOf .group name version)
  | .entries name version => do
      let (place, filter) ← labelled name version query
      return list place.name place.version filter
  | _ => throw (.empty 405)

def ofRoute (request : Request) (query : Option Bytes) (route : Route) : Except Response Order :=
  let allowing (status : UInt16) : Response := { Response.empty status with allow := some route.allowed }
  if request.method = "OPTIONS" then throw (allowing 200)
  else if route.mutation? = some request.method then ofChange request query route
  else if route.isReadable ∧ (request.method = "GET" ∨ request.method = "HEAD") then ofLook query route
  else throw (allowing 405)

-- What a request to the paths of items comes to: an order, or a refusal whatever the items are.
def ofRequest (request : Request) : Except Response Order :=
  let target := Target.parse request.target
  match Route.find? target.segments with
  | some route => ofRoute request target.query route
  | none => throw (.empty (if request.method = "OPTIONS" then 200 else 404))

end Order

namespace Library

def respond (library : Library) : Except Response Order → Response × Library
  | .ok order => library.carryOut order
  | .error response => (response, library)

def answer (library : Library) (method : String) (demand : Except Response Order) : Response × Library :=
  let response := (library.respond demand).1
  (if method = "HEAD" then { response with body := [] } else response, (library.respond demand).2)

def attend (library : Library) (request : Request) : Response × Library :=
  library.answer request.method (Order.ofRequest request)

def attendAll : Library → List Request → List Response × Library
  | library, [] => ([], library)
  | library, request :: rest =>
      let first := library.attend request
      let others := first.2.attendAll rest
      (first.1 :: others.1, others.2)

section Places

variable {library other : Library} {place : Place}

theorem put_elsewhere (library : Library) {changed : Place} (item : Item changed.kind) (apart : changed ≠ place) :
    (library.put changed item).items.lookup place = library.items.lookup place :=
  Finmap.lookup_insert_of_ne _ apart.symm

theorem in_group_elsewhere {name version : String} {act : Group → Response × Library}
    (keeps : ∀ group, (act group).2.items.lookup place = library.items.lookup place) :
    (library.inGroup name version act).2.items.lookup place = library.items.lookup place := by
  rw [inGroup]
  split
  · rfl
  · exact keeps _

theorem carry_out_elsewhere (library : Library) (order : Order) (apart : order.place ≠ place) :
    (library.carryOut order).2.items.lookup place = library.items.lookup place := by
  cases order with
  | create kind item =>
      simp only [carryOut]
      split
      · rfl
      · exact put_elsewhere library _ apart
  | fetch asked =>
      simp only [carryOut]
      split <;> rfl
  | delete asked =>
      simp only [carryOut]
      split
      · rfl
      · exact Finmap.lookup_erase_ne apart.symm
  | add name version entry =>
      apply in_group_elsewhere
      intro group
      dsimp only
      split
      · rfl
      · exact put_elsewhere library _ apart
  | remove name version entryId =>
      apply in_group_elsewhere
      intro group
      split
      · exact put_elsewhere library _ apart
      · rfl
  | list name version filter => exact in_group_elsewhere fun _ => rfl
  | discard name version filter => exact in_group_elsewhere fun _ => put_elsewhere library _ apart

theorem carry_out_local (order : Order) (ids : other.ids = library.ids)
    (same : other.items.lookup order.place = library.items.lookup order.place) :
    (other.carryOut order).1 = (library.carryOut order).1 := by
  cases order with
  | create kind item =>
      simp only [Order.place] at same
      simp only [carryOut, same, ids]
      split <;> rfl
  | fetch asked =>
      simp only [Order.place] at same
      simp only [carryOut, same]
      split <;> rfl
  | delete asked =>
      simp only [Order.place] at same
      simp only [carryOut, same]
      split <;> rfl
  | add name version entry =>
      simp only [Order.place] at same
      simp only [carryOut, inGroup, same, ids]
      split
      · rfl
      · split <;> rfl
  | remove name version entryId =>
      simp only [Order.place] at same
      simp only [carryOut, inGroup, same]
      split
      · rfl
      · split <;> rfl
  | list name version filter =>
      simp only [Order.place] at same
      simp only [carryOut, inGroup, same]
      split <;> rfl
  | discard name version filter =>
      simp only [Order.place] at same
      simp only [carryOut, inGroup, same]
      split <;> rfl

-- The places that a request asks for; one that is refused out of hand asks for none.
def Names (request : Request) (place : Place) : Prop :=
  ∃ order, Order.ofRequest request = .ok order ∧ order.place = place

theorem attend_elsewhere (library : Library) {request : Request} (unnamed : ¬ Names request place) :
    (library.attend request).2.items.lookup place = library.items.lookup place := by
  rw [attend, answer]
  cases asked : Order.ofRequest request with
  | error response => rfl
  | ok order => exact carry_out_elsewhere library order fun same => unnamed ⟨order, asked, same⟩

theorem attend_local {request : Request} (ids : other.ids = library.ids)
    (same : ∀ place, Names request place → other.items.lookup place = library.items.lookup place) :
    (other.attend request).1 = (library.attend request).1 := by
  rw [attend, attend, answer, answer]
  cases asked : Order.ofRequest request with
  | error response => rfl
  | ok order =>
      have answered : (other.respond (.ok order)).1 = (library.respond (.ok order)).1 :=
        carry_out_local order ids (same order.place ⟨order, asked, rfl⟩)
      rw [answered]

end Places

end Library
end ConfigRegistry
