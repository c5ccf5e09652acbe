import ConfigRegistry.Catalog.Codec
import ConfigRegistry.Work.Job

set_option autoImplicit false

/-!
Where items are kept in the record store: each under its kind, name and version.
-/
namespace ConfigRegistry.Catalog

open Work (Job)
open Json (Decoder)

inductive Kind where
  | configuration
  | group
deriving DecidableEq, Repr

namespace Kind

def shelf : Kind → String
  | configuration => "configs"
  | group => "groups"

def noun : Kind → String
  | configuration => "config"
  | group => "group"

def key (kind : Kind) (name version : String) : String := kind.shelf ++ "/" ++ name ++ "/" ++ version

def describe (kind : Kind) (name version : String) : String := kind.noun ++ " " ++ name ++ "/" ++ version

def create (kind : Kind) (name version : String) (value : Bytes) : Job (Except ServiceFailure Unit) :=
  (Job.stored (.create (kind.key name version) value)).andThen fun written =>
    .done (if written then .ok () else .error (.alreadyExists (kind.describe name version)))

def fetch {α : Type} (kind : Kind) (decoder : Decoder α) (name version : String) : Job (Except ServiceFailure α) :=
  (Job.stored (.get (kind.key name version))).andThen fun found =>
    .done (match found with
      | none => .error (.notFound (kind.describe name version))
      | some bytes => (decoder.whole bytes).mapError ServiceFailure.ofJson)

def update (kind : Kind) (name version : String) (value : Bytes) : Job (Except ServiceFailure Unit) :=
  Job.stored (.put (kind.key name version) value)

def delete (kind : Kind) (name version : String) : Job (Except ServiceFailure Unit) :=
  (Job.stored (.delete (kind.key name version))).andThen fun existed =>
    .done (if existed then .ok () else .error (.notFound (kind.describe name version)))

end Kind

def Configuration.create (configuration : Configuration) : Job (Except ServiceFailure Unit) :=
  Kind.configuration.create configuration.name configuration.version configuration.encode

def Configuration.fetch (name version : String) : Job (Except ServiceFailure Configuration) :=
  Kind.configuration.fetch Configuration.decoder name version

def Group.create (group : Group) : Job (Except ServiceFailure Unit) :=
  Kind.group.create group.name group.version group.encode

def Group.fetch (name version : String) : Job (Except ServiceFailure Group) :=
  Kind.group.fetch Group.decoder name version

def Group.update (group : Group) : Job (Except ServiceFailure Unit) :=
  Kind.group.update group.name group.version group.encode

end ConfigRegistry.Catalog
