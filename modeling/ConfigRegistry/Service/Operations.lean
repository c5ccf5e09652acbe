import ConfigRegistry.Catalog.LabelFilter
import ConfigRegistry.Catalog.Naming
import ConfigRegistry.Catalog.Rules
import ConfigRegistry.Catalog.Shelf

set_option autoImplicit false

/-!
What clients may do with the catalog. Every operation checks what it is given before it looks into the store.
-/
namespace ConfigRegistry.Service

open Catalog
open Work (Job)

def checked {α β : Type} (check : Except ServiceFailure α) (next : α → Job (Except ServiceFailure β)) :
    Job (Except ServiceFailure β) :=
  match check with
  | .ok value => next value
  | .error failure => .done (.error failure)

def createConfiguration (configuration : Configuration) : Job (Except ServiceFailure Configuration) :=
  checked configuration.check fun _ =>
    configuration.renamed.bind fun configuration =>
      configuration.create.andThen fun _ => .done (.ok configuration)

def getConfiguration (name version : String) : Job (Except ServiceFailure Configuration) :=
  checked (checkPath name version) fun _ => Configuration.fetch name version

def deleteConfiguration (name version : String) : Job (Except ServiceFailure Unit) :=
  checked (checkPath name version) fun _ => Kind.configuration.delete name version

def createGroup (group : Group) : Job (Except ServiceFailure Group) :=
  checked group.check fun _ =>
    group.named.bind fun group => group.create.andThen fun _ => .done (.ok group)

def getGroup (name version : String) : Job (Except ServiceFailure Group) :=
  checked (checkPath name version) fun _ => Group.fetch name version

def deleteGroup (name version : String) : Job (Except ServiceFailure Unit) :=
  checked (checkPath name version) fun _ => Kind.group.delete name version

def inGroup (what name version : String) : String :=
  "configuration " ++ what ++ " in group " ++ name ++ "/" ++ version

def addEntry (name version : String) (entry : Except ServiceFailure Entry) : Job (Except ServiceFailure Group) :=
  -- The path is checked before the entry is even read.
  checked (checkPath name version) fun _ => checked entry fun entry => checked entry.check fun _ =>
    (Group.fetch name version).andThen fun group =>
      (group.add entry).bind fun
        | none => .done (.error (.alreadyExists
            (inGroup (entry.configuration.name ++ "/" ++ entry.configuration.version) name version)))
        | some group => group.update.andThen fun _ => .done (.ok group)

def removeEntry (name version : String) (entryId : Except ServiceFailure String) :
    Job (Except ServiceFailure Group) :=
  checked (checkPath name version) fun _ => checked entryId fun entryId =>
    (Group.fetch name version).andThen fun group =>
      if group.hasEntry entryId then
        (group.remove entryId).update.andThen fun _ => .done (.ok (group.remove entryId))
      else .done (.error (.notFound (inGroup entryId name version)))

def listEntries (name version : String) (labels : Option String) : Job (Except ServiceFailure (List Entry)) :=
  checked (checkPath name version) fun _ => checked (LabelFilter.parse labels) fun filter =>
    (Group.fetch name version).andThen fun group => .done (.ok (group.select filter))

def deleteEntries (name version : String) (labels : Option String) : Job (Except ServiceFailure Nat) :=
  checked (checkPath name version) fun _ => checked (LabelFilter.parse labels) fun filter =>
    -- A filter that passes everything would empty the group.
    if filter.isEmpty then .done (.error (.badRequest "labels query param is required"))
    else
      (Group.fetch name version).andThen fun group =>
        (group.discard filter).update.andThen fun _ => .done (.ok (group.select filter).length)

end ConfigRegistry.Service
