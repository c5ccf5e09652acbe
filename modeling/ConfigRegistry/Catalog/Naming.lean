import ConfigRegistry.Catalog.Item
import ConfigRegistry.Work.Job

set_option autoImplicit false

/-!
Giving ids to items. An id that is there already is kept.
-/
namespace ConfigRegistry.Catalog

open Work (Job)

def namedId (id : String) : Job String := if id = "" then .freshId else .done id

def Configuration.renamed (configuration : Configuration) : Job Configuration :=
  Job.freshId.bind fun id => .done { configuration with id }

def Entry.named (entry : Entry) : Job Entry :=
  -- The entry's own id is given before that of its configuration.
  (namedId entry.id).bind fun id =>
    (namedId entry.configuration.id).bind fun inner =>
      .done { entry with id, configuration := { entry.configuration with id := inner } }

def namedEntries : List Entry → Job (List Entry)
  | [] => .done []
  | entry :: rest =>
      entry.named.bind fun entry => (namedEntries rest).bind fun entries => .done (entry :: entries)

def Group.named (group : Group) : Job Group :=
  (namedId group.id).bind fun id =>
    (namedEntries group.entries).bind fun entries => .done { group with id, entries }

def Group.add (group : Group) (entry : Entry) : Job (Option Group) :=
  if group.holds entry.configuration.name entry.configuration.version then .done none
  else entry.named.bind fun entry => .done (some (group.append entry))

end ConfigRegistry.Catalog
