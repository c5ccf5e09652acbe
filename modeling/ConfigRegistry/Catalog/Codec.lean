import ConfigRegistry.Catalog.Item
import ConfigRegistry.Json.Layout

set_option autoImplicit false

/-!
The JSON of configurations, entries and groups: every field is written, in one order; ids, parameters, labels
and entries may be left out when read.
-/
namespace ConfigRegistry.Catalog

open Json (Token Decoder Layout Field)

def pairsTokens (map : KeyMap String) : List Token :=
  Json.object (map.entries.map fun pair => (pair.1, [.ofText pair.2]))

namespace Configuration

def tokens (configuration : Configuration) : List Token :=
  Json.object [("id", [.ofText configuration.id]), ("name", [.ofText configuration.name]),
    ("version", [.ofText configuration.version]), ("parameters", pairsTokens configuration.parameters)]

def encode (configuration : Configuration) : Bytes := Json.render configuration.tokens

structure Draft where
  id : Option String := none
  name : Option String := none
  version : Option String := none
  parameters : Option (KeyMap String) := none

def layout : Layout Draft where
  title := "struct Config"
  fields :=
    [{ name := "id", required := false, filled := fun draft => draft.id.isSome,
       read := fun draft => Json.text.map fun id => { draft with id := some id } },
     { name := "name", required := true, filled := fun draft => draft.name.isSome,
       read := fun draft => Json.text.map fun name => { draft with name := some name } },
     { name := "version", required := true, filled := fun draft => draft.version.isSome,
       read := fun draft => Json.text.map fun version => { draft with version := some version } },
     { name := "parameters", required := false, filled := fun draft => draft.parameters.isSome,
       read := fun draft => (Json.keyMap Json.text).map fun map => { draft with parameters := some map } }]

def ofDraft (draft : Draft) : Configuration where
  id := draft.id.getD ""
  name := draft.name.getD ""
  version := draft.version.getD ""
  parameters := draft.parameters.getD .empty

def decoder : Decoder Configuration := Decoder.map ofDraft (layout.read {})

end Configuration

namespace Entry

def tokens (entry : Entry) : List Token :=
  Json.object [("id", [.ofText entry.id]), ("configuration", entry.configuration.tokens),
    ("labels", pairsTokens entry.labels)]

structure Draft where
  id : Option String := none
  configuration : Option Configuration := none
  labels : Option (KeyMap String) := none

def layout : Layout Draft where
  title := "struct LabeledConfig"
  fields :=
    [{ name := "id", required := false, filled := fun draft => draft.id.isSome,
       read := fun draft => Json.text.map fun id => { draft with id := some id } },
     { name := "configuration", required := true, filled := fun draft => draft.configuration.isSome,
       read := fun draft => Configuration.decoder.map fun found => { draft with configuration := some found } },
     { name := "labels", required := false, filled := fun draft => draft.labels.isSome,
       read := fun draft => (Json.keyMap Json.text).map fun map => { draft with labels := some map } }]

def ofDraft (draft : Draft) : Entry where
  id := draft.id.getD ""
  configuration := draft.configuration.getD ⟨"", "", "", .empty⟩
  labels := draft.labels.getD .empty

def decoder : Decoder Entry := Decoder.map ofDraft (layout.read {})

end Entry

def entriesTokens (entries : List Entry) : List Token := Json.array (entries.map Entry.tokens)

namespace Group

def tokens (group : Group) : List Token :=
  Json.object [("id", [.ofText group.id]), ("name", [.ofText group.name]), ("version", [.ofText group.version]),
    ("configurations", entriesTokens group.entries)]

def encode (group : Group) : Bytes := Json.render group.tokens

structure Draft where
  id : Option String := none
  name : Option String := none
  version : Option String := none
  entries : Option (List Entry) := none

def layout : Layout Draft where
  title := "struct ConfigGroup"
  fields :=
    [{ name := "id", required := false, filled := fun draft => draft.id.isSome,
       read := fun draft => Json.text.map fun id => { draft with id := some id } },
     { name := "name", required := true, filled := fun draft => draft.name.isSome,
       read := fun draft => Json.text.map fun name => { draft with name := some name } },
     { name := "version", required := true, filled := fun draft => draft.version.isSome,
       read := fun draft => Json.text.map fun version => { draft with version := some version } },
     { name := "configurations", required := false, filled := fun draft => draft.entries.isSome,
       read := fun draft => (Json.list Entry.decoder).map fun entries => { draft with entries := some entries } }]

def ofDraft (draft : Draft) : Group where
  id := draft.id.getD ""
  name := draft.name.getD ""
  version := draft.version.getD ""
  entries := draft.entries.getD []

def decoder : Decoder Group := Decoder.map ofDraft (layout.read {})

end Group
end ConfigRegistry.Catalog
