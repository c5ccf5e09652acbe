import ConfigRegistry.KeyMap

set_option autoImplicit false

/-!
Configurations, and groups of configurations that carry labels.
-/
namespace ConfigRegistry.Catalog

structure Configuration where
  id : String := ""
  name : String
  version : String
  parameters : KeyMap String := .empty
deriving DecidableEq, Repr

structure Entry where
  id : String := ""
  configuration : Configuration
  labels : KeyMap String := .empty
deriving DecidableEq, Repr

structure Group where
  id : String := ""
  name : String
  version : String
  entries : List Entry := []
deriving DecidableEq, Repr

-- Labels that an entry has to carry, all of them; no labels pass every entry.
abbrev LabelFilter := KeyMap String

def Entry.carries (entry : Entry) (filter : LabelFilter) : Bool :=
  filter.entries.all fun label => entry.labels.get? label.1 == some label.2

def Entry.isOf (entry : Entry) (name version : String) : Bool :=
  entry.configuration.name == name && entry.configuration.version == version

namespace Group

def holds (group : Group) (name version : String) : Bool :=
  group.entries.any fun entry => entry.isOf name version

def select (group : Group) (filter : LabelFilter) : List Entry :=
  group.entries.filter fun entry => entry.carries filter

def append (group : Group) (entry : Entry) : Group := { group with entries := group.entries ++ [entry] }

def remove (group : Group) (entryId : String) : Group :=
  { group with entries := group.entries.filter fun entry => entry.id != entryId }

def hasEntry (group : Group) (entryId : String) : Bool := group.entries.any fun entry => entry.id == entryId

def discard (group : Group) (filter : LabelFilter) : Group :=
  { group with entries := group.entries.filter fun entry => !entry.carries filter }

end Group
end ConfigRegistry.Catalog
