import ConfigRegistry.Catalog.Item
import ConfigRegistry.Failure
import ConfigRegistry.Text.Blank

set_option autoImplicit false

/-!
What an item must be like to be accepted.
-/
namespace ConfigRegistry.Catalog

open Text (isBlankText)

def nameLimit : Nat := 128
def versionLimit : Nat := 64

def isIdentifierChar (c : Char) : Bool :=
  ('A' ≤ c && c ≤ 'Z') || ('a' ≤ c && c ≤ 'z') || ('0' ≤ c && c ≤ '9') || c = '.' || c = '_' || c = '-'

def isIdentifier (text : String) : Bool := !text.isEmpty && text.toList.all isIdentifierChar

def hasLength (limit : Nat) (text : String) : Bool := 1 ≤ text.length && text.length ≤ limit

def checkLengths (name version : String) : Except ServiceFailure Unit :=
  -- Lengths are looked at together, so both can be reported.
  match hasLength nameLimit name, hasLength versionLimit version with
  | true, true => .ok ()
  | false, true => .error (.validationError "name: name is required")
  | true, false => .error (.validationError "version: version is required")
  | false, false => .error (.validationError "name: name is required\nversion: version is required")

def checkIdentifier (field value : String) : Except ServiceFailure Unit :=
  if isIdentifier value then .ok ()
  else .error (.validationError
    (field ++ " can only contain alphanumeric characters, dots, hyphens, and underscores"))

-- The name and version in a path, which have no limit of length.
def checkPath (name version : String) : Except ServiceFailure Unit := do
  checkIdentifier "name" name
  checkIdentifier "version" version

def checkHeader (name version : String) : Except ServiceFailure Unit := do
  checkLengths name version
  checkPath name version

def Configuration.check (configuration : Configuration) : Except ServiceFailure Unit := do
  checkHeader configuration.name configuration.version
  if configuration.parameters.entries.any fun pair => isBlankText pair.1 then
    .error (.validationError "parameter keys cannot be empty")

def Entry.check (entry : Entry) : Except ServiceFailure Unit := do
  entry.configuration.check
  if entry.labels.entries.any fun pair => isBlankText pair.1 || isBlankText pair.2 then
    .error (.validationError "labels cannot have empty keys or values")

-- Checks the entries in order; `seen` are the names and versions before them.
def checkEntries (seen : List (String × String)) : List Entry → Except ServiceFailure Unit
  | [] => .ok ()
  | entry :: rest => do
      entry.check
      let name := entry.configuration.name
      let version := entry.configuration.version
      if seen.contains (name, version) then
        .error (.validationError ("configuration " ++ name ++ "/" ++ version ++ " appears more than once"))
      else checkEntries ((name, version) :: seen) rest

def Group.check (group : Group) : Except ServiceFailure Unit := do
  checkHeader group.name group.version
  checkEntries [] group.entries

end ConfigRegistry.Catalog
