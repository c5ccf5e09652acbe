import ConfigRegistry.Catalog.Item
import ConfigRegistry.Failure
import ConfigRegistry.Text.Blank

set_option autoImplicit false

/-!
Label filters as text: keys and values around colons, pairs between semicolons.
-/
namespace ConfigRegistry.Catalog

open Text (trimChars splitAtChar)

def readPair (pair : List Char) : Except ServiceFailure (String × String) :=
  if pair.contains ':' then
    let key := trimChars (pair.takeWhile fun c => c ≠ ':')
    let value := trimChars ((pair.dropWhile fun c => c ≠ ':').drop 1)
    if key.isEmpty || value.isEmpty then
      .error (.badRequest "invalid labels format, empty key or value")
    else .ok (String.ofList key, String.ofList value)
  else .error (.badRequest "invalid labels format, expected key:value;key2:value2")

def readPairs (filter : LabelFilter) : List (List Char) → Except ServiceFailure LabelFilter
  | [] => .ok filter
  | pair :: rest => do
      let (key, value) ← readPair pair
      readPairs (filter.insert key value) rest

-- Blank pieces count for nothing, and a later pair replaces an earlier one of the same key. A text that is missing
-- or blank is the filter that passes everything.
def LabelFilter.parse : Option String → Except ServiceFailure LabelFilter
  | none => .ok .empty
  | some text =>
      readPairs .empty (((splitAtChar ';' text.toList).map trimChars).filter fun pair => !pair.isEmpty)

end ConfigRegistry.Catalog
