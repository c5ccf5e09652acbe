import ConfigRegistry.Text.Quoted

set_option autoImplicit false

/-!
What is wrong with JSON that was to be read as a value of a certain type, and where. A problem carries the path
from the value being read to its place.
-/
namespace ConfigRegistry.Json

inductive Found where
  | null
  | boolean (value : Bool)
  | integer (value : Int)
  | real (shown : String)
  | text (value : String)
  | sequence
  | map
deriving DecidableEq, Repr

def Found.describe : Found → String
  | .null => "null"
  | .boolean true => "boolean `true`"
  | .boolean false => "boolean `false`"
  | .integer value => "integer `" ++ toString value ++ "`"
  | .real shown => "floating point `" ++ shown ++ "`"
  | .text value => "string " ++ Text.quoted value
  | .sequence => "sequence"
  | .map => "map"

inductive Problem where
  | wrongType (found : Found) (expected : String)
  | wrongValue (found : Found) (expected : String)
  | missingField (name : String)
  | duplicateField (name : String)
  | unknownVariant (name : String) (expected : String)
  | wrongLength (length : Nat) (expected : String)
deriving DecidableEq, Repr

def Problem.message : Problem → String
  | .wrongType found expected => "invalid type: " ++ found.describe ++ ", expected " ++ expected
  | .wrongValue found expected => "invalid value: " ++ found.describe ++ ", expected " ++ expected
  | .missingField name => "missing field `" ++ name ++ "`"
  | .duplicateField name => "duplicate field `" ++ name ++ "`"
  | .unknownVariant name expected => "unknown variant `" ++ name ++ "`, expected " ++ expected
  | .wrongLength length expected => "invalid length " ++ toString length ++ ", expected " ++ expected

inductive Segment where
  | key (name : String)
  | index (position : Nat)
deriving DecidableEq, Repr

-- The text of a path: indices in brackets, names separated by points.
def pathText : List Segment → String
  | [] => ""
  | first :: rest =>
      let step (segment : Segment) (lead : String) : String := match segment with
        | .key name => lead ++ name
        | .index position => "[" ++ toString position ++ "]"
      rest.foldl (fun text segment => text ++ step segment ".") (step first "")

inductive Failure where
  | malformed
  | invalid (path : List Segment) (problem : Problem)
deriving DecidableEq, Repr

def Failure.message : Failure → String
  | .malformed => "<json syntax>"
  | .invalid _ problem => problem.message

def Failure.located : Failure → String
  | .malformed => "<json syntax>"
  | .invalid [] problem => problem.message
  | .invalid path problem => pathText path ++ ": " ++ problem.message

def Failure.under (segment : Segment) : Failure → Failure
  | .malformed => .malformed
  | .invalid path problem => .invalid (segment :: path) problem

end ConfigRegistry.Json
