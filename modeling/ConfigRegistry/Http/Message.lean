import ConfigRegistry.Text.Bytes
import ConfigRegistry.Net.Address

set_option autoImplicit false

/-!
The parts of an HTTP request and of an answer that the service reads and writes.
-/
namespace ConfigRegistry.Http

structure Request where
  method : String
  target : Bytes
  keys : List Bytes := []
  contentType : Option Bytes := none
  body : Bytes := []
  client : Option Net.Address := none
deriving DecidableEq, Repr

-- A status code is written as the number that it is.
instance numberOfCode : Coe UInt16 Nat := ⟨UInt16.toNat⟩

structure Response where
  status : UInt16
  contentType : Option String := none
  retryAfter : Option String := none
  replayed : Option String := none
  allow : Option String := none
  body : Bytes := []
deriving DecidableEq, Repr, Inhabited

def jsonType : String := "application/json"
def plainType : String := "text/plain; charset=utf-8"

def Response.json (status : UInt16) (body : Bytes) : Response :=
  { status, contentType := some jsonType, body }

def Response.plain (status : UInt16) (text : String) : Response :=
  { status, contentType := some plainType, body := Text.toBytes text }

def Response.empty (status : UInt16) : Response := { status }

end ConfigRegistry.Http
